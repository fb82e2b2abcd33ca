/-
From the declarations of sources to a table of declared types.
A structure with named fields exposes those that have a new name and are not hidden. A structure
around a single unnamed field is another name for its type, and other structures expose nothing. An
enumeration exposes its variants, unless hidden, under their new names or their own. All
declarations of all sources go into one table, in order.
-/
import ApiNotes.Symbol.Shape
import ApiNotes.Symbol.Exposure
import ApiNotes.Symbol.Table
import ApiNotes.Source

namespace ApiNotes

namespace Code

/-- The field as it is exposed. -/
def Field.exposed (f : Field) : Option (String × TypeRef) :=
  let e := Exposure.ofAttributes f.attributes
  if e.hidden then none else e.name.map (·, f.type.shape)

/-- The variant as it is exposed. -/
def Variant.exposed (v : Variant) : Option String :=
  let e := Exposure.ofAttributes v.attributes
  if e.hidden then none else some (e.name.getD v.name)

/-- A declared type as an API exposes it. -/
def Definition.symbol : Definition → Symbol
  | .record fields => .record (fields.filterMap Field.exposed)
  | .tuple [type] => .synonym type.shape
  | .tuple _ => .record []
  | .unit => .record []
  | .enumeration variants => .enumeration (variants.filterMap Variant.exposed)
  | .synonym target =>
    match target.dictionary? with
    | some (key, value) => .dictionary key value
    | none => .synonym target.shape

/-- The declared types of a source, in order. -/
def SourceUnit.symbols (source : SourceUnit) : List (String × Symbol) :=
  source.declarations.map fun d => (d.name, d.definition.symbol)

end Code

open Code (SourceUnit)

/-- The table of the declared types of several sources. -/
def SymbolTable.ofSources (sources : List SourceUnit) : SymbolTable × List Warning :=
  ofDeclarations (sources.flatMap SourceUnit.symbols)

/-- The sources among a list of files, each with its file. A file that is no source ends the
reading, or is left out if `lenient`. -/
def readSources (lenient : Bool) : List SourceFile → Logged Failure (List (SourceFile × SourceUnit))
  | [] => pure []
  | file :: rest =>
    match SourceUnit.ofText? file.content with
    | some source => do
      let others ← readSources lenient rest
      return (file, source) :: others
    | none =>
      if lenient then do
        Logged.warn [.sourceSkipped file.path]
        readSources lenient rest
      else Logged.fail (.unparsable file.path)

end ApiNotes
