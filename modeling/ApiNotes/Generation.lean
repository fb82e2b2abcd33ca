/-
From source files to the documents of all APIs they describe.
The annotations of all files come first, then the types that the files declare, and at last each
document gets the shared schemas it refers to. The first failure ends the run, so that there are
either documents for all APIs or for none.
-/
import ApiNotes.Api.Interpret
import ApiNotes.Resolution
import ApiNotes.Symbol.Extraction

namespace ApiNotes

/-- What can be chosen about a run. -/
structure Options where
  /-- What marks a line as an annotation. -/
  sentinel : String := defaultSentinel
  /-- How many levels of references are followed. -/
  levelCap : Nat := defaultLevelCap
  /-- Whether files that are no valid source are left out instead of ending the run. -/
  lenient : Bool := false
deriving DecidableEq, Repr

/-- The documents of a run, and how much it went through. -/
structure Generation where
  models : List ApiModel
  files : Nat
  annotations : Nat
  declarations : Nat

/-- The model with its shared schemas; types that are not declared are reported together. -/
def ApiModel.settle (table : SymbolTable) (cap : Nat) (m : ApiModel) :
    Logged Failure ApiModel := do
  let (settled, outcome) := m.resolve table cap
  let found ← outcome
  if !found.undeclared.isEmpty then
    Logged.warn [.typesNotFound m.name found.undeclared]
  return settled

/-- The models with their shared schemas, in order. -/
def settleAll (table : SymbolTable) (cap : Nat) : List ApiModel → Logged Failure (List ApiModel)
  | [] => pure []
  | m :: rest => do
    let settled ← m.settle table cap
    let others ← settleAll table cap rest
    return settled :: others

/-- The documents of all APIs that the sources describe. -/
def generate (options : Options) (files : List SourceFile) : Logged Failure Generation := do
  let commands := SourceFile.commandsOf options.sentinel files
  Logged.tell (.read commands.length)
  let models ← (interpret commands).mapError .structural
  let sources ← readSources options.lenient files
  let (table, warnings) := SymbolTable.ofSources (sources.map Prod.snd)
  Logged.warn warnings
  Logged.tell (.extracted table.size)
  let settled ← settleAll table options.levelCap models
  return {
    models := settled, files := files.length, annotations := commands.length,
    declarations := table.size }

end ApiNotes
