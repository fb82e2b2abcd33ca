/-
The shared schemas of a document.
Every declared type that a document refers to gets a schema among its components, and so does every
type that those schemas refer to in turn. The names are found level by level: the first level is
what the document mentions, and each further level is what the declarations of the level before it
mention and no earlier level has. Names that already have a schema keep it and are not looked into.

The number of levels is capped. Running into the cap is a failure, but the schemas of the levels
below it are in place.
-/
import ApiNotes.Document.Basic
import ApiNotes.Symbol.Table

namespace ApiNotes

/-- How many levels are looked at unless another cap is asked for. -/
def defaultLevelCap : Nat :=
  100

/-- What was found out about the names that a document refers to. -/
structure Resolution where
  /-- The names of each level. -/
  levels : List (List String)
  /-- The names of the first level beyond the cap. -/
  leftOver : List String
  /-- The names of all levels that are not declared. -/
  undeclared : List String
deriving DecidableEq, Repr

namespace Resolution

/-- The declared types that the declaration of a name mentions. -/
def successors (table : SymbolTable) (name : String) : List String :=
  match table.get? name with
  | some s => s.mentions
  | none => []

/-- The names that are not known yet, each once. -/
def newNames (known names : List String) : List String :=
  (firstOccurrences names).filter (!known.contains ·)

/-- The names reachable from a level, level by level, and the names beyond the last level. -/
def explore (table : SymbolTable) : Nat → List String → List String →
    List (List String) × List String
  | 0, _, level => ([], level)
  | cap + 1, known, level =>
    if level.isEmpty then ([], [])
    else
      let next := newNames known (level.flatMap (successors table))
      let (levels, leftOver) := explore table cap (known ++ next) next
      (level :: levels, leftOver)

/-- The names that a document mentions and that have no schema yet. -/
def seeds (m : ApiModel) : List String :=
  newNames m.document.components.schemas.keys (m.referenced ++ m.document.referencedSchemas)

/-- Explores what a document refers to. -/
def ofModel (table : SymbolTable) (cap : Nat) (m : ApiModel) : Resolution :=
  let first := seeds m
  let (levels, leftOver) :=
    explore table cap (m.document.components.schemas.keys ++ first) first
  { levels, leftOver, undeclared := levels.flatten.filter (!table.contains ·) }

/-- The names of all levels. -/
def names (r : Resolution) : List String :=
  r.levels.flatten

/-- The number of levels that were looked at. -/
def passes (r : Resolution) : Nat :=
  r.levels.length

/-- Whether nothing lies beyond the cap. -/
def isSettled (r : Resolution) : Bool :=
  r.leftOver.isEmpty

/-- The schema of a name; a name that is not declared is documented as a text. -/
def schemaOf (table : SymbolTable) (name : String) : Schema :=
  match table.get? name with
  | some s => s.schema
  | none => .ofType "string"

/-- Puts the schemas of a list of names among others. -/
def addSchemas (table : SymbolTable) (schemas : OrderedMap Schema) (names : List String) :
    OrderedMap Schema :=
  names.foldl (fun schemas name => schemas.insert name (schemaOf table name)) schemas

/-- The model with the schemas of all names found. -/
def complete (r : Resolution) (table : SymbolTable) (m : ApiModel) : ApiModel :=
  { m with document := { m.document with components :=
      { m.document.components with
        schemas := addSchemas table m.document.components.schemas r.names } } }

/-- What there is to say about the names that are not declared. -/
def warnings (r : Resolution) (m : ApiModel) : List Warning :=
  r.undeclared.map (.typeNotFound m.name)

end Resolution

/-- The model with the shared schemas that were found, and what was found, which is a failure if
there are names beyond the cap. -/
def ApiModel.resolve (table : SymbolTable) (cap : Nat) (m : ApiModel) :
    ApiModel × Logged Failure Resolution :=
  let r := Resolution.ofModel table cap m
  (r.complete table m,
    ⟨(r.warnings m).map .warning,
      if r.isSettled then .ok r else .error (.unsettled m.name cap)⟩)

end ApiNotes
