/-
Declared types as an API exposes them.
A declaration is a record with named fields, another name for a type, a dictionary, or a list of
named values. `Symbol.schema` describes the values of a declared type, and `Symbol.mentions` lists
the declared types that the description refers to.
-/
import ApiNotes.Document.Schema
import ApiNotes.Log

namespace ApiNotes

/-- The exposed shape of a declared type. -/
inductive Symbol where
  | record (fields : List (String × TypeRef))
  /-- Another name for a type. -/
  | synonym (target : TypeRef)
  | dictionary (key value : TypeRef)
  | enumeration (variants : List String)
deriving DecidableEq, Repr

namespace Symbol

/-- The kind of a declared type. -/
def kind : Symbol → SymbolKind
  | record _ => .record
  | synonym _ => .synonym
  | dictionary _ _ => .dictionary
  | enumeration _ => .enumeration

/-- The types that a declaration is made of, in order. -/
def parts : Symbol → List TypeRef
  | record fields => fields.map Prod.snd
  | synonym target => [target]
  | dictionary key value => [key, value]
  | enumeration _ => []

/-- The declared types that a declaration mentions, in order. -/
def mentions (s : Symbol) : List String :=
  s.parts.filterMap TypeRef.referencedName

/-- An object whose properties have the given types; of two properties of one name the later
counts. -/
def objectSchema (properties : List (String × TypeRef)) : Schema :=
  .object (.ofList (properties.map fun (name, type) => (name, .ofTypeRef type)))

/-- The schema of a declared type. A dictionary has one property for its keys and one for its
values, each called after its type, so the two collapse where the types have one name. -/
def schema : Symbol → Schema
  | record fields => objectSchema fields
  | synonym target => .ofTypeRef target
  | dictionary key value => objectSchema [(key.name, key), (value.name, value)]
  | enumeration variants => .enumeration variants

end Symbol

end ApiNotes
