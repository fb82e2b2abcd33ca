/-
The type declarations of source code: structures, enumerations and type synonyms, with what they say
about the types they declare.
-/
import ApiNotes.Code.Token
import ApiNotes.Code.TypeExpr

namespace ApiNotes.Code

/-- An attribute of an item, a field or a variant. -/
structure Attribute where
  /-- The names along its path; a path from the root starts with an empty name. -/
  path : List String
  /-- What stands between its brackets, if it has any. -/
  arguments : Option (List Token)
deriving Repr

/-- A field with a name. -/
structure Field where
  attributes : List Attribute
  type : TypeExpr
deriving Repr

/-- A variant of an enumeration. -/
structure Variant where
  attributes : List Attribute
  name : String
deriving Repr

/-- What a declaration says about its type. -/
inductive Definition where
  | record (fields : List Field)
  /-- Fields without names. -/
  | tuple (types : List TypeExpr)
  | unit
  | enumeration (variants : List Variant)
  /-- Another name for a type. -/
  | synonym (target : TypeExpr)
deriving Repr

/-- A declaration. -/
structure Declaration where
  name : String
  definition : Definition
deriving Repr

end ApiNotes.Code
