/-
Types as an API exposes them.
A type is a primitive, a declared type known by name, a list of another type, or an object of no
particular shape. Annotations write a list as `[]` before its element; every spelling of a
primitive stands for the same type, and any other name is a declared type.
-/

namespace ApiNotes

/-- The primitive types that a schema can express. -/
inductive Primitive where
  /-- An integer of no stated width. -/
  | integer
  | integer32
  | integer64
  /-- A number of no stated precision. -/
  | number
  | float
  | double
  | string
  | boolean
deriving DecidableEq, Repr

namespace Primitive

/-- The spellings of the primitive types. -/
def spellings : List (String × Primitive) :=
  [("String", string), ("str", string), ("char", string), ("string", string),
   ("bool", boolean), ("boolean", boolean),
   ("i8", integer32), ("i16", integer32), ("i32", integer32),
   ("u8", integer32), ("u16", integer32), ("u32", integer32),
   ("int8", integer32), ("int16", integer32), ("int32", integer32),
   ("uint8", integer32), ("uint16", integer32), ("uint32", integer32),
   ("byte", integer32), ("rune", integer32),
   ("i64", integer64), ("i128", integer64), ("u64", integer64), ("u128", integer64),
   ("isize", integer64), ("usize", integer64), ("int64", integer64), ("uint64", integer64),
   ("integer", integer), ("int", integer), ("uint", integer), ("uintptr", integer),
   ("f32", float), ("float", float), ("float32", float),
   ("f64", double), ("double", double), ("float64", double),
   ("number", number)]

/-- The primitive type that a name spells. -/
def ofName? (name : String) : Option Primitive :=
  spellings.lookup name

/-- The type keyword of a schema. -/
def schemaType : Primitive → String
  | integer | integer32 | integer64 => "integer"
  | number | float | double => "number"
  | string => "string"
  | boolean => "boolean"

/-- The format keyword of a schema, where the width is known. -/
def format : Primitive → Option String
  | integer32 => some "int32"
  | integer64 => some "int64"
  | float => some "float"
  | double => some "double"
  | _ => none

end Primitive

/-- The exposed shape of a value. -/
inductive TypeRef where
  | primitive (p : Primitive)
  /-- A declared type. -/
  | named (name : String)
  | list (element : TypeRef)
  /-- A dictionary, or a shape that has no better description. -/
  | object
deriving DecidableEq, Repr

namespace TypeRef

/-- The type that a name without list marks stands for. -/
def ofBareName (name : String) : TypeRef :=
  match Primitive.ofName? name with
  | some p => primitive p
  | none => named name

/-- The type that a name spells, as a list of characters. -/
def ofChars : List Char → TypeRef
  | '[' :: ']' :: rest => list (ofChars rest)
  | name => ofBareName (String.ofList name)

/-- The type that an annotation's type name spells: `User`, `[]User`, `string`. -/
def ofName (name : String) : TypeRef :=
  ofChars name.toList

/-- The name of a type, as annotations write it. -/
def name : TypeRef → String
  | primitive p => p.schemaType
  | named name => name
  | list element => "[]" ++ element.name
  | object => "object"

/-- The declared type that a type mentions, looking through lists. -/
def referencedName : TypeRef → Option String
  | named name => some name
  | list element => element.referencedName
  | _ => none

end TypeRef

end ApiNotes
