/-
Schemas: the shape of a value in an OpenAPI document.
A schema is a tree, and any node of it may refer to a shared schema by name. The properties of a
schema are entries in the order of an `OrderedMap`, written out as a list because a schema contains
them. `Schema.references` lists the names in the order node, items, properties.
-/
import ApiNotes.OrderedMap
import ApiNotes.TypeRef

namespace ApiNotes

/-- What a reference to a shared schema has before the name. -/
def schemaReferenceLead : String :=
  "#/components/schemas/"

/-- The reference to the shared schema of a name. -/
def schemaReference (name : String) : String :=
  schemaReferenceLead ++ name

/-- The shape of a value. -/
structure Schema where
  type : Option String := none
  format : Option String := none
  properties : Option (List (String × Schema)) := none
  items : Option Schema := none
  enumValues : Option (List String) := none
  reference : Option String := none
deriving Inhabited, Repr

namespace Schema

/-! ## Construction -/

/-- A schema that states a type and nothing else. -/
def ofType (type : String) : Schema :=
  { type := some type }

/-- A reference to the shared schema of a name. -/
def referTo (name : String) : Schema :=
  { reference := some (schemaReference name) }

/-- A list of what `items` describes. -/
def arrayOf (items : Schema) : Schema :=
  { type := some "array", items := some items }

/-- An object with the given properties; no properties are left unstated. -/
def object (properties : OrderedMap Schema) : Schema :=
  { type := some "object",
    properties := if properties.isEmpty then none else some properties.entries }

/-- A text out of a list of values. -/
def enumeration (values : List String) : Schema :=
  { type := some "string", enumValues := some values }

/-- The schema of a type, which refers to a declared type by name. -/
def ofTypeRef : TypeRef → Schema
  | .primitive p => { type := some p.schemaType, format := p.format }
  | .named name => referTo name
  | .list element => arrayOf (ofTypeRef element)
  | .object => ofType "object"

/-! ## References -/

/-- The name that a reference to a shared schema has after the lead. -/
def nameOfReference? (reference : String) : Option String :=
  (schemaReferenceLead.toList.isPrefixOf? reference.toList).map String.ofList

/-- The shared schema that the schema itself refers to. -/
def referenceName (s : Schema) : Option String :=
  s.reference.bind nameOfReference?

mutual

/-- The names of the shared schemas that a schema refers to at any depth. -/
def references : Schema → List String
  | ⟨_, _, properties, items, _, reference⟩ =>
    (reference.bind nameOfReference?).toList ++ referencesOfItems items ++
      referencesOfProperties properties

/-- The names that the element schema refers to. -/
def referencesOfItems : Option Schema → List String
  | none => []
  | some s => s.references

/-- The names that the property schemas refer to. -/
def referencesOfProperties : Option (List (String × Schema)) → List String
  | none => []
  | some entries => referencesOfEntries entries

/-- The names that the schemas of a list of entries refer to. -/
def referencesOfEntries : List (String × Schema) → List String
  | [] => []
  | (_, s) :: rest => s.references ++ referencesOfEntries rest

end

end Schema

end ApiNotes
