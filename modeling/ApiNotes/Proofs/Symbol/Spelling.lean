/-
The names of types, read the way annotations are read. A name keeps the lists around a type and what
is inside them: the declared type, or the kind of a primitive without its width. So reading the name
gives the type back up to widths. Only objects get lost, since annotations have no word for them:
the name of one is read as a declared type that is called `object`.
-/
import ApiNotes.Proofs.Symbol.Names

namespace ApiNotes

/-! ## Types up to widths -/

/-- The primitive type with its width or precision left open. -/
def Primitive.withoutWidth : Primitive → Primitive
  | integer32 | integer64 => integer
  | float | double => number
  | p => p

namespace TypeRef

/-- The type with the widths of its primitives left open. -/
def withoutWidths : TypeRef → TypeRef
  | primitive p => primitive p.withoutWidth
  | named name => named name
  | list element => list element.withoutWidths
  | object => object

/-! ## Lists around a core -/

/-- The type inside all lists. -/
def core : TypeRef → TypeRef
  | list element => element.core
  | t => t

/-- The number of lists around the core. -/
def depth : TypeRef → Nat
  | list element => element.depth + 1
  | _ => 0

theorem list_injective : Function.Injective list := by
  rintro t u ⟨⟩
  rfl

/-- The core is no list, so it has one of three forms. -/
theorem core_cases (t : TypeRef) :
    (∃ p, t.core = primitive p) ∨
      (∃ name, t.core = named name ∧ t.referencedName = some name) ∨ t.core = object := by
  induction t with
  | primitive p => exact .inl ⟨p, rfl⟩
  | named name => exact .inr (.inl ⟨name, rfl, rfl⟩)
  | list element ih => exact ih
  | object => exact .inr (.inr rfl)

theorem withoutWidths_eq_lists (t : TypeRef) :
    t.withoutWidths = list^[t.depth] t.core.withoutWidths := by
  induction t with
  | list element ih => rw [withoutWidths, depth, core, Function.iterate_succ_apply', ih]
  | primitive p => rfl
  | named name => rfl
  | object => rfl

/-- A name has one mark for each list, and reading the marks makes the lists again. -/
theorem ofName_name_eq_lists (t : TypeRef) :
    ofName t.name = list^[t.depth] (ofName t.core.name) := by
  -- the mark in front of a name is read before anything else, so only lists have a step to make
  induction t with
  | list element ih => rw [name, ofName_mark, depth, core, Function.iterate_succ_apply', ih]
  | primitive p => rfl
  | named name => rfl
  | object => rfl

/-- So the core alone decides whether a name reads back. -/
theorem ofName_name_iff_core (t : TypeRef) :
    ofName t.name = t.withoutWidths ↔ ofName t.core.name = t.core.withoutWidths := by
  rw [ofName_name_eq_lists, withoutWidths_eq_lists, (list_injective.iterate t.depth).eq_iff]

/-! ## References under names that spell them -/

/-- If a type refers to a declared one, then under a name that spells it. -/
def SpellsReference (t : TypeRef) : Prop :=
  ∀ name, t.referencedName = some name → ofName name = named name

theorem spellsReference_ofBareName {name : String}
    (h : ∀ rest, name.toList ≠ '[' :: ']' :: rest) : (ofBareName name).SpellsReference := by
  intro name' href
  rw [ofBareName] at href
  split at href
  · cases href
  · rename_i hdeclared
    cases href
    rw [ofName_of_not_mark h, ofBareName, hdeclared]

/-- This holds of every name in an annotation, the empty one included. -/
theorem spellsReference_ofChars (name : List Char) : (ofChars name).SpellsReference := by
  fun_induction ofChars name with
  | case1 rest ih => exact ih
  | case2 name hmark =>
    refine spellsReference_ofBareName fun rest hrest => ?_
    exact hmark rest (by rwa [String.toList_ofList] at hrest)

theorem WellNamed.spellsReference {t : TypeRef} (h : t.WellNamed) : t.SpellsReference := by
  intro name href
  obtain ⟨-, hmark, hdeclared⟩ := h name href
  rw [ofName_of_not_mark fun rest hrest => hmark ⟨rest, hrest.symm⟩, ofBareName, hdeclared]

/-! ## Reading names back -/

/-- The type keyword of a primitive spells it, but not its width. -/
theorem ofName_schemaType (p : Primitive) : ofName p.schemaType = primitive p.withoutWidth := by
  cases p <;> decide

/-- The name of an object is read like that of any declared type. -/
theorem ofName_object : ofName object.name = named "object" := by
  decide

/-- The name of a type reads back up to widths exactly if the core is no object. -/
theorem ofName_name_iff {t : TypeRef} (h : t.SpellsReference) :
    ofName t.name = t.withoutWidths ↔ t.core ≠ object := by
  rw [ofName_name_iff_core]
  rcases t.core_cases with ⟨p, hcore⟩ | ⟨name, hcore, href⟩ | hcore
  · simp [hcore, TypeRef.name, ofName_schemaType, withoutWidths]
  · simp [hcore, TypeRef.name, h name href, withoutWidths]
  · simp [hcore, ofName_object, withoutWidths]

theorem core_ofBareName_ne_object (name : String) : (ofBareName name).core ≠ object := by
  unfold ofBareName
  cases Primitive.ofName? name <;> simp [core]

/-- No name stands for an object, however many list marks it has. -/
theorem core_ofChars_ne_object (name : List Char) : (ofChars name).core ≠ object := by
  fun_induction ofChars name with
  | case1 rest ih => exact ih
  | case2 name hmark => exact core_ofBareName_ne_object _

/-- The name of a type, read the way annotations are read, gives the type back up to widths, at any
depth of lists. It does so for every type of an annotation, and for the shapes of source code
exactly unless the core is an object; the name of such a shape is read as a declared type called
`object`, in as many lists. -/
theorem name_readsBack (name : String) :
    ofName (ofName name).name = (ofName name).withoutWidths ∧
    ∀ type : Code.TypeExpr, Code.WordsAll Code.IsWord type →
      (ofName type.shape.name = type.shape.withoutWidths ↔ type.shape.core ≠ object) ∧
      (type.shape.core = object →
        ofName type.shape.name = list^[type.shape.depth] (named "object")) := by
  refine ⟨?_, fun type hwords => ⟨?_, fun hcore => ?_⟩⟩
  · exact (ofName_name_iff (spellsReference_ofChars name.toList)).2
      (core_ofChars_ne_object name.toList)
  · exact ofName_name_iff (Code.wellNamed_shape type hwords).spellsReference
  · rw [ofName_name_eq_lists, hcore, ofName_object]

/-- A type that a text spells has a shape, and its paths end with words. -/
theorem exists_type_of_shape {text : String} {t : TypeRef}
    (h : (Code.TypeExpr.ofText? text).map Code.TypeExpr.shape = some t) :
    ∃ type, Code.TypeExpr.ofText? text = some type ∧ Code.WordsAll Code.IsWord type ∧
      type.shape = t := by
  obtain ⟨type, htype, hshape⟩ := Option.map_eq_some_iff.1 h
  exact ⟨type, htype, Code.wordsAll_of_typeText htype, hshape⟩

/-- A list of numbers reads back without the width that its annotation told. So does one of two types
of source code; the other, with a dictionary inside, does not read back. -/
theorem name_readsBack_nested :
    ofName (ofName "[]int64").name = (ofName "[]int64").withoutWidths ∧
    (∃ type, Code.TypeExpr.ofText? "Vec<Option<&[u64]>>" = some type ∧
      Code.WordsAll Code.IsWord type ∧ type.shape = list (list (primitive .integer64)) ∧
      ofName type.shape.name = list (list (primitive .integer))) ∧
    ∃ type, Code.TypeExpr.ofText? "Box<[HashMap<String, u8>]>" = some type ∧
      Code.WordsAll Code.IsWord type ∧ type.shape = list object ∧
      ofName type.shape.name = list (named "object") := by
  obtain ⟨hname, hreads⟩ := name_readsBack "[]int64"
  refine ⟨hname, ?_, ?_⟩
  · obtain ⟨type, htype, hwords, hshape⟩ := exists_type_of_shape
      (show (Code.TypeExpr.ofText? "Vec<Option<&[u64]>>").map Code.TypeExpr.shape =
        some (list (list (primitive .integer64))) by decide +kernel)
    refine ⟨type, htype, hwords, hshape, ?_⟩
    rw [(hreads type hwords).1.2 (by rw [hshape]; decide), hshape]
    rfl
  · obtain ⟨type, htype, hwords, hshape⟩ := exists_type_of_shape
      (show (Code.TypeExpr.ofText? "Box<[HashMap<String, u8>]>").map Code.TypeExpr.shape =
        some (list object) by decide +kernel)
    refine ⟨type, htype, hwords, hshape, ?_⟩
    rw [(hreads type hwords).2 (by rw [hshape]; rfl), hshape]
    rfl

/-- A dictionary has the shape of an object, whose name is read as that of a declared type. So the
names of types do not all read back. -/
theorem object_readAsNamed :
    (Code.TypeExpr.ofText? "HashMap<String, u8>").map Code.TypeExpr.shape = some object ∧
    object.withoutWidths = object ∧ ofName object.name = named "object" ∧
    ¬ ((∀ name, ofName (ofName name).name = (ofName name).withoutWidths) ∧
      ∀ type : Code.TypeExpr, Code.WordsAll Code.IsWord type →
        ofName type.shape.name = type.shape.withoutWidths) := by
  have hmap : (Code.TypeExpr.ofText? "HashMap<String, u8>").map Code.TypeExpr.shape =
      some object := by decide +kernel
  refine ⟨hmap, rfl, ofName_object, fun h => ?_⟩
  obtain ⟨type, -, hwords, hshape⟩ := exists_type_of_shape hmap
  have hread := h.2 type hwords
  rw [hshape, ofName_object] at hread
  cases hread

/-! ## Types of one name -/

theorem name_withoutWidths (t : TypeRef) : t.withoutWidths.name = t.name := by
  induction t with
  | primitive p => cases p <;> rfl
  | named name => rfl
  | list element ih => rw [withoutWidths, name, ih, name]
  | object => rfl

/-- Types that read back have one name exactly if they are the same up to widths. -/
theorem name_eq_iff {t u : TypeRef} (ht : t.SpellsReference) (hu : u.SpellsReference)
    (htcore : t.core ≠ object) (hucore : u.core ≠ object) :
    t.name = u.name ↔ t.withoutWidths = u.withoutWidths := by
  constructor
  · intro h
    rw [← (ofName_name_iff ht).2 htcore, ← (ofName_name_iff hu).2 hucore, h]
  · intro h
    rw [← name_withoutWidths t, ← name_withoutWidths u, h]

end TypeRef

/-! ## Dictionaries -/

theorem Schema.length_properties_object {properties : OrderedMap Schema}
    (h : properties.size ≠ 0) :
    (object properties).properties.map List.length = some properties.size := by
  have hne : properties.isEmpty = false :=
    List.isEmpty_eq_false_iff.2 (List.ne_nil_of_length_pos (Nat.pos_of_ne_zero h))
  simp [object, hne, OrderedMap.size]

/-- The schema of a dictionary has one property if the types of keys and values have one name, and
two if not. -/
theorem Symbol.length_properties_dictionary (key value : TypeRef) :
    (dictionary key value).schema.properties.map List.length =
      some (if key.name = value.name then 1 else 2) := by
  have hobject : (dictionary key value).schema = .object (.ofList
      [(key.name, .ofTypeRef key), (value.name, .ofTypeRef value)]) := rfl
  have hsize := OrderedMap.size_ofList_pair (key.name, Schema.ofTypeRef key)
    (value.name, Schema.ofTypeRef value)
  rw [hobject, Schema.length_properties_object (by rw [hsize]; split <;> decide), hsize]

/-- So a dictionary in source code, with neither keys nor values that are objects inside, has one
property for both exactly if they are of one type up to widths. -/
theorem Code.dictionary_collapses_iff {type : TypeExpr} (hwords : WordsAll IsWord type)
    {key value : TypeRef} (h : type.dictionary? = some (key, value))
    (hkey : key.core ≠ .object) (hvalue : value.core ≠ .object) :
    (Symbol.dictionary key value).schema.properties.map List.length = some 1 ↔
      key.withoutWidths = value.withoutWidths := by
  obtain ⟨hkeyNamed, hvalueNamed⟩ := wellNamed_dictionary? type hwords _ h
  rw [Symbol.length_properties_dictionary, ← TypeRef.name_eq_iff hkeyNamed.spellsReference
    hvalueNamed.spellsReference hkey hvalue]
  split <;> simp [*]

end ApiNotes
