/-
What the layers around a type leave of it. References, pointers, parentheses and wrappers do not
show in the shape of a type; a slice, an array or a collection makes a list of it. So a shape is
that of the core below all layers, in as many lists as there are such layers, and for a core with a
name of its own it is the type that an annotation spells with as many list marks before the name.
-/
import ApiNotes.Symbol.Shape
import ApiNotes.Code.Lexeme.Basic
import Mathlib.Logic.Function.Iterate

namespace ApiNotes

/-! ## Names with list marks -/

namespace TypeRef

/-- A list mark before a name makes a list of what the name spells. -/
theorem ofName_mark (name : String) : ofName ("[]" ++ name) = list (ofName name) := by
  rw [ofName, String.toList_append]
  rfl

theorem ofName_marks (k : Nat) (name : String) :
    ofName (String.join (List.replicate k "[]") ++ name) = list^[k] (ofName name) := by
  induction k with
  | zero => simp
  | succ k ih =>
    rw [List.replicate_succ, String.join_cons, String.append_assoc, ofName_mark, ih,
      Function.iterate_succ_apply']

/-- A name without a list mark at its start spells a primitive or a declared type. -/
theorem ofName_of_not_mark {name : String} (h : ∀ rest, name.toList ≠ '[' :: ']' :: rest) :
    ofName name = ofBareName name := by
  rw [ofName, ofChars, String.ofList_toList]
  exact h

end TypeRef

namespace Code

/-- A word of source code: read as a text, it is a word and nothing else. -/
def IsWord (name : String) : Prop :=
  word? name.toList = some (name, [])

instance (name : String) : Decidable (IsWord name) :=
  inferInstanceAs (Decidable (word? name.toList = some (name, [])))

/-- No word starts with a bracket. -/
theorem IsWord.not_mark {name : String} (h : IsWord name) (rest : List Char) :
    name.toList ≠ '[' :: ']' :: rest := by
  intro hmark
  rw [IsWord, hmark] at h
  cases h

/-! ## Layers -/

/-- A layer around a type. Where a layer has a name, the type is its first type argument: before it
stand arguments that are no types, after it whatever there is. -/
inductive Layer where
  | reference
  | pointer
  | parentheses
  | slice
  | array
  | wrapper (qualifier : List String) (name : { name // name ∈ wrapperNames }) (skipped : Nat)
      (more : List TypeArgument)
  | collection (qualifier : List String) (name : { name // name ∈ sequenceNames }) (skipped : Nat)
      (more : List TypeArgument)

/-- Arguments of which a type is the first one. -/
def argumentsAround (skipped : Nat) (t : TypeExpr) (more : List TypeArgument) :
    List TypeArgument :=
  List.replicate skipped .other ++ .type t :: more

/-- The arguments with a given first type are those of this form. -/
theorem head?_typeArguments_eq_some_iff {arguments : List TypeArgument} {t : TypeExpr} :
    (typeArguments arguments).head? = some t ↔
      ∃ skipped more, arguments = argumentsAround skipped t more := by
  induction arguments with
  | nil => simp [typeArguments, argumentsAround]
  | cons a rest ih =>
    cases a with
    | type t' =>
      constructor
      · intro h
        cases h
        exact ⟨0, rest, rfl⟩
      · rintro ⟨skipped, more, h⟩
        cases skipped with
        | zero => cases h; rfl
        | succ skipped => cases h
    | other =>
      refine ih.trans ⟨?_, ?_⟩
      · rintro ⟨skipped, more, rfl⟩
        exact ⟨skipped + 1, more, rfl⟩
      · rintro ⟨skipped, more, h⟩
        cases skipped with
        | zero => cases h
        | succ skipped => exact ⟨skipped, more, (List.cons.inj h).2⟩

/-- The type with a layer around it. -/
def Layer.around : Layer → TypeExpr → TypeExpr
  | reference, t => .reference t
  | pointer, t => .pointer t
  | parentheses, t => .parenthesized t
  | slice, t => .slice t
  | array, t => .array t
  | wrapper qualifier name skipped more, t =>
    .path qualifier name (argumentsAround skipped t more)
  | collection qualifier name skipped more, t =>
    .path qualifier name (argumentsAround skipped t more)

/-- The type with layers around it, the outermost one first. -/
def around (layers : List Layer) (core : TypeExpr) : TypeExpr :=
  layers.foldr Layer.around core

theorem around_cons (l : Layer) (layers : List Layer) (core : TypeExpr) :
    around (l :: layers) core = l.around (around layers core) :=
  rfl

/-- Whether a layer makes a list of what it is around. -/
def Layer.isList : Layer → Bool
  | slice | array | collection .. => true
  | reference | pointer | parentheses | wrapper .. => false

/-- Whether a layer is a wrapper with a name. -/
def Layer.isWrapper : Layer → Bool
  | wrapper .. => true
  | _ => false

/-! ## Names with a meaning of their own -/

theorem not_wrapper_of_sequence : ∀ name ∈ sequenceNames, name ∉ wrapperNames := by
  decide

theorem not_wrapper_of_dictionary : ∀ name ∈ dictionaryNames, name ∉ wrapperNames := by
  decide

theorem not_dictionary_of_sequence : ∀ name ∈ sequenceNames, name ∉ dictionaryNames := by
  decide

/-! ## Shapes -/

theorem shapeOfName_of_wrapper {name : String} (h : name ∈ wrapperNames) (a : Option TypeRef) :
    shapeOfName name a = a.getD .object := by
  rw [shapeOfName, if_pos (List.contains_iff_mem.2 h)]

theorem shapeOfName_of_sequence {name : String} (h : name ∈ sequenceNames) (a : Option TypeRef) :
    shapeOfName name a = .list (a.getD .object) := by
  rw [shapeOfName, if_neg (mt List.contains_iff_mem.1 (not_wrapper_of_sequence name h)),
    if_pos (List.contains_iff_mem.2 h)]

theorem firstShape_argumentsAround (skipped : Nat) (t : TypeExpr) (more : List TypeArgument) :
    firstShape (argumentsAround skipped t more) = some t.shape := by
  induction skipped with
  | zero => rw [argumentsAround, List.replicate_zero, List.nil_append, firstShape]
  | succ skipped ih => rwa [argumentsAround, List.replicate_succ, List.cons_append, firstShape]

/-- One layer makes a list or does not show. -/
theorem Layer.shape_around (l : Layer) (t : TypeExpr) :
    (l.around t).shape = if l.isList then .list t.shape else t.shape := by
  cases l with
  | reference | pointer | parentheses | slice | array => rw [around, TypeExpr.shape]; rfl
  | wrapper qualifier name skipped more =>
    rw [around, TypeExpr.shape, shapeOfName_of_wrapper name.2, firstShape_argumentsAround]
    rfl
  | collection qualifier name skipped more =>
    rw [around, TypeExpr.shape, shapeOfName_of_sequence name.2, firstShape_argumentsAround]
    rfl

/-- The shape of a type is that of its core, in as many lists as there are layers of lists. -/
theorem shape_around (layers : List Layer) (core : TypeExpr) :
    (around layers core).shape = TypeRef.list^[layers.countP Layer.isList] core.shape := by
  induction layers with
  | nil => rfl
  | cons l rest ih =>
    rw [around_cons, l.shape_around, ih, List.countP_cons]
    split
    · rw [Function.iterate_succ_apply']
    · rw [Nat.add_zero]

/-- A path whose name has no meaning of its own is a primitive or a declared type. -/
theorem shapeOfName_of_plain {name : String} (hw : name ∉ wrapperNames) (hs : name ∉ sequenceNames)
    (hd : name ∉ dictionaryNames) (a : Option TypeRef) :
    shapeOfName name a = .ofBareName name := by
  simp [shapeOfName, hw, hs, hd]

theorem shapeOfName_of_dictionary {name : String} (h : name ∈ dictionaryNames)
    (a : Option TypeRef) : shapeOfName name a = .object := by
  have hs : name ∉ sequenceNames := fun hs => not_dictionary_of_sequence name hs h
  simp [shapeOfName, not_wrapper_of_dictionary name h, hs, h]

/-- Source code and annotations agree on types. Below any layers, a path whose last name has no
meaning of its own has the shape that this name spells after one list mark for each layer of lists;
the core is an object in as many lists if it is a dictionary or a type without a form of its own. -/
theorem shape_eq_ofName (layers : List Layer) (qualifier : List String) (name : String)
    (arguments : List TypeArgument) :
    let named : TypeExpr := .path qualifier name arguments
    let lists := layers.countP Layer.isList
    (IsWord name → name ∉ wrapperNames → name ∉ sequenceNames → name ∉ dictionaryNames →
      (around layers named).shape = .ofName (String.join (List.replicate lists "[]") ++ name)) ∧
    (name ∈ dictionaryNames → (around layers named).shape = TypeRef.list^[lists] .object) ∧
    (around layers .other).shape = TypeRef.list^[lists] .object := by
  intro named lists
  refine ⟨fun hname hw hs hd => ?_, fun hd => ?_, ?_⟩
  · rw [shape_around, TypeRef.ofName_marks, TypeRef.ofName_of_not_mark hname.not_mark,
      TypeExpr.shape, shapeOfName_of_plain hw hs hd]
  · rw [shape_around, TypeExpr.shape, shapeOfName_of_dictionary hd]
  · rw [shape_around, TypeExpr.shape]

/-- The layers of `&[Option<Cow<'a, (Vec<_>)>>]`, from the outside inward. -/
def nestedLayers : List Layer :=
  [.reference, .slice, .wrapper [] ⟨"Option", by decide⟩ 0 [],
    .wrapper ["borrow"] ⟨"Cow", by decide⟩ 1 [], .parentheses,
    .collection [] ⟨"Vec", by decide⟩ 0 [.type .other]]

/-- With a path below them they are two lists, as the annotation `[][]User` says. -/
theorem shape_eq_ofName_nested :
    (around nestedLayers (.path ["models"] "User" [.other])).shape = .ofName "[][]User" ∧
    (around nestedLayers (.path [] "HashMap" [])).shape = .list (.list .object) :=
  ⟨(shape_eq_ofName nestedLayers ["models"] "User" [.other]).1 (by decide +kernel) (by decide)
      (by decide) (by decide),
    (shape_eq_ofName nestedLayers [] "HashMap" []).2.1 (by decide)⟩

end Code

end ApiNotes
