/-
What another name for a type exposes when layers stand around the type. Layers that do not show in
shapes do not show in synonyms either, with one exception: a dictionary is known for one behind
wrappers alone. Behind a reference, a pointer or parentheses it is an object like any other.
-/
import ApiNotes.Symbol.Extraction
import ApiNotes.Proofs.Symbol.Layers

namespace ApiNotes.Code

/-! ## Dictionaries behind layers -/

theorem firstDictionary?_argumentsAround (skipped : Nat) (t : TypeExpr)
    (more : List TypeArgument) :
    firstDictionary? (argumentsAround skipped t more) = t.dictionary? := by
  induction skipped with
  | zero => rw [argumentsAround, List.replicate_zero, List.nil_append, firstDictionary?]
  | succ skipped ih =>
    rwa [argumentsAround, List.replicate_succ, List.cons_append, firstDictionary?]

/-- A dictionary is seen through a wrapper and through no other layer. -/
theorem Layer.dictionary?_around (l : Layer) (t : TypeExpr) :
    (l.around t).dictionary? = if l.isWrapper then t.dictionary? else none := by
  cases l with
  | reference | pointer | parentheses | slice | array =>
    simp [around, TypeExpr.dictionary?, isWrapper]
  | wrapper qualifier name skipped more =>
    rw [around, TypeExpr.dictionary?, if_pos (List.contains_iff_mem.2 name.2),
      firstDictionary?_argumentsAround]
    rfl
  | collection qualifier name skipped more =>
    simp [around, TypeExpr.dictionary?, not_wrapper_of_sequence name name.2,
      not_dictionary_of_sequence name name.2, isWrapper]

theorem dictionary?_around (layers : List Layer) (core : TypeExpr) :
    (around layers core).dictionary? =
      if ∀ l ∈ layers, l.isWrapper = true then core.dictionary? else none := by
  induction layers with
  | nil => simp [around]
  | cons l rest ih =>
    rw [around_cons, l.dictionary?_around, ih]
    by_cases hl : l.isWrapper = true <;> simp [hl]

/-- A path of a dictionary with both arguments tells its keys and values. -/
theorem dictionary?_path {qualifier : List String} {name : String} {arguments : List TypeArgument}
    {key value : TypeExpr} {more : List TypeExpr} (hname : name ∈ dictionaryNames)
    (harguments : typeArguments arguments = key :: value :: more) :
    (TypeExpr.path qualifier name arguments).dictionary? = some (key.shape, value.shape) := by
  have hw : name ∉ wrapperNames := not_wrapper_of_dictionary name hname
  rw [TypeExpr.dictionary?, if_neg (mt List.contains_iff_mem.1 hw),
    if_pos (List.contains_iff_mem.2 hname), harguments]

mutual

/-- What has keys and values has the shape of an object. -/
theorem shape_of_dictionary? : ∀ (t : TypeExpr) {entry : TypeRef × TypeRef},
    t.dictionary? = some entry → t.shape = .object
  | .path qualifier name arguments, entry, h => by
    rw [TypeExpr.dictionary?] at h
    rw [TypeExpr.shape]
    split at h
    · rename_i hw
      rw [shapeOfName_of_wrapper (List.contains_iff_mem.1 hw),
        firstShape_of_firstDictionary? arguments h, Option.getD_some]
    · split at h
      · rename_i hd
        exact shapeOfName_of_dictionary (List.contains_iff_mem.1 hd) _
      · cases h

theorem firstShape_of_firstDictionary? : ∀ (arguments : List TypeArgument)
    {entry : TypeRef × TypeRef},
    firstDictionary? arguments = some entry → firstShape arguments = some .object
  | .type t :: _, entry, h => by
    rw [firstShape, shape_of_dictionary? t (by rwa [firstDictionary?] at h)]
  | .other :: rest, entry, h => by
    rw [firstDictionary?] at h
    rw [firstShape, firstShape_of_firstDictionary? rest h]

end

/-! ## Synonyms -/

/-- A synonym is another name for the shape of its type, or the dictionary that the type is. -/
theorem symbol_synonym_cases (t : TypeExpr) :
    (Definition.synonym t).symbol = .synonym t.shape ∨
      t.shape = .object ∧ ∃ key value, (Definition.synonym t).symbol = .dictionary key value := by
  rw [Definition.symbol]
  cases ht : t.dictionary? with
  | none => exact .inl rfl
  | some entry => exact .inr ⟨shape_of_dictionary? t ht, entry.1, entry.2, rfl⟩

/-- Behind layers that do not show, a synonym stays what it is if they are wrappers alone, and is
another name for the shape of the type if not. -/
theorem symbol_around {layers : List Layer} (hlayers : ∀ l ∈ layers, l.isList = false)
    (t : TypeExpr) : (Definition.synonym (around layers t)).symbol =
      if ∀ l ∈ layers, l.isWrapper = true then (Definition.synonym t).symbol
      else .synonym t.shape := by
  have hshape : (around layers t).shape = t.shape := by
    rw [shape_around, List.countP_eq_zero.2 fun l hl => by simp [hlayers l hl]]
    rfl
  rw [Definition.symbol, dictionary?_around, hshape]
  by_cases hwrap : ∀ l ∈ layers, l.isWrapper = true
  · rw [if_pos hwrap, if_pos hwrap, Definition.symbol]
  · rw [if_neg hwrap, if_neg hwrap]

/-- A type behind layers that do not show has the synonym of the type itself exactly if the layers
are wrappers alone or the synonym is no dictionary; otherwise it has the synonym of an object. So a
dictionary with both arguments stays one exactly behind wrappers. -/
theorem symbol_around_iff (layers : List Layer) (hlayers : ∀ l ∈ layers, l.isList = false)
    (t : TypeExpr) :
    let symbol := (Definition.synonym t).symbol
    let behind := (Definition.synonym (around layers t)).symbol
    (behind = symbol ↔ (∀ l ∈ layers, l.isWrapper = true) ∨
      ∀ key value, symbol ≠ .dictionary key value) ∧
    (behind ≠ symbol → behind = .synonym .object) ∧
    ∀ qualifier name arguments key value more, t = .path qualifier name arguments →
      name ∈ dictionaryNames → typeArguments arguments = key :: value :: more →
      (behind = .dictionary key.shape value.shape ↔ ∀ l ∈ layers, l.isWrapper = true) := by
  intro symbol behind
  have hbehind : behind = if ∀ l ∈ layers, l.isWrapper = true then symbol else .synonym t.shape :=
    symbol_around hlayers t
  refine ⟨?_, fun hne => ?_, ?_⟩
  · rcases symbol_synonym_cases t with hsymbol | ⟨-, key, value, hsymbol⟩ <;>
      by_cases hwrap : ∀ l ∈ layers, l.isWrapper = true <;>
      simp [hbehind, hwrap, show symbol = _ from hsymbol]
  · rcases symbol_synonym_cases t with hsymbol | ⟨hshape, -⟩
    · rw [hbehind, ← show symbol = _ from hsymbol, ite_self] at hne
      exact absurd rfl hne
    · by_cases hwrap : ∀ l ∈ layers, l.isWrapper = true
      · exact absurd (hbehind.trans (if_pos hwrap)) hne
      · rw [hbehind, if_neg hwrap, hshape]
  · rintro qualifier name arguments key value more rfl hname harguments
    have hsymbol : symbol = .dictionary key.shape value.shape := by
      show Definition.symbol _ = _
      rw [Definition.symbol, dictionary?_path hname harguments]
    by_cases hwrap : ∀ l ∈ layers, l.isWrapper = true <;> simp [hbehind, hwrap, hsymbol]

/-- A dictionary from texts to small numbers. -/
def labels : TypeExpr :=
  .path [] "HashMap" [.type (.path [] "String" []), .type (.path [] "u8" [])]

/-- A wrapper alone leaves a dictionary one; with a pointer below it the synonym is of an object. -/
theorem symbol_around_iff_labels :
    let option : Layer := .wrapper [] ⟨"Option", by decide⟩ 0 []
    (Definition.synonym (around [option] labels)).symbol =
      .dictionary (.primitive .string) (.primitive .integer32) ∧
    (Definition.synonym (around [option, .pointer] labels)).symbol = .synonym .object :=
  ⟨(symbol_around_iff [_] (by simp [Layer.isList]) labels).1.2 (.inl (by simp [Layer.isWrapper])),
    (symbol_around_iff [_, .pointer] (by simp [Layer.isList]) labels).2.1 (by decide)⟩

/-- A layer that does not show in shapes shows in the synonym of a dictionary. -/
theorem pointer_hides_dictionary :
    (SourceUnit.ofText? "type Labels = HashMap<String, u8>;").map SourceUnit.symbols =
      some [("Labels", .dictionary (.primitive .string) (.primitive .integer32))] ∧
    (SourceUnit.ofText? "type Labels = *const HashMap<String, u8>;").map SourceUnit.symbols =
      some [("Labels", .synonym .object)] ∧
    ¬ ∀ (l : Layer) (t : TypeExpr), l.isList = false →
      (Definition.synonym (l.around t)).symbol = (Definition.synonym t).symbol := by
  refine ⟨by decide +kernel, by decide +kernel, fun h => ?_⟩
  exact absurd (h .pointer labels rfl) (by decide)

end ApiNotes.Code
