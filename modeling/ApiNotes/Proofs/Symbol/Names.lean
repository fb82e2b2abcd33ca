/-
The names that types refer to. A name that a schema can have is not empty, has no list mark before
it and spells no primitive type. Types refer to no other names: a type of an annotation drops list
marks until something else is left, a type of source code ends with a word of the source, and both
make a primitive of every name that spells one.
-/
import ApiNotes.Symbol.Extraction
import ApiNotes.Proofs.Symbol.Declarations
import ApiNotes.Proofs.Resolution.Closure
import ApiNotes.Proofs.Code.Words
import ApiNotes.Proofs.Api.Grammar
import ApiNotes.Proofs.Api.Block

namespace ApiNotes

/-- A name that a schema can have. -/
structure IsSchemaName (name : String) : Prop where
  ne_empty : name ≠ ""
  not_marked : ¬ ['[', ']'] <+: name.toList
  not_primitive : Primitive.ofName? name = none

namespace TypeRef

/-- If a type refers to a declared one, then under a name that a schema can have. -/
def WellNamed (t : TypeRef) : Prop :=
  ∀ name, t.referencedName = some name → IsSchemaName name

theorem wellNamed_primitive (p : Primitive) : (primitive p).WellNamed :=
  nofun

theorem wellNamed_object : object.WellNamed :=
  nofun

theorem wellNamed_list {element : TypeRef} (h : element.WellNamed) : (list element).WellNamed :=
  h

theorem wellNamed_ofBareName {name : String} (hne : name ≠ "")
    (hmark : ¬ ['[', ']'] <+: name.toList) : (ofBareName name).WellNamed := by
  unfold ofBareName
  cases hp : Primitive.ofName? name with
  | some p => exact wellNamed_primitive p
  | none =>
    rintro _ ⟨⟩
    exact ⟨hne, hmark, hp⟩

/-- Taking list marks off a name and reading the name agree on when nothing is left. -/
theorem wellNamed_ofChars {name : List Char} (h : withoutListMarks name ≠ []) :
    (ofChars name).WellNamed := by
  fun_induction ofChars name with
  | case1 rest ih =>
    rw [withoutListMarks] at h
    exact wellNamed_list (ih h)
  | case2 name hmark =>
    rw [withoutListMarks] at h
    · refine wellNamed_ofBareName ?_ ?_
      · simpa [String.ext_iff] using h
      · rw [String.toList_ofList]
        rintro ⟨rest, rfl⟩
        exact hmark rest rfl
    · exact hmark

end TypeRef

/-! ## Types of annotations -/

theorem wellNamed_typeNamed {token : String} (h : NamesType token) :
    (typeNamed token).WellNamed :=
  TypeRef.wellNamed_ofChars h

/-! ## Types of source code -/

namespace Code

theorem wellNamed_ofWord {name : String} (h : IsWord name) :
    (TypeRef.ofBareName name).WellNamed := by
  refine TypeRef.wellNamed_ofBareName ?_ ?_
  · rintro rfl
    revert h
    decide
  · rintro ⟨rest, hrest⟩
    exact h.not_mark rest hrest.symm

theorem wellNamed_shapeOfName {name : String} (hname : IsWord name) {argument : Option TypeRef}
    (hargument : ∀ t ∈ argument, t.WellNamed) : (shapeOfName name argument).WellNamed := by
  have hfirst : (argument.getD .object).WellNamed := by
    cases argument with
    | none => exact TypeRef.wellNamed_object
    | some t => exact hargument t rfl
  unfold shapeOfName
  split
  · exact hfirst
  split
  · exact TypeRef.wellNamed_list hfirst
  split
  · exact TypeRef.wellNamed_object
  · exact wellNamed_ofWord hname

mutual

/-- The shape of a type whose paths end with words refers to names of schemas only. -/
theorem wellNamed_shape : (t : TypeExpr) → WordsAll IsWord t → t.shape.WellNamed
  | .reference t, .reference h | .pointer t, .pointer h | .parenthesized t, .parenthesized h => by
    rw [TypeExpr.shape]
    exact wellNamed_shape t h
  | .slice t, .slice h | .array t, .array h => by
    rw [TypeExpr.shape]
    exact TypeRef.wellNamed_list (wellNamed_shape t h)
  | .path _ _ arguments, .path hname harguments => by
    rw [TypeExpr.shape]
    exact wellNamed_shapeOfName hname (wellNamed_firstShape arguments harguments)
  | .other, _ => by
    rw [TypeExpr.shape]
    exact TypeRef.wellNamed_object

theorem wellNamed_firstShape : (arguments : List TypeArgument) → WordsAll IsWord arguments →
    ∀ t ∈ firstShape arguments, t.WellNamed
  | [], _, t, ht => by
    rw [firstShape] at ht
    cases ht
  | .type t :: _, h, t', ht => by
    rw [firstShape] at ht
    cases ht
    cases h _ List.mem_cons_self with
    | type h => exact wellNamed_shape t h
  | .other :: rest, h, t', ht => by
    rw [firstShape] at ht
    exact wellNamed_firstShape rest ((wordsAll_cons ..).1 h).2 t' ht

end

mutual

theorem wellNamed_dictionary? : (t : TypeExpr) → WordsAll IsWord t →
    ∀ entry ∈ t.dictionary?, entry.1.WellNamed ∧ entry.2.WellNamed
  | .path _ name arguments, .path _ harguments, entry, hentry => by
    rw [TypeExpr.dictionary?] at hentry
    split at hentry
    · exact wellNamed_firstDictionary? arguments harguments entry hentry
    split at hentry
    · split at hentry
      · rename_i key value rest hkeys
        cases hentry
        have hargument {t : TypeExpr} (ht : t ∈ typeArguments arguments) : t.shape.WellNamed := by
          obtain ⟨a, ha, hat⟩ := List.mem_filterMap.1 ht
          cases harguments a ha with
          | type h =>
            cases hat
            exact wellNamed_shape t h
          | other => cases hat
        rw [hkeys] at hargument
        exact ⟨hargument (by simp), hargument (by simp)⟩
      · cases hentry
    · cases hentry
  | .reference _, _, _, h | .pointer _, _, _, h | .parenthesized _, _, _, h | .slice _, _, _, h
  | .array _, _, _, h | .other, _, _, h => by
    rw [TypeExpr.dictionary?] at h
    · cases h
    · nofun

theorem wellNamed_firstDictionary? : (arguments : List TypeArgument) → WordsAll IsWord arguments →
    ∀ entry ∈ firstDictionary? arguments, entry.1.WellNamed ∧ entry.2.WellNamed
  | [], _, _, h => by
    rw [firstDictionary?] at h
    cases h
  | .type t :: _, h, entry, hentry => by
    rw [firstDictionary?] at hentry
    cases h _ List.mem_cons_self with
    | type h => exact wellNamed_dictionary? t h entry hentry
  | .other :: rest, h, entry, hentry => by
    rw [firstDictionary?] at hentry
    exact wellNamed_firstDictionary? rest ((wordsAll_cons ..).1 h).2 entry hentry

end

theorem shape_of_exposed {f : Field} {e : String × TypeRef} (h : f.exposed = some e) :
    e.2 = f.type.shape := by
  unfold Field.exposed at h
  dsimp only at h
  split at h
  · cases h
  · obtain ⟨name, -, rfl⟩ := Option.map_eq_some_iff.1 h
    rfl

/-- A declared type mentions names of schemas only, be it a record, a synonym or a dictionary. -/
theorem wellNamed_symbol {d : Definition} (h : WordsAll IsWord d) :
    ∀ t ∈ d.symbol.parts, t.WellNamed := by
  intro t ht
  cases d with
  | record fields =>
    obtain ⟨e, he, rfl⟩ := List.mem_map.1 ht
    obtain ⟨f, hf, hexposed⟩ := List.mem_filterMap.1 he
    rw [shape_of_exposed hexposed]
    exact wellNamed_shape f.type (h f hf)
  | tuple types =>
    match types, h, ht with
    | [type], h, ht =>
      cases List.mem_singleton.1 ht
      exact wellNamed_shape type (h type List.mem_cons_self)
  | unit => cases ht
  | enumeration variants => cases ht
  | synonym target =>
    rw [Definition.symbol] at ht
    split at ht
    · rename_i key value hentry
      obtain ⟨hkey, hvalue⟩ := wellNamed_dictionary? target h _ hentry
      rcases List.mem_pair.1 ht with rfl | rfl
      · exact hkey
      · exact hvalue
    · cases List.mem_singleton.1 ht
      exact wellNamed_shape target h

end Code

/-! ## Declared types -/

/-- The declared types of a table mention names of schemas only. -/
def SymbolTable.WellNamed (table : SymbolTable) : Prop :=
  ∀ name s, table.get? name = some s → ∀ t ∈ s.parts, t.WellNamed

theorem wellNamed_ofSources {sources : List Code.SourceUnit}
    (h : ∀ source ∈ sources, ∃ text, Code.SourceUnit.ofText? text = some source) :
    (SymbolTable.ofSources sources).1.WellNamed := by
  intro name s hs
  rw [SymbolTable.ofSources, SymbolTable.get?_ofDeclarations] at hs
  obtain ⟨e, he, rfl⟩ := Option.map_eq_some_iff.1 hs
  obtain ⟨source, hsource, hmem⟩ :=
    List.mem_flatMap.1 (List.mem_of_mem_filter (List.mem_of_getLast? he))
  obtain ⟨d, hd, rfl⟩ := List.mem_map.1 hmem
  obtain ⟨text, htext⟩ := h source hsource
  exact Code.wellNamed_symbol (Code.wordsAll_of_ofText? htext d hd)

namespace Resolution

/-- From names of schemas, declarations lead to names of schemas only. -/
theorem isSchemaName_of_mem_names {table : SymbolTable} {cap : Nat} {m : ApiModel}
    (htable : table.WellNamed) (hseeds : ∀ n ∈ seeds m, IsSchemaName n) {n : String}
    (h : n ∈ (ofModel table cap m).names) : IsSchemaName n := by
  obtain ⟨s, hs, hpath⟩ := mem_names_needs h
  induction hpath with
  | refl => exact hseeds s (mem_seeds_iff.2 hs)
  | tail _ hlead _ =>
    obtain ⟨symbol, hsymbol, t, hpart, ht⟩ := hlead.mentioned
    exact htable _ symbol hsymbol t (Symbol.mem_parts_iff.2 hpart) _ ht

end Resolution

end ApiNotes
