/-
Which items of an attribute are reached. The items stand behind each other with commas between them,
and an item is reached if all those before it are well formed. `Reached` says so of the tokens
alone, given where a well-formed item ends. A reader that takes each item up to there reads the
items that are reached, and stops behind the first one that is not well formed.
-/
import ApiNotes.Proofs.Code.Grammar.Items
import ApiNotes.Proofs.Symbol.Exposure.Paths

namespace ApiNotes.Code

/-! ## Items that are reached -/

/-- An item of an attribute: its path, and all the tokens after the path. -/
structure Item where
  path : List String
  after : List Token

/-- The items that are reached in a list of tokens, in order, and whether the list is well formed to
its end. `Ends` tells where a well-formed item ends; there has to be a comma or no token. An item is
reached when its path is read, be it well formed or not. -/
inductive Reached (Ends : Item → List Token → Prop) : List Token → List Item → Bool → Prop
  | unnamed {ts : List Token} : (∀ path after, ¬ PathAt ts path after) → Reached Ends ts [] false
  | broken {ts after : List Token} {path : List String} : PathAt ts path after →
      (∀ rest, Ends ⟨path, after⟩ rest → rest ≠ [] ∧ atMark ',' rest = false) →
      Reached Ends ts [⟨path, after⟩] false
  | last {ts after rest : List Token} {path : List String} : PathAt ts path after →
      Ends ⟨path, after⟩ rest → (rest = [] ∨ ∃ joint, rest = [.mark ',' joint]) →
      Reached Ends ts [⟨path, after⟩] true
  | next {ts after more : List Token} {path : List String} {joint : Bool} {items : List Item}
      {complete : Bool} : PathAt ts path after → Ends ⟨path, after⟩ (.mark ',' joint :: more) →
      more ≠ [] → Reached Ends more items complete →
      Reached Ends ts (⟨path, after⟩ :: items) complete

/-- A reader of single items takes each up to where it ends, if the item is well formed. -/
structure ReadsTo (read : List String → List Token → ItemRead)
    (Ends : Item → List Token → Prop) : Prop where
  rest_iff : ∀ {path after rest}, (read path after).rest = some rest ↔ Ends ⟨path, after⟩ rest
  /-- No item ends before it starts. -/
  length_le : ∀ {i rest}, Ends i rest → rest.length ≤ i.after.length

namespace ReadsTo

variable {read : List String → List Token → ItemRead} {Ends : Item → List Token → Prop}

/-- What stands behind an item and its comma is shorter than what the item stands in front of. -/
theorem length_lt (h : ReadsTo read Ends) {ts after more : List Token} {path : List String}
    {t : Token} (hpath : PathAt ts path after) (hends : Ends ⟨path, after⟩ (t :: more)) :
    more.length < ts.length :=
  Nat.lt_of_succ_lt (Nat.lt_of_le_of_lt (h.length_le hends) hpath.length_lt)

/-- What is reached in a list of tokens is determined for every list. -/
theorem exists_reached (h : ReadsTo read Ends) (ts : List Token) :
    ∃ items complete, Reached Ends ts items complete := by
  by_cases hpath : ∃ path after, PathAt ts path after
  · obtain ⟨path, after, hpath⟩ := hpath
    by_cases hends : ∃ rest, Ends ⟨path, after⟩ rest ∧ (rest = [] ∨ atMark ',' rest = true)
    · obtain ⟨rest, hends, rfl | hcomma⟩ := hends
      · exact ⟨_, _, .last hpath hends (.inl rfl)⟩
      · obtain ⟨joint, more, rfl⟩ := atMark_iff.1 hcomma
        by_cases hmore : more = []
        · exact ⟨_, _, .last hpath hends (.inr ⟨joint, by rw [hmore]⟩)⟩
        · have hshorter := h.length_lt hpath hends
          obtain ⟨items, complete, hreached⟩ := exists_reached h more
          exact ⟨_, _, .next hpath hends hmore hreached⟩
    · refine ⟨_, _, .broken hpath fun rest hrest => ?_⟩
      have := not_exists.1 hends rest
      grind
  · exact ⟨_, _, .unnamed fun path after hat => hpath ⟨path, after, hat⟩⟩
termination_by ts.length

/-- The steps of the items are those that the reached items ask for. -/
theorem itemSteps_of_reached (h : ReadsTo read Ends) {ts : List Token} {items : List Item}
    {complete : Bool} (hreached : Reached Ends ts items complete) {fuel : Nat}
    (hfuel : ts.length ≤ fuel) :
    itemSteps read (fuel + 1) ts =
      (items.flatMap fun i => (read i.path i.after).steps, complete) := by
  induction hreached generalizing fuel with
  | @unnamed ts hpath =>
    have hnone : itemPath.run ts = none :=
      Option.eq_none_iff_forall_ne_some.2 fun p hp => hpath p.1 p.2 (itemPath_iff.1 hp)
    rw [itemSteps, hnone]
    rfl
  | @broken ts after path hpath hends =>
    have hrest : ∀ rest, (read path after).rest = some rest → rest ≠ [] ∧ atMark ',' rest = false :=
      fun rest hr => hends rest (h.rest_iff.1 hr)
    rw [itemSteps, itemPath_iff.2 hpath]
    simp only [List.flatMap_cons, List.flatMap_nil, List.append_nil]
    split <;> simp_all [atMark]
  | @last ts after rest path hpath hends hrest =>
    have hread := h.rest_iff.2 hends
    rw [itemSteps, itemPath_iff.2 hpath]
    simp only [List.flatMap_cons, List.flatMap_nil, List.append_nil]
    obtain rfl | ⟨joint, rfl⟩ := hrest <;> split <;> simp_all
  | @next ts after more path joint items complete hpath hends hmore hreached ih =>
    have hread := h.rest_iff.2 hends
    have hshorter := h.length_lt hpath hends
    obtain ⟨fuel, rfl⟩ : ∃ k, fuel = k + 1 := ⟨fuel - 1, by omega⟩
    have hothers := ih (show more.length ≤ fuel by omega)
    rw [itemSteps, itemPath_iff.2 hpath]
    simp only [List.flatMap_cons]
    split <;> simp_all

end ReadsTo

/-! ## Where items end -/

/-- Where an item ends that has to be given a text. -/
inductive Item.TextEnds : Item → List Token → Prop
  | text {path : List String} {joint : Bool} {value : String} {rest : List Token} :
    TextEnds ⟨path, .mark '=' joint :: .literal (.text value) :: rest⟩ rest

/-- Where an item ends that may be given a value, which is an expression. -/
inductive Item.ValueEnds : Item → List Token → Prop
  | alone {path : List String} {ts : List Token} : atMark '=' ts = false → ValueEnds ⟨path, ts⟩ ts
  | value {path : List String} {joint : Bool} {ts rest : List Token} {t : Tree} :
    (Grammar.forTokens ts).value.run ts = some (t, rest) →
      ValueEnds ⟨path, .mark '=' joint :: ts⟩ rest

/-- An item hides what its attribute stands before. -/
def Item.Hides (i : Item) : Prop :=
  i.path = ["skip"] ∨ i.path = ["skip_serializing"]

/-- Where an item of a `serde` attribute ends. -/
inductive Item.Ends : Item → List Token → Prop
  | renamed {joint : Bool} {value : String} {rest : List Token} :
    Ends ⟨["rename"], .mark '=' joint :: .literal (.text value) :: rest⟩ rest
  /-- New names that are told apart by direction. -/
  | directed {content rest : List Token} {items : List Item} :
    Reached TextEnds content items true →
      Ends ⟨["rename"], .group .parenthesis content :: rest⟩ rest
  /-- An item that hides ends with its path. -/
  | hides {i : Item} : i.Hides → Ends i i.after
  | listed {path : List String} {content rest : List Token} {items : List Item} :
    path ≠ ["rename"] → ¬ Hides ⟨path, .group .parenthesis content :: rest⟩ →
      Reached ValueEnds content items true → Ends ⟨path, .group .parenthesis content :: rest⟩ rest
  | other {i : Item} {rest : List Token} : i.path ≠ ["rename"] → ¬ i.Hides →
      atGroup .parenthesis i.after = false → i.ValueEnds rest → Ends i rest

theorem readText_iff {ts rest : List Token} {value : String} :
    readText ts = some (value, rest) ↔
      ∃ joint, ts = .mark '=' joint :: .literal (.text value) :: rest := by
  unfold readText
  split <;> simp_all

theorem readsTo_textEnds : ReadsTo readDirection Item.TextEnds where
  rest_iff := by
    intro path after rest
    rw [readDirection]
    constructor
    · intro h
      split at h
      · rename_i value rest' htext
        obtain ⟨joint, rfl⟩ := readText_iff.1 htext
        cases h
        exact .text
      · cases h
    · rintro ⟨⟩
      rfl
  length_le := by
    rintro i rest ⟨⟩
    simp only [List.length_cons]
    omega

theorem readsTo_valueEnds : ReadsTo (fun _ => readValue) Item.ValueEnds where
  rest_iff := by
    intro path after rest
    unfold readValue
    constructor
    · intro h
      split at h
      · obtain ⟨⟨t, rest'⟩, hvalue, rfl⟩ := Option.map_eq_some_iff.1 h
        exact .value hvalue
      · rename_i hmark
        cases h
        refine .alone (Bool.eq_false_iff.2 fun h => ?_)
        obtain ⟨joint, rest, rfl⟩ := atMark_iff.1 h
        exact hmark joint rest rfl
    · rintro (halone | hvalue)
      · split
        · simp [atMark] at halone
        · rfl
      · exact Option.map_eq_some_iff.2 ⟨_, hvalue, rfl⟩
  length_le := by
    rintro i rest (halone | hvalue)
    · exact Nat.le_refl _
    · have := ((keeps_forTokens (P := fun _ => True) _).value
        (fun t _ => t.wordsAll_of_forall fun _ => trivial) hvalue).1.length_le
      simp only [List.length_cons]
      omega

namespace ReadsTo

variable {read : List String → List Token → ItemRead} {Ends : Item → List Token → Prop}

theorem rest_readNested_iff (h : ReadsTo read Ends) {ts rest : List Token} :
    (readNested read ts).rest = some rest ↔
      ∃ content items, ts = .group .parenthesis content :: rest ∧
        Reached Ends content items true := by
  unfold readNested
  constructor
  · intro hrest
    split at hrest
    · rename_i content rest'
      obtain ⟨items, complete, hreached⟩ := h.exists_reached content
      rw [h.itemSteps_of_reached hreached (Nat.le_refl _)] at hrest
      cases complete with
      | true =>
        cases hrest
        exact ⟨content, items, rfl, hreached⟩
      | false => cases hrest
    · cases hrest
  · rintro ⟨content, items, rfl, hreached⟩
    simp only [h.itemSteps_of_reached hreached (Nat.le_refl _), if_true]

theorem steps_readNested (h : ReadsTo read Ends) {content rest : List Token} {items : List Item}
    {complete : Bool} (hreached : Reached Ends content items complete) :
    (readNested read (.group .parenthesis content :: rest)).steps =
      items.flatMap fun i => (read i.path i.after).steps := by
  rw [readNested, h.itemSteps_of_reached hreached (Nat.le_refl _)]

end ReadsTo

theorem readItem_rename_text {ts : List Token} (h : atMark '=' ts = true) :
    readItem ["rename"] ts =
      match readText ts with
      | some (name, rest) => ⟨[.rename name], some rest⟩
      | none => ⟨[], none⟩ :=
  if_pos h

theorem readItem_rename_nested {ts : List Token} (h : atMark '=' ts = false) :
    readItem ["rename"] ts = readNested readDirection ts :=
  if_neg (Bool.eq_false_iff.1 h)

theorem readItem_hides {i : Item} (h : i.Hides) :
    readItem i.path i.after = ⟨[.hide], some i.after⟩ := by
  obtain h | h := h <;> simp [readItem, h]

theorem readItem_other {i : Item} (hrename : i.path ≠ ["rename"]) (hhides : ¬ i.Hides) :
    readItem i.path i.after =
      if atGroup .parenthesis i.after then readNested (fun _ => readValue) i.after
      else readValue i.after := by
  obtain ⟨hskip, hserializing⟩ := not_or.1 hhides
  simp [readItem, hrename, hskip, hserializing]

theorem readsTo_ends : ReadsTo readItem Item.Ends where
  rest_iff := by
    intro path after rest
    constructor
    · intro h
      by_cases hrename : path = ["rename"]
      · subst hrename
        cases hmark : atMark '=' after with
        | true =>
          rw [readItem_rename_text hmark] at h
          split at h
          · rename_i value rest' htext
            obtain ⟨joint, rfl⟩ := readText_iff.1 htext
            cases h
            exact .renamed
          · cases h
        | false =>
          rw [readItem_rename_nested hmark] at h
          obtain ⟨content, items, rfl, hreached⟩ := readsTo_textEnds.rest_readNested_iff.1 h
          exact .directed hreached
      · by_cases hhides : Item.Hides ⟨path, after⟩
        · rw [readItem_hides hhides] at h
          cases h
          exact .hides hhides
        · rw [readItem_other hrename hhides] at h
          split at h
          · obtain ⟨content, items, rfl, hreached⟩ := readsTo_valueEnds.rest_readNested_iff.1 h
            exact .listed hrename hhides hreached
          · rename_i hgroup
            exact .other hrename hhides (Bool.not_eq_true _ ▸ hgroup)
              (readsTo_valueEnds.rest_iff.1 h)
    · rintro (_ | hreached | hhides | ⟨hrename, hhides, hreached⟩ |
        ⟨hrename, hhides, hgroup, hvalue⟩)
      · rfl
      · rw [readItem_rename_nested rfl]
        exact readsTo_textEnds.rest_readNested_iff.2 ⟨_, _, rfl, hreached⟩
      · rw [readItem_hides hhides]
      · rw [readItem_other hrename hhides]
        exact readsTo_valueEnds.rest_readNested_iff.2 ⟨_, _, rfl, hreached⟩
      · rw [readItem_other hrename hhides, if_neg (Bool.not_eq_true _ ▸ hgroup)]
        exact readsTo_valueEnds.rest_iff.2 hvalue
  length_le := by
    rintro i rest (_ | _ | _ | _ | ⟨-, -, -, hvalue⟩)
    · simp only [List.length_cons]
      omega
    · simp only [List.length_cons]
      omega
    · exact Nat.le_refl _
    · simp only [List.length_cons]
      omega
    · exact readsTo_valueEnds.length_le hvalue

end ApiNotes.Code
