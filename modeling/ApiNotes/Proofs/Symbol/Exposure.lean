/-
Which fields and variants attributes expose, and how. What counts is what the items say that are
reached in the attributes: whether one of them hides, and which name is the last that one of them
sets. Neither the order of a name and a hiding item nor what fails behind them makes a difference.
-/
import Mathlib.Data.List.Basic
import Mathlib.Data.List.Induction
import ApiNotes.Symbol.Extraction
import ApiNotes.Proofs.Symbol.Exposure.Items

namespace ApiNotes.Code

/-! ## What reached items say -/

/-- The text that an item of a certain name is given. -/
def Item.text? (name : String) : Item → Option String
  | ⟨path, .mark '=' _ :: .literal (.text value) :: _⟩ => if path = [name] then some value else none
  | _ => none

/-- The names that a reached item sets, in order. In a list of names told apart by direction, those
count that are reached, even if the list is not well formed to its end. -/
inductive Item.Names : Item → List String → Prop
  | text {i : Item} {name : String} : i.text? "rename" = some name → Names i [name]
  | directed {content rest : List Token} {items : List Item} {complete : Bool} :
    Reached TextEnds content items complete →
      Names ⟨["rename"], .group .parenthesis content :: rest⟩
        (items.filterMap (Item.text? "serialize"))
  | silent {i : Item} : i.text? "rename" = none →
      (i.path = ["rename"] → atGroup .parenthesis i.after = false) → Names i []

/-- The items of an attribute that are reached. Other attributes than `serde` have none. -/
inductive Attribute.Reached : Attribute → List Item → Prop
  | serde {ts : List Token} {items : List Item} {complete : Bool} :
    Code.Reached Item.Ends ts items complete → Reached ⟨["serde"], some ts⟩ items
  | bare : Reached ⟨["serde"], none⟩ []
  | other {a : Attribute} : a.path ≠ ["serde"] → Reached a []

/-- The lists that belong to the elements of a list, one behind the other. -/
inductive Chained {α β : Type} (R : α → List β → Prop) : List α → List β → Prop
  | nil : Chained R [] []
  | cons {a : α} {as : List α} {bs others : List β} :
    R a bs → Chained R as others → Chained R (a :: as) (bs ++ others)

/-- The items of a list of attributes that are reached and the names they set, all in order. -/
structure Tells (attributes : List Attribute) (items : List Item) (names : List String) : Prop where
  reached : Chained Attribute.Reached attributes items
  named : Chained Item.Names items names

section
variable {α β γ : Type} {R : α → List β → Prop}

theorem exists_chained (h : ∀ a, ∃ bs, R a bs) (as : List α) : ∃ bs, Chained R as bs := by
  induction as with
  | nil => exact ⟨[], .nil⟩
  | cons a as ih =>
    obtain ⟨bs, ha⟩ := h a
    obtain ⟨others, has⟩ := ih
    exact ⟨_, .cons ha has⟩

theorem Chained.flatMap_eq {as : List α} {bs : List β} (h : Chained R as bs) {f : α → List γ}
    {g : β → List γ} (heach : ∀ a bs, R a bs → f a = bs.flatMap g) :
    as.flatMap f = bs.flatMap g := by
  induction h with
  | nil => rfl
  | cons ha _ ih => rw [List.flatMap_cons, List.flatMap_append, heach _ _ ha, ih]

end

/-- The steps that an item asks for. -/
def Item.steps (i : Item) : List ExposureStep :=
  (readItem i.path i.after).steps

/-- The name that a step gives. -/
def ExposureStep.name? : ExposureStep → Option String
  | .hide => none
  | .rename name => some name

namespace Item

theorem text?_eq_some_iff {name value : String} {i : Item} :
    i.text? name = some value ↔
      ∃ joint rest, i = ⟨[name], .mark '=' joint :: .literal (.text value) :: rest⟩ := by
  constructor
  · intro h
    unfold text? at h
    split at h
    · split at h
      · rename_i hpath
        cases h
        exact ⟨_, _, by rw [hpath]⟩
      · cases h
    · cases h
  · rintro ⟨joint, rest, rfl⟩
    exact if_pos rfl

/-- Among names told apart by direction, only those for writing ask for a step. -/
theorem steps_readDirection (i : Item) :
    (readDirection i.path i.after).steps = (i.text? "serialize").toList.map .rename := by
  obtain ⟨path, after⟩ := i
  rw [readDirection]
  cases hread : readText after with
  | some p =>
    obtain ⟨joint, rfl⟩ := readText_iff.1 hread
    by_cases hpath : path = ["serialize"] <;> simp [text?, hpath]
  | none =>
    have htext : text? "serialize" ⟨path, after⟩ = none := by
      refine Option.eq_none_iff_forall_ne_some.2 fun value hvalue => ?_
      obtain ⟨joint, rest, heq⟩ := text?_eq_some_iff.1 hvalue
      cases heq
      cases hread
    rw [htext]
    rfl

theorem steps_readValue (ts : List Token) : (readValue ts).steps = [] := by
  unfold readValue
  split <;> rfl

theorem steps_readNested_value (ts : List Token) :
    (readNested (fun _ => readValue) ts).steps = [] := by
  unfold readNested
  split
  · rename_i content rest
    obtain ⟨items, complete, hreached⟩ := readsTo_valueEnds.exists_reached content
    rw [readsTo_valueEnds.itemSteps_of_reached hreached (Nat.le_refl _)]
    exact List.flatMap_eq_nil_iff.2 fun i _ => steps_readValue i.after
  · rfl

theorem Hides.path_ne {i : Item} (h : i.Hides) : i.path ≠ ["rename"] := by
  obtain h | h := h <;> simp [h]

/-- An item that does not hide asks for the names it sets, and for nothing else. -/
theorem Names.steps_eq {i : Item} {names : List String} (h : i.Names names) (hhides : ¬ i.Hides) :
    i.steps = names.map .rename := by
  cases h with
  | text htext =>
    obtain ⟨joint, rest, rfl⟩ := text?_eq_some_iff.1 htext
    rfl
  | @directed content rest items complete hreached =>
    rw [steps, readItem_rename_nested rfl, readsTo_textEnds.steps_readNested hreached]
    simp only [steps_readDirection]
    rw [List.filterMap_eq_flatMap_toList, List.map_flatMap]
  | silent htext hgroup =>
    obtain ⟨path, after⟩ := i
    rw [steps, List.map_nil]
    by_cases hrename : path = ["rename"]
    · subst hrename
      cases hmark : atMark '=' after with
      | true =>
        rw [readItem_rename_text hmark]
        split
        · rename_i value rest hread
          obtain ⟨joint, rfl⟩ := readText_iff.1 hread
          cases htext
        · rfl
      | false =>
        rw [readItem_rename_nested hmark]
        unfold readNested
        split
        · cases hgroup rfl
        · rfl
    · rw [readItem_other hrename hhides]
      split
      · exact steps_readNested_value after
      · exact steps_readValue after

theorem exists_names (i : Item) : ∃ names, i.Names names := by
  cases htext : i.text? "rename" with
  | some name => exact ⟨[name], .text htext⟩
  | none =>
    by_cases hgroup : i.path = ["rename"] ∧ atGroup .parenthesis i.after = true
    · obtain ⟨path, after⟩ := i
      obtain ⟨rfl, hgroup⟩ := hgroup
      match after, hgroup with
      | .group .parenthesis content :: rest, _ =>
        obtain ⟨items, complete, hreached⟩ := readsTo_textEnds.exists_reached content
        exact ⟨_, .directed hreached⟩
    · exact ⟨[], .silent htext fun hpath => Bool.eq_false_iff.2 fun hat => hgroup ⟨hpath, hat⟩⟩

theorem hide_mem_steps_iff (i : Item) : .hide ∈ i.steps ↔ i.Hides := by
  constructor
  · intro h
    by_contra hhides
    obtain ⟨names, hnames⟩ := i.exists_names
    simp [hnames.steps_eq hhides] at h
  · intro h
    rw [steps, readItem_hides h]
    exact List.mem_singleton_self _

theorem Names.filterMap_steps {i : Item} {names : List String} (h : i.Names names) :
    i.steps.filterMap ExposureStep.name? = names := by
  by_cases hhides : i.Hides
  · rw [steps, readItem_hides hhides]
    cases h with
    | text htext =>
      obtain ⟨joint, rest, rfl⟩ := text?_eq_some_iff.1 htext
      exact absurd rfl hhides.path_ne
    | directed => exact absurd rfl hhides.path_ne
    | silent => rfl
  · rw [h.steps_eq hhides, List.filterMap_map]
    exact List.filterMap_some

end Item

theorem Attribute.exists_reached (a : Attribute) : ∃ items, a.Reached items := by
  obtain ⟨path, arguments⟩ := a
  by_cases hpath : path = ["serde"]
  · subst hpath
    cases arguments with
    | none => exact ⟨[], .bare⟩
    | some ts =>
      obtain ⟨items, complete, hreached⟩ := readsTo_ends.exists_reached ts
      exact ⟨items, .serde hreached⟩
  · exact ⟨[], .other hpath⟩

theorem Attribute.Reached.steps_eq {a : Attribute} {items : List Item} (h : a.Reached items) :
    a.steps = items.flatMap Item.steps := by
  cases h with
  | serde hreached =>
    exact congrArg Prod.fst (readsTo_ends.itemSteps_of_reached hreached (Nat.le_refl _))
  | bare => rfl
  | other hpath => simp [Attribute.steps, hpath]

namespace Exposure

theorem ofSteps_append_singleton (steps : List ExposureStep) (s : ExposureStep) :
    ofSteps (steps ++ [s]) = (ofSteps steps).step s :=
  List.foldl_append

theorem hidden_ofSteps (steps : List ExposureStep) :
    (ofSteps steps).hidden = true ↔ .hide ∈ steps := by
  induction steps using List.reverseRecOn with
  | nil => simp [ofSteps]
  | append_singleton steps s ih => cases s <;> simp [ofSteps_append_singleton, step, ih]

theorem name_ofSteps (steps : List ExposureStep) :
    (ofSteps steps).name = (steps.filterMap ExposureStep.name?).getLast? := by
  induction steps using List.reverseRecOn with
  | nil => rfl
  | append_singleton steps s ih =>
    cases s <;> simp [ofSteps_append_singleton, step, ih, ExposureStep.name?]

end Exposure

/-- Every list of attributes tells something. -/
theorem exists_tells (attributes : List Attribute) :
    ∃ items names, Tells attributes items names := by
  obtain ⟨items, hitems⟩ := exists_chained Attribute.exists_reached attributes
  obtain ⟨names, hnames⟩ := exists_chained Item.exists_names items
  exact ⟨items, names, hitems, hnames⟩

namespace Tells

variable {attributes : List Attribute} {items : List Item} {names : List String}
  (h : Tells attributes items names)
include h

theorem steps_eq : attributes.flatMap Attribute.steps = items.flatMap Item.steps :=
  h.reached.flatMap_eq fun _ _ => Attribute.Reached.steps_eq

theorem hidden_iff : (Exposure.ofAttributes attributes).hidden = true ↔ ∃ i ∈ items, i.Hides := by
  rw [Exposure.ofAttributes, Exposure.hidden_ofSteps, h.steps_eq, List.mem_flatMap]
  exact exists_congr fun i => and_congr_right fun _ => i.hide_mem_steps_iff

theorem hidden_eq_false_iff :
    (Exposure.ofAttributes attributes).hidden = false ↔ ∀ i ∈ items, ¬ i.Hides := by
  rw [← Bool.not_eq_true, h.hidden_iff, not_exists]
  exact forall_congr' fun i => not_and

theorem name_eq : (Exposure.ofAttributes attributes).name = names.getLast? := by
  have hnames : (items.flatMap Item.steps).filterMap ExposureStep.name? = names := by
    rw [List.filterMap_flatMap]
    exact (h.named.flatMap_eq fun i part hpart => hpart.filterMap_steps.trans
      part.flatMap_singleton'.symm).trans names.flatMap_singleton'
  rw [Exposure.ofAttributes, Exposure.name_ofSteps, h.steps_eq, hnames]

end Tells

/-- What is not hidden and has a certain name, said of the items and of the exposure. -/
theorem exists_tells_iff (attributes : List Attribute) (P : Option String → Prop) :
    (∃ items names, Tells attributes items names ∧ (∀ i ∈ items, ¬ i.Hides) ∧ P names.getLast?) ↔
      (Exposure.ofAttributes attributes).hidden = false ∧
        P (Exposure.ofAttributes attributes).name := by
  constructor
  · rintro ⟨items, names, htells, hhides, hname⟩
    exact ⟨htells.hidden_eq_false_iff.2 hhides, htells.name_eq ▸ hname⟩
  · rintro ⟨hhidden, hname⟩
    obtain ⟨items, names, htells⟩ := exists_tells attributes
    exact ⟨items, names, htells, htells.hidden_eq_false_iff.1 hhidden, htells.name_eq ▸ hname⟩

/-! ## Fields and variants -/

/-- What the elements of a list show, in order. Those that show nothing are left out. -/
inductive Listed {α β : Type} (Shows : α → β → Prop) : List α → List β → Prop
  | nil : Listed Shows [] []
  | shown {a : α} {b : β} {as : List α} {bs : List β} :
    Shows a b → Listed Shows as bs → Listed Shows (a :: as) (b :: bs)
  | hidden {a : α} {as : List α} {bs : List β} :
    (∀ b, ¬ Shows a b) → Listed Shows as bs → Listed Shows (a :: as) bs

theorem filterMap_eq_iff_listed {α β : Type} {f : α → Option β} {Shows : α → β → Prop}
    (h : ∀ a b, f a = some b ↔ Shows a b) {as : List α} {bs : List β} :
    as.filterMap f = bs ↔ Listed Shows as bs := by
  constructor
  · rintro rfl
    induction as with
    | nil => exact .nil
    | cons a as ih =>
      cases ha : f a with
      | none =>
        rw [List.filterMap_cons_none ha]
        exact .hidden (fun b hb => by simp [(h a b).2 hb] at ha) ih
      | some b =>
        rw [List.filterMap_cons_some ha]
        exact .shown ((h a b).1 ha) ih
  · intro hlisted
    induction hlisted with
    | nil => rfl
    | shown hb _ ih => rw [List.filterMap_cons_some ((h _ _).2 hb), ih]
    | hidden hnone _ ih =>
      rw [List.filterMap_cons_none (Option.eq_none_iff_forall_ne_some.2 fun b hb =>
        hnone b ((h _ b).1 hb)), ih]

/-- A field shows the last name it is given, unless it is hidden or is given none. -/
def Field.Shows (f : Field) (shown : String × TypeRef) : Prop :=
  ∃ items names, Tells f.attributes items names ∧ (∀ i ∈ items, ¬ i.Hides) ∧
    names.getLast? = some shown.1 ∧ shown.2 = f.type.shape

/-- A variant shows the last name it is given, or else its own, unless it is hidden. -/
def Variant.Shows (v : Variant) (shown : String) : Prop :=
  ∃ items names, Tells v.attributes items names ∧ (∀ i ∈ items, ¬ i.Hides) ∧
    shown = names.getLast?.getD v.name

theorem Field.exposed_eq_some_iff (f : Field) (shown : String × TypeRef) :
    f.exposed = some shown ↔ f.Shows shown := by
  rw [Shows, exists_tells_iff f.attributes fun name => name = some shown.1 ∧ shown.2 = f.type.shape]
  simp only [exposed, Option.ite_none_left_eq_some, Option.map_eq_some_iff, Bool.not_eq_true]
  refine and_congr_right fun _ => ⟨?_, ?_⟩
  · rintro ⟨name, hname, rfl⟩
    exact ⟨hname, rfl⟩
  · rintro ⟨hname, htype⟩
    exact ⟨shown.1, hname, Prod.ext rfl htype.symm⟩

theorem Variant.exposed_eq_some_iff (v : Variant) (shown : String) :
    v.exposed = some shown ↔ v.Shows shown := by
  rw [Shows, exists_tells_iff v.attributes fun name => shown = name.getD v.name]
  simp only [exposed, Option.ite_none_left_eq_some, Option.some_inj, Bool.not_eq_true]
  exact and_congr_right fun _ => eq_comm

/-- Of names told apart by direction the one for writing is set as soon as it is reached. The text
behind it ends the attribute, so an item after that does not hide. -/
example :
    let text := "enum E \x7b
      #[serde(rename(serialize = \"a\", \"b\"), skip)] X,
      #[serde(rename = \"c\")] #[serde(skip = 1)] Y \x7d"
    (SourceUnit.ofText? text).map SourceUnit.symbols = some [("E", .enumeration ["a"])] := by
  decide +kernel

end ApiNotes.Code
