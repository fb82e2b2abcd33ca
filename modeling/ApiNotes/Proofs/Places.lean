/-
Places in a tree. A place is told from the root downward as a list of positions, and one place comes
before another if it is above it, or if the two part at positions of which the first is the smaller.
Walks list what they meet in the order of the places: a node before what is below it, and things in
a row one after the other.
-/
import Mathlib.Data.List.Lex
import Mathlib.Data.List.Basic

namespace ApiNotes

/-- One place comes before another. -/
abbrev Precedes : List Nat → List Nat → Prop :=
  List.Lex (· < ·)

variable {α β γ : Type}

/-- What stands at a place of several things in a row: the position of one of them, and a place in
it. -/
def rowAt? (at? : α → List Nat → Option β) (parts : List α) : List Nat → Option β
  | [] => none
  | i :: place => parts[i]?.bind (at? · place)

/-- A list has what is found at the places, each place looked at once and in their order. -/
def Enumerates (at? : List Nat → Option β) (find : β → Option γ) (found : List γ) : Prop :=
  ∃ placed : List (List Nat × β), placed.filterMap (fun e => find e.2) = found ∧
    (∀ place x, (place, x) ∈ placed ↔ at? place = some x) ∧
    placed.Pairwise fun a b => Precedes a.1 b.1

/-! ## Rows -/

section Row

variable {at? : α → List Nat → Option β} {find : β → Option γ} {found : α → List γ}
  {parts : List α}

theorem rowAt?_eq_some_iff {place : List Nat} {x : β} :
    rowAt? at? parts place = some x ↔
      ∃ j rest part, place = j :: rest ∧ parts[j]? = some part ∧ at? part rest = some x := by
  cases place with
  | nil => simp [rowAt?]
  | cons i place =>
    rw [rowAt?, Option.bind_eq_some_iff]
    constructor
    · rintro ⟨part, hpart, hx⟩
      exact ⟨i, place, part, rfl, hpart, hx⟩
    · rintro ⟨j, rest, part, heq, hpart, hx⟩
      cases heq
      exact ⟨part, hpart, hx⟩

/-- Several things in a row are listed one after the other, their positions counted from `i` on. -/
theorem exists_enumerated_row (h : ∀ part ∈ parts, Enumerates (at? part) find (found part))
    (i : Nat) :
    ∃ placed : List (List Nat × β),
      placed.filterMap (fun e => find e.2) = parts.flatMap found ∧
      (∀ place x, (place, x) ∈ placed ↔
        ∃ j rest part, place = (i + j) :: rest ∧ parts[j]? = some part ∧ at? part rest = some x) ∧
      placed.Pairwise fun a b => Precedes a.1 b.1 := by
  induction parts generalizing i with
  | nil => exact ⟨[], rfl, by simp, .nil⟩
  | cons first parts ih =>
    obtain ⟨hfirst, hparts⟩ := List.forall_mem_cons.1 h
    obtain ⟨here, hlist, hmem, hordered⟩ := hfirst
    obtain ⟨others, hlist', hmem', hordered'⟩ := ih hparts (i + 1)
    refine ⟨here.map (fun e => (i :: e.1, e.2)) ++ others, ?_, fun place x => ?_, ?_⟩
    · rw [List.filterMap_append, List.filterMap_map, hlist', List.flatMap_cons, ← hlist]
      rfl
    · rw [List.mem_append, List.mem_map, hmem']
      constructor
      · rintro (⟨⟨rest, x'⟩, hx, heq⟩ | ⟨j, rest, part, rfl, hpart, hx⟩)
        · cases heq
          exact ⟨0, rest, first, rfl, rfl, (hmem rest x').1 hx⟩
        · exact ⟨j + 1, rest, part, by rw [Nat.add_right_comm, Nat.add_assoc], hpart, hx⟩
      · rintro ⟨j, rest, part, rfl, hpart, hx⟩
        cases j with
        | zero =>
          cases hpart
          exact .inl ⟨(rest, x), (hmem rest x).2 hx, rfl⟩
        | succ j =>
          exact .inr ⟨j, rest, part, by rw [Nat.add_right_comm, Nat.add_assoc], hpart, hx⟩
    · refine List.pairwise_append.2 ⟨?_, hordered', ?_⟩
      · exact List.pairwise_map.2 (hordered.imp fun hlt => .cons hlt)
      · rintro a ha ⟨place, x⟩ hb
        obtain ⟨e, -, rfl⟩ := List.mem_map.1 ha
        obtain ⟨j, rest, part, rfl, -⟩ := (hmem' place x).1 hb
        exact .rel (by omega)

/-- If each of several things is enumerated, so are all of them in a row. -/
theorem enumerates_row (h : ∀ part ∈ parts, Enumerates (at? part) find (found part)) :
    Enumerates (rowAt? at? parts) find (parts.flatMap found) := by
  obtain ⟨placed, hlist, hmem, hordered⟩ := exists_enumerated_row h 0
  simp only [Nat.zero_add] at hmem
  exact ⟨placed, hlist, fun place x => (hmem place x).trans rowAt?_eq_some_iff.symm, hordered⟩

end Row

/-! ## Nodes above rows -/

/-- A node comes before what is below it. -/
theorem Enumerates.node {at? : List Nat → Option β} {below : α → List Nat → Option β}
    {parts : List α} {find : β → Option γ} {found : List γ} {x : β}
    (h : Enumerates (rowAt? below parts) find found) (hroot : at? [] = some x)
    (hbelow : ∀ i place, at? (i :: place) = rowAt? below parts (i :: place)) :
    Enumerates at? find ((find x).toList ++ found) := by
  obtain ⟨placed, hlist, hmem, hordered⟩ := h
  refine ⟨([], x) :: placed, ?_, fun place y => ?_, ?_⟩
  · rw [List.filterMap_cons, hlist]
    cases find x <;> rfl
  · rw [List.mem_cons, hmem]
    cases place with
    | nil => simp [hroot, rowAt?, eq_comm]
    | cons i place => simp [hbelow]
  · refine List.pairwise_cons.2 ⟨fun e he => ?_, hordered⟩
    obtain ⟨place, y⟩ := e
    cases place with
    | nil => cases (hmem _ _).1 he
    | cons i place => exact .nil

/-! ## Finds by place -/

/-- What is found can be listed with the places where it is. -/
theorem Enumerates.exists_marked {at? : List Nat → Option β} {find : β → Option γ}
    {found : List γ} (h : Enumerates at? find found) :
    ∃ marked : List (List Nat × γ), marked.map Prod.snd = found ∧
      (∀ place y, (place, y) ∈ marked ↔ ∃ x, at? place = some x ∧ find x = some y) ∧
      marked.Pairwise fun a b => Precedes a.1 b.1 := by
  obtain ⟨placed, hlist, hmem, hordered⟩ := h
  refine ⟨placed.filterMap fun e => (find e.2).map (e.1, ·), ?_, fun place y => ?_, ?_⟩
  · rw [← hlist, List.map_filterMap]
    refine congrArg (List.filterMap · placed) (funext fun e => ?_)
    cases find e.2 <;> rfl
  · rw [List.mem_filterMap]
    constructor
    · rintro ⟨⟨place', x⟩, he, heq⟩
      obtain ⟨y', hy, heq⟩ := Option.map_eq_some_iff.1 heq
      cases heq
      exact ⟨x, (hmem _ x).1 he, hy⟩
    · rintro ⟨x, hx, hy⟩
      exact ⟨(place, x), (hmem place x).2 hx, by simp [hy]⟩
  · refine hordered.filterMap _ fun a b hab c hc d hd => ?_
    obtain ⟨-, -, rfl⟩ := Option.map_eq_some_iff.1 hc
    obtain ⟨-, -, rfl⟩ := Option.map_eq_some_iff.1 hd
    exact hab

/-- Each thing that is found stands at some place, behind what is found at the places before it. -/
theorem Enumerates.split {at? : List Nat → Option β} {find : β → Option γ} {earlier later : List γ}
    {y : γ} (h : Enumerates at? find (earlier ++ y :: later)) :
    ∃ place x, at? place = some x ∧ find x = some y ∧
      ∀ z, z ∈ earlier ↔ ∃ place' x', Precedes place' place ∧ at? place' = some x' ∧
        find x' = some z := by
  obtain ⟨marked, hlist, hmem, hordered⟩ := h.exists_marked
  obtain ⟨front, back, rfl, rfl, hback⟩ := List.map_eq_append_iff.1 hlist
  obtain ⟨⟨place, y⟩, after, rfl, rfl, -⟩ := List.map_eq_cons_iff.1 hback
  obtain ⟨-, hafter, hcross⟩ := List.pairwise_append.1 hordered
  obtain ⟨x, hx, hy⟩ := (hmem place y).1 (by simp)
  refine ⟨place, x, hx, hy, fun z => ?_⟩
  rw [List.mem_map]
  constructor
  · rintro ⟨⟨place', z⟩, he, rfl⟩
    obtain ⟨x', hx', hz⟩ := (hmem place' z).1 (List.mem_append_left _ he)
    exact ⟨place', x', hcross _ he _ List.mem_cons_self, hx', hz⟩
  · rintro ⟨place', x', hlt, hx', hz⟩
    refine ⟨(place', z), ?_, rfl⟩
    -- what comes before the place cannot stand at it or after it
    rcases List.mem_append.1 ((hmem place' z).2 ⟨x', hx', hz⟩) with he | he
    · exact he
    · rcases List.mem_cons.1 he with heq | he
      · cases heq
        exact absurd hlt (List.lex_irrefl Nat.lt_irrefl _)
      · have hgt : Precedes place place' := (List.pairwise_cons.1 hafter).1 _ he
        exact absurd hgt (List.lex_asymm Nat.lt_asymm hlt)

/-- In a list in order, the last element is the one that nothing comes after. -/
theorem getLast?_eq_some_iff_of_pairwise {r : α → α → Prop} (hr : ∀ a b, r a b → ¬ r b a)
    {l : List α} (h : l.Pairwise r) (a : α) :
    l.getLast? = some a ↔ a ∈ l ∧ ∀ b ∈ l, ¬ r a b := by
  rcases List.eq_nil_or_concat l with rfl | ⟨front, last, rfl⟩
  · simp
  rw [List.concat_eq_append] at h ⊢
  obtain ⟨-, -, hbefore⟩ := List.pairwise_append.1 h
  rw [List.getLast?_concat, Option.some.injEq]
  constructor
  · rintro rfl
    refine ⟨by simp, fun b hb hab => ?_⟩
    rcases List.mem_append.1 hb with hb | hb
    · exact hr _ _ hab (hbefore b hb last (by simp))
    · cases List.mem_singleton.1 hb
      exact hr _ _ hab hab
  · rintro ⟨ha, hlast⟩
    rcases List.mem_append.1 ha with ha | ha
    · exact absurd (hbefore a ha last (by simp)) (hlast last (by simp))
    · exact (List.mem_singleton.1 ha).symm

/-- The last thing with a property that is found stands at the last place with such a thing. -/
theorem Enumerates.getLast?_filter {at? : List Nat → Option β} {find : β → Option γ}
    {found : List γ} (h : Enumerates at? find found) (p : γ → Bool) {y : γ} :
    (found.filter p).getLast? = some y ↔
      ∃ place x, at? place = some x ∧ find x = some y ∧ p y = true ∧
        ∀ place' x' z, Precedes place place' → at? place' = some x' → find x' = some z →
          p z = false := by
  obtain ⟨marked, rfl, hmem, hordered⟩ := h.exists_marked
  have hasymm (a b : List Nat × γ) (hab : Precedes a.1 b.1) : ¬ Precedes b.1 a.1 :=
    List.lex_asymm Nat.lt_asymm hab
  have hlast := getLast?_eq_some_iff_of_pairwise hasymm (hordered.filter fun e => p e.2)
  rw [List.filter_map, List.getLast?_map, Option.map_eq_some_iff]
  simp only [Function.comp_def, hlast, List.mem_filter]
  constructor
  · rintro ⟨⟨place, y⟩, ⟨⟨he, hp⟩, hafter⟩, rfl⟩
    obtain ⟨x, hx, hy⟩ := (hmem place y).1 he
    refine ⟨place, x, hx, hy, hp, fun place' x' z hlt hx' hz => Bool.eq_false_iff.2 fun hpz => ?_⟩
    exact hafter (place', z) ⟨(hmem place' z).2 ⟨x', hx', hz⟩, hpz⟩ hlt
  · rintro ⟨place, x, hx, hy, hp, hafter⟩
    refine ⟨(place, y), ⟨⟨(hmem place y).2 ⟨x, hx, hy⟩, hp⟩, fun e he hlt => ?_⟩, rfl⟩
    obtain ⟨x', hx', hz⟩ := (hmem e.1 e.2).1 he.1
    exact Bool.eq_false_iff.1 (hafter e.1 x' e.2 hlt hx' hz) he.2

end ApiNotes
