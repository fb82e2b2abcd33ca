/-
How many passes a resolution takes if nothing caps them. A name that is not declared leads nowhere,
so a pass that leaves another one to do has looked at a declared name, and no later pass looks at
that name again. Hence the passes come to an end on every input, there are at most as many as there
are declarations and one more, and a cap above the number of declarations is never reached.
-/
import ApiNotes.Proofs.Resolution.Distance
import Mathlib.Data.Finset.Card

namespace ApiNotes.Resolution

variable {table : SymbolTable} {known level : List String} {levels : List (List String)} {cap : Nat}

/-! ## Passes without a cap -/

/-- With nothing to cap them, the passes from a level on look at the given levels and then end. The
known names are those that no pass is to look at again. -/
inductive Run (table : SymbolTable) : List String → List String → List (List String) → Prop
  | done {known : List String} : Run table known [] []
  | pass {known level : List String} {levels : List (List String)} : level ≠ [] →
      Run table (known ++ nextLevel table known level) (nextLevel table known level) levels →
      Run table known level (level :: levels)

/-- A cap that admits all passes makes no difference. -/
theorem Run.explore_of_length_le (h : Run table known level levels) (hle : levels.length ≤ cap) :
    explore table cap known level = (levels, []) := by
  induction h generalizing cap with
  | done => rw [explore_nil]
  | @pass known level levels hne _ ih =>
    obtain ⟨cap, rfl⟩ := Nat.exists_eq_add_of_le' (Nat.one_le_of_lt hle)
    rw [explore_succ table cap known hne, ih (Nat.le_of_succ_le_succ hle)]

/-- A cap that does not admit all passes leaves names over. -/
theorem Run.leftOver_ne_nil (h : Run table known level levels) (hlt : cap < levels.length) :
    (explore table cap known level).2 ≠ [] := by
  induction h generalizing cap with
  | done => exact absurd hlt (Nat.not_lt_zero cap)
  | @pass known level levels hne _ ih =>
    cases cap with
    | zero => exact hne
    | succ cap =>
      rw [explore_succ table cap known hne]
      exact ih (Nat.lt_of_succ_lt_succ hlt)

/-! ## Declared names are spent -/

/-- The declared names that the passes from a level on may still look at. -/
def unspent (table : SymbolTable) (known level : List String) : Finset String :=
  table.keys.toFinset.filter fun n => n ∈ level ∨ n ∉ known

theorem mem_unspent {n : String} :
    n ∈ unspent table known level ↔ table.contains n = true ∧ (n ∈ level ∨ n ∉ known) := by
  rw [unspent, Finset.mem_filter, List.mem_toFinset, OrderedMap.mem_keys_iff]

theorem card_unspent_le (table : SymbolTable) (known level : List String) :
    (unspent table known level).card ≤ table.size := by
  have hkeys : table.keys.length = table.size := List.length_map _
  exact (Finset.card_filter_le _ _).trans (hkeys ▸ List.toFinset_card_le table.keys)

/-- A name that leads to another one is declared. -/
theorem contains_of_mem_successors {n k : String} (h : k ∈ successors table n) :
    table.contains n = true := by
  obtain ⟨s, hs, -⟩ := mem_successors_iff.1 h
  exact (OrderedMap.contains_iff table n).2 ⟨s, hs⟩

/-- A pass that leaves another one to do spends a declared name. -/
theorem unspent_nextLevel_ssubset (hl : level ⊆ known) (hne : nextLevel table known level ≠ []) :
    unspent table (known ++ nextLevel table known level) (nextLevel table known level) ⊂
      unspent table known level := by
  obtain ⟨k, hk⟩ := List.exists_mem_of_ne_nil _ hne
  obtain ⟨⟨n, hn, hnk⟩, -⟩ := mem_nextLevel.1 hk
  refine Finset.ssubset_iff_of_subset (fun x hx => ?_) |>.2 ⟨n, ?_, fun hspent => ?_⟩
  · -- what comes up later was not known, be it in the next level or beyond
    obtain ⟨hdeclared, hx⟩ := mem_unspent.1 hx
    refine mem_unspent.2 ⟨hdeclared, .inr ?_⟩
    rcases hx with hx | hx
    · exact (mem_nextLevel.1 hx).2
    · exact fun hknown => hx (List.mem_append_left _ hknown)
  · exact mem_unspent.2 ⟨contains_of_mem_successors hnk, .inl hn⟩
  · rcases (mem_unspent.1 hspent).2 with hx | hx
    · exact (mem_nextLevel.1 hx).2 (hl hn)
    · exact hx (List.mem_append_left _ (hl hn))

/-- If a level is known, the passes from it on end, all but one of them for a declared name. -/
theorem exists_run_of_subset (table : SymbolTable) (hl : level ⊆ known) :
    ∃ levels, Run table known level levels ∧
      levels.length ≤ (unspent table known level).card + 1 := by
  induction hcard : (unspent table known level).card using Nat.strong_induction_on
    generalizing known level with
  | _ card ih =>
    by_cases hlevel : level = []
    · subst hlevel
      exact ⟨[], .done, Nat.zero_le _⟩
    by_cases hnext : nextLevel table known level = []
    · exact ⟨[level], .pass hlevel (hnext ▸ .done), Nat.le_add_left 1 card⟩
    · have hlt := Finset.card_lt_card (unspent_nextLevel_ssubset hl hnext)
      obtain ⟨levels, hrun, hlength⟩ :=
        ih _ (hcard ▸ hlt) (List.subset_append_right known _) rfl
      refine ⟨level :: levels, .pass hlevel hrun, ?_⟩
      rw [List.length_cons]
      omega

/-! ## Resolving a model -/

/-- Whatever the declarations refer to and however many of the names are not declared, the passes of
a resolution end without a cap, and there are at most as many as declarations and one more. A cap
that admits that many gives just these passes, a smaller one is a failure; so a cap above the number
of declarations never is one. -/
theorem resolve_passes (table : SymbolTable) (m : ApiModel) : ∃ levels,
    Run table (m.document.components.schemas.keys ++ seeds m) (seeds m) levels ∧
    levels.length ≤ table.size + 1 ∧
    (∀ cap, levels.length ≤ cap → ∃ r, (m.resolve table cap).2.result = .ok r ∧
      r.levels = levels ∧ r.passes ≤ table.size + 1) ∧
    (∀ cap, cap < levels.length →
      (m.resolve table cap).2.result = .error (.unsettled m.name cap)) ∧
    ∀ cap, table.size < cap → ∃ r, (m.resolve table cap).2.result = .ok r := by
  obtain ⟨levels, hrun, hlength⟩ := exists_run_of_subset table
    (List.subset_append_right m.document.components.schemas.keys (seeds m))
  have hbound : levels.length ≤ table.size + 1 :=
    hlength.trans (Nat.succ_le_succ (card_unspent_le table _ _))
  have hadmitted : ∀ cap, levels.length ≤ cap → ∃ r, (m.resolve table cap).2.result = .ok r ∧
      r.levels = levels ∧ r.passes ≤ table.size + 1 := by
    intro cap hcap
    have hexplore := hrun.explore_of_length_le hcap
    have hlevels : (ofModel table cap m).levels = levels := congrArg Prod.fst hexplore
    have hsettled : (ofModel table cap m).isSettled = true :=
      List.isEmpty_iff.2 (congrArg Prod.snd hexplore)
    refine ⟨_, resolve_eq_ok_iff.2 ⟨rfl, hsettled⟩, hlevels, ?_⟩
    rw [passes, hlevels]
    exact hbound
  refine ⟨levels, hrun, hbound, hadmitted, fun cap hcap => ?_, fun cap hcap => ?_⟩
  · refine resolve_eq_error_iff.2 ⟨rfl, Bool.eq_false_iff.2 fun hs => ?_⟩
    exact hrun.leftOver_ne_nil hcap (List.isEmpty_iff.1 hs)
  · obtain ⟨r, hr, -⟩ := hadmitted cap (hbound.trans hcap)
    exact ⟨r, hr⟩

/-- The bound is met: two declarations in a row and a name without one take three passes. -/
example :
    let table : SymbolTable := .ofList [("Shelf", .record [("books", .list (.named "Book"))]),
      ("Book", .synonym (.named "Isbn"))]
    let m : ApiModel := { name := "library", referenced := ["Shelf"] }
    (m.resolve table 3).2.result = .ok ⟨[["Shelf"], ["Book"], ["Isbn"]], [], ["Isbn"]⟩ ∧
      (m.resolve table 2).2.result = .error (.unsettled "library" 2) :=
  ⟨rfl, rfl⟩

end ApiNotes.Resolution
