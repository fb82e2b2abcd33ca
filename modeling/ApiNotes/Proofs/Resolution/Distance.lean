/-
The levels of a resolution are the names by their distance from what the document mentions: a name
of level `d` is reached from a seed in `d` steps and in no fewer. So a cap is too small exactly if
some needed name lies as far away as the cap, and the names below the cap are given their schemas
even then; a cap that suffices has no influence on the result.

The proof is the breadth-first invariant: in front of level `i` the names at hand are those at
distance `i`, and the known ones are those with a schema and those at a distance up to `i`.
-/
import ApiNotes.Proofs.Resolution.Closure
import Mathlib.Data.Nat.Find

namespace ApiNotes.Resolution

/-! ## Distances -/

/-- A name that is reached from a seed in a number of steps. -/
inductive ReachedIn (table : SymbolTable) (m : ApiModel) : Nat → String → Prop
  | seed {n : String} : IsSeed m n → ReachedIn table m 0 n
  | step {d : Nat} {n k : String} : ReachedIn table m d n →
      Leads table m.document.components.schemas n k → ReachedIn table m (d + 1) k

/-- The number of steps on a shortest way from a seed to a name. -/
structure HasDistance (table : SymbolTable) (m : ApiModel) (n : String) (d : Nat) : Prop where
  reached : ReachedIn table m d n
  least : ∀ j, ReachedIn table m j n → d ≤ j

variable {table : SymbolTable} {m : ApiModel} {n k : String} {d i cap : Nat}

theorem needs_iff_reachedIn : Needs table m n ↔ ∃ d, ReachedIn table m d n := by
  constructor
  · rintro ⟨s, hs, hpath⟩
    induction hpath with
    | refl => exact ⟨0, .seed hs⟩
    | tail _ hstep ih =>
      obtain ⟨d, hd⟩ := ih
      exact ⟨d + 1, .step hd hstep⟩
  · rintro ⟨d, hd⟩
    induction hd with
    | seed hs => exact ⟨_, hs, .refl⟩
    | step _ hstep ih => exact ih.step hstep

/-- Exactly the needed names have a distance. -/
theorem needs_iff_hasDistance : Needs table m n ↔ ∃ d, HasDistance table m n d := by
  rw [needs_iff_reachedIn]
  constructor
  · intro h
    classical
    exact ⟨Nat.find h, Nat.find_spec h, fun j hj => Nat.find_min' h hj⟩
  · rintro ⟨d, hd⟩
    exact ⟨d, hd.reached⟩

theorem HasDistance.missing (h : HasDistance table m n d) :
    m.document.components.schemas.contains n = false :=
  (needs_iff_hasDistance.2 ⟨d, h⟩).missing

theorem hasDistance_zero_iff : HasDistance table m n 0 ↔ IsSeed m n := by
  constructor
  · intro h
    cases h.reached with
    | seed hs => exact hs
  · exact fun hs => ⟨.seed hs, fun j _ => Nat.zero_le j⟩

/-- A name that can be reached in some steps has a distance of at most as many. -/
theorem ReachedIn.exists_hasDistance (h : ReachedIn table m d n) :
    ∃ j ≤ d, HasDistance table m n j := by
  obtain ⟨j, hj⟩ := needs_iff_hasDistance.1 (needs_iff_reachedIn.2 ⟨d, h⟩)
  exact ⟨j, hj.least d h, hj⟩

/-- A name is one step further away than level `d` if a name of that level leads to it and it is
neither in that level nor in one before. -/
theorem hasDistance_succ_iff : HasDistance table m k (d + 1) ↔
    (∃ n, HasDistance table m n d ∧ Leads table m.document.components.schemas n k) ∧
      ∀ j ≤ d, ¬ HasDistance table m k j := by
  constructor
  · intro h
    refine ⟨?_, fun j hj hk => ?_⟩
    · cases h.reached with
      | @step _ n _ hn hstep =>
        -- a shorter way to the name before would be a shorter way to this one
        refine ⟨n, ⟨hn, fun j hj => ?_⟩, hstep⟩
        have hle := h.least (j + 1) (.step hj hstep)
        omega
    · have hle := h.least j hk.reached
      omega
  · rintro ⟨⟨n, hn, hstep⟩, hno⟩
    refine ⟨.step hn.reached hstep, fun j hj => ?_⟩
    obtain ⟨j', hle, hj'⟩ := hj.exists_hasDistance
    by_contra hlt
    exact hno j' (by omega) hj'

/-- On the way to a name there is a name at every smaller distance. -/
theorem HasDistance.exists_of_le (h : HasDistance table m n d) (hi : i ≤ d) :
    ∃ k, HasDistance table m k i := by
  induction d generalizing n with
  | zero =>
    obtain rfl : i = 0 := by omega
    exact ⟨n, h⟩
  | succ d ih =>
    rcases Nat.lt_or_ge d i with hlt | hle
    · obtain rfl : i = d + 1 := by omega
      exact ⟨n, h⟩
    · obtain ⟨⟨n', hn', -⟩, -⟩ := hasDistance_succ_iff.1 h
      exact ih hn' hle

/-! ## The exploration -/

/-- The names in front of level `i`. -/
structure AtLevel (table : SymbolTable) (m : ApiModel) (i : Nat) (known level : List String) :
    Prop where
  mem_level : ∀ n, n ∈ level ↔ HasDistance table m n i
  mem_known : ∀ n, n ∈ known ↔
    m.document.components.schemas.contains n = true ∨ ∃ d ≤ i, HasDistance table m n d

theorem atLevel_zero (table : SymbolTable) (m : ApiModel) :
    AtLevel table m 0 (m.document.components.schemas.keys ++ seeds m) (seeds m) := by
  have hseeds : ∀ n, n ∈ seeds m ↔ HasDistance table m n 0 :=
    fun n => by rw [mem_seeds_iff, hasDistance_zero_iff]
  refine ⟨hseeds, fun n => ?_⟩
  rw [List.mem_append, OrderedMap.mem_keys_iff, hseeds]
  simp

/-- One level further the same holds. -/
theorem AtLevel.next {known level : List String} (h : AtLevel table m i known level) :
    AtLevel table m (i + 1) (known ++ nextLevel table known level)
      (nextLevel table known level) := by
  have hnext : ∀ k, k ∈ nextLevel table known level ↔ HasDistance table m k (i + 1) := by
    intro k
    rw [mem_nextLevel, h.mem_known, hasDistance_succ_iff, not_or, Bool.not_eq_true]
    constructor
    · rintro ⟨⟨n, hn, hk⟩, hmissing, hno⟩
      have hn := (h.mem_level n).1 hn
      exact ⟨⟨n, hn, hn.missing, mem_successors_iff.1 hk, hmissing⟩,
        fun j hj hkj => hno ⟨j, hj, hkj⟩⟩
    · rintro ⟨⟨n, hn, hstep⟩, hno⟩
      exact ⟨⟨n, (h.mem_level n).2 hn, mem_successors_iff.2 hstep.mentioned⟩, hstep.target,
        fun ⟨j, hj, hkj⟩ => hno j hj hkj⟩
  refine ⟨hnext, fun n => ?_⟩
  rw [List.mem_append, h.mem_known, hnext, or_assoc]
  refine or_congr Iff.rfl ⟨?_, ?_⟩
  · rintro (⟨d, hd, hn⟩ | hn)
    · exact ⟨d, by omega, hn⟩
    · exact ⟨i + 1, Nat.le_refl _, hn⟩
  · rintro ⟨d, hd, hn⟩
    rcases Nat.lt_or_ge i d with hlt | hle
    · obtain rfl : d = i + 1 := by omega
      exact .inr hn
    · exact .inl ⟨d, hle, hn⟩

/-- The levels from level `i` on, up to `cap` of them, and what lies beyond. -/
structure Layered (table : SymbolTable) (m : ApiModel) (i cap : Nat) (levels : List (List String))
    (leftOver : List String) : Prop where
  level : ∀ d level, levels[d]? = some level →
    level ≠ [] ∧ ∀ n, n ∈ level ↔ HasDistance table m n (i + d)
  length_le : levels.length ≤ cap
  ended : levels.length < cap → ∀ n, ¬ HasDistance table m n (i + levels.length)
  leftOver : ∀ n, n ∈ leftOver ↔ HasDistance table m n (i + cap)

/-- An exploration finds one level after the other. -/
theorem AtLevel.explore {known level : List String} (h : AtLevel table m i known level)
    (cap : Nat) : Layered table m i cap (explore table cap known level).1
      (explore table cap known level).2 := by
  induction cap generalizing i known level with
  | zero => exact ⟨by simp, Nat.le_refl _, by simp, h.mem_level⟩
  | succ cap ih =>
    by_cases hne : level = []
    · -- no name is at this distance, and so none is further away
      subst hne
      have hnone : ∀ n, ¬ HasDistance table m n i := fun n hn => by
        simpa using (h.mem_level n).2 hn
      have hbeyond : ∀ n, ¬ HasDistance table m n (i + (cap + 1)) := fun n hn => by
        obtain ⟨k, hk⟩ := hn.exists_of_le (Nat.le_add_right i (cap + 1))
        exact hnone k hk
      rw [explore_nil]
      exact ⟨by simp, Nat.zero_le _, fun _ => hnone, fun n => by simp [hbeyond n]⟩
    · rw [explore_succ table cap known hne]
      have hrest := ih h.next
      refine ⟨fun d level' hd => ?_, ?_, fun hlt n => ?_, fun n => ?_⟩
      · cases d with
        | zero =>
          cases hd
          exact ⟨hne, h.mem_level⟩
        | succ d =>
          rw [← Nat.add_assoc, Nat.add_right_comm]
          exact hrest.level d level' hd
      · exact Nat.succ_le_succ hrest.length_le
      · rw [List.length_cons, ← Nat.add_assoc, Nat.add_right_comm]
        exact hrest.ended (Nat.lt_of_succ_lt_succ hlt) n
      · rw [hrest.leftOver, Nat.add_right_comm, Nat.add_assoc]

section Layered

variable {levels : List (List String)} {leftOver : List String}

/-- There are as many levels as there are distances below the cap. -/
theorem Layered.lt_length_iff (h : Layered table m i cap levels leftOver) :
    d < levels.length ↔ d < cap ∧ ∃ n, HasDistance table m n (i + d) := by
  constructor
  · intro hd
    obtain ⟨hne, hmem⟩ := h.level d _ (List.getElem?_eq_getElem hd)
    obtain ⟨n, hn⟩ := List.exists_mem_of_ne_nil _ hne
    exact ⟨Nat.lt_of_lt_of_le hd h.length_le, n, (hmem n).1 hn⟩
  · rintro ⟨hd, n, hn⟩
    by_contra hge
    obtain ⟨k, hk⟩ := hn.exists_of_le (Nat.add_le_add_left (Nat.not_lt.1 hge) i)
    exact h.ended (by omega) k hk

theorem Layered.mem_names_iff (h : Layered table m i cap levels leftOver) :
    n ∈ levels.flatten ↔ ∃ d < cap, HasDistance table m n (i + d) := by
  rw [List.mem_flatten]
  constructor
  · rintro ⟨level, hlevel, hn⟩
    obtain ⟨d, hd⟩ := List.mem_iff_getElem?.1 hlevel
    have hlt : d < levels.length := (List.getElem?_eq_some_iff.1 hd).1
    exact ⟨d, Nat.lt_of_lt_of_le hlt h.length_le, ((h.level d level hd).2 n).1 hn⟩
  · rintro ⟨d, hd, hn⟩
    have hlevel := List.getElem?_eq_getElem (h.lt_length_iff.2 ⟨hd, n, hn⟩)
    exact ⟨_, List.mem_of_getElem? hlevel, ((h.level d _ hlevel).2 n).2 hn⟩

end Layered

/-- An exploration that settles under one cap does the same under every larger one. -/
theorem explore_of_settled {known level : List String} {cap' : Nat} (hle : cap ≤ cap')
    (h : (explore table cap known level).2 = []) :
    explore table cap' known level = explore table cap known level := by
  induction cap generalizing cap' known level with
  | zero =>
    rw [explore_zero] at h
    subst h
    rw [explore_nil, explore_zero]
  | succ cap ih =>
    by_cases hne : level = []
    · subst hne
      rw [explore_nil, explore_nil]
    · obtain ⟨cap', rfl⟩ := Nat.exists_eq_add_of_le' (Nat.one_le_of_lt hle)
      rw [explore_succ table cap known hne] at h ⊢
      rw [explore_succ table cap' known hne, ih (Nat.le_of_succ_le_succ hle) h]

/-! ## Resolving a model -/

theorem layered_ofModel (table : SymbolTable) (cap : Nat) (m : ApiModel) :
    Layered table m 0 cap (ofModel table cap m).levels (ofModel table cap m).leftOver :=
  (atLevel_zero table m).explore cap

theorem mem_names_iff_hasDistance :
    n ∈ (ofModel table cap m).names ↔ ∃ d < cap, HasDistance table m n d := by
  have hmem := (layered_ofModel table cap m).mem_names_iff (n := n)
  simp only [Nat.zero_add] at hmem
  exact hmem

/-- Resolution settles exactly if no needed name is as far away as the cap. -/
theorem isSettled_iff : (ofModel table cap m).isSettled = true ↔
    ∀ n d, HasDistance table m n d → d < cap := by
  have hleft : ∀ n, n ∈ (ofModel table cap m).leftOver ↔ HasDistance table m n cap := by
    simpa only [Nat.zero_add] using (layered_ofModel table cap m).leftOver
  unfold isSettled
  rw [List.isEmpty_iff, List.eq_nil_iff_forall_not_mem]
  simp only [hleft]
  constructor
  · intro h n d hd
    by_contra hge
    obtain ⟨k, hk⟩ := hd.exists_of_le (Nat.not_lt.1 hge)
    exact h k hk
  · exact fun h n hn => Nat.lt_irrefl cap (h n cap hn)

theorem resolve_eq_error_iff {e : Failure} : (m.resolve table cap).2.result = .error e ↔
    e = .unsettled m.name cap ∧ (ofModel table cap m).isSettled = false := by
  show (if (ofModel table cap m).isSettled then Except.ok (ofModel table cap m)
    else Except.error (Failure.unsettled m.name cap)) = Except.error e ↔ _
  split
  · rename_i hs
    simp [hs]
  · rename_i hs
    simp [hs, eq_comm]

/-- Two caps that settle a model find the same levels. -/
theorem ofModel_of_settled {cap' : Nat} (h : (ofModel table cap m).isSettled = true)
    (h' : (ofModel table cap' m).isSettled = true) :
    ofModel table cap' m = ofModel table cap m := by
  have hsame : ∀ {a b : Nat}, a ≤ b → (ofModel table a m).isSettled = true →
      ofModel table b m = ofModel table a m := by
    intro a b hab ha
    have hexplore := explore_of_settled hab (List.isEmpty_iff.1 ha)
    unfold ofModel
    dsimp only
    rw [hexplore]
  rcases Nat.le_total cap cap' with hle | hle
  · exact hsame hle h
  · exact (hsame hle h').symm

/-- A settled resolution has one pass for each distance. -/
theorem lt_passes_iff (h : (ofModel table cap m).isSettled = true) :
    d < (ofModel table cap m).passes ↔ ∃ n, HasDistance table m n d := by
  have hlt := (layered_ofModel table cap m).lt_length_iff (d := d)
  rw [Nat.zero_add] at hlt
  refine hlt.trans ⟨fun hd => hd.2, ?_⟩
  rintro ⟨n, hn⟩
  exact ⟨isSettled_iff.1 h n d hn, n, hn⟩

/-- A settled resolution takes no pass if there is no seed. -/
theorem passes_eq_zero (h : (ofModel table cap m).isSettled = true) (hnone : ∀ n, ¬ IsSeed m n) :
    (ofModel table cap m).passes = 0 := by
  by_contra hpos
  obtain ⟨n, hn⟩ := (lt_passes_iff h).1 (Nat.pos_of_ne_zero hpos)
  exact hnone n (hasDistance_zero_iff.1 hn)

/-- A settled resolution takes one more pass than the largest distance if there is a seed. -/
theorem passes_eq_one_add (h : (ofModel table cap m).isSettled = true) (hn : IsSeed m n) :
    ∃ d, (ofModel table cap m).passes = 1 + d ∧ (∃ n, HasDistance table m n d) ∧
      ∀ n d', HasDistance table m n d' → d' ≤ d := by
  have hpos : 0 < (ofModel table cap m).passes :=
    (lt_passes_iff h).2 ⟨n, hasDistance_zero_iff.2 hn⟩
  refine ⟨(ofModel table cap m).passes - 1, by omega, (lt_passes_iff h).1 (by omega),
    fun n d' hd' => ?_⟩
  have hlt := (lt_passes_iff h).2 ⟨n, hd'⟩
  omega

/-- Whether a resolution settles or not, the names below the cap get a schema. -/
theorem mem_keys_resolve_iff_hasDistance :
    n ∈ (m.resolve table cap).1.document.components.schemas.keys ↔
      n ∈ m.document.components.schemas.keys ∨ ∃ d < cap, HasDistance table m n d := by
  rw [mem_keys_resolve_iff, mem_names_iff_hasDistance]

/-- The passes of a resolution are the levels of names by their distance from what the document
mentions. It fails exactly if a needed name is as far away as the cap; otherwise it takes no pass if
there is no seed, and one more than the largest distance if there is one. A failure leaves the
schemas of the names below the cap and changes nothing else, and caps that suffice make no
difference. -/
theorem resolve_levels (table : SymbolTable) (cap : Nat) (m : ApiModel) :
    let after := (m.resolve table cap).1
    let outcome := (m.resolve table cap).2.result
    let old := m.document.components.schemas
    let new := after.document.components.schemas
    (∀ n, Needs table m n ↔ ∃ d, HasDistance table m n d) ∧
    (∀ e, outcome = .error e ↔
      e = .unsettled m.name cap ∧ ∃ n d, HasDistance table m n d ∧ cap ≤ d) ∧
    (∀ r, outcome = .ok r →
      (∀ d level, r.levels[d]? = some level → ∀ n, n ∈ level ↔ HasDistance table m n d) ∧
      ((∀ n, ¬ IsSeed m n) → r.passes = 0) ∧
      ((∃ n, IsSeed m n) → ∃ d, r.passes = 1 + d ∧ (∃ n, HasDistance table m n d) ∧
        ∀ n d', HasDistance table m n d' → d' ≤ d)) ∧
    (∀ e, outcome = .error e →
      after = { m with document := { m.document with components :=
        { m.document.components with schemas := new } } } ∧
      (∀ n, n ∈ new.keys ↔ n ∈ old.keys ∨ ∃ d < cap, HasDistance table m n d) ∧
      (∀ n ∈ old.keys, new.get? n = old.get? n) ∧
      ∀ n d, HasDistance table m n d → d < cap → new.get? n = some (match table.get? n with
        | some s => s.schema
        | none => .ofType "string")) ∧
    (∀ cap' r r', outcome = .ok r → (m.resolve table cap').2.result = .ok r' →
      r' = r ∧ (m.resolve table cap').1 = after) := by
  intro after outcome old new
  refine ⟨fun n => needs_iff_hasDistance, fun e => ?_, fun r hr => ?_, fun e _ => ?_,
    fun cap' r r' hr hr' => ?_⟩
  · rw [resolve_eq_error_iff, ← Bool.not_eq_true, isSettled_iff]
    push Not
    rfl
  · obtain ⟨rfl, hs⟩ := resolve_eq_ok_iff.1 hr
    refine ⟨fun d level hd => ?_, passes_eq_zero hs, fun ⟨n, hn⟩ => passes_eq_one_add hs hn⟩
    simpa only [Nat.zero_add] using ((layered_ofModel table cap m).level d level hd).2
  · exact ⟨rfl, fun n => mem_keys_resolve_iff_hasDistance, fun n hn => get?_resolve_of_mem_keys hn,
      fun n d hn hd => get?_resolve_of_mem_names (mem_names_iff_hasDistance.2 ⟨d, hd, hn⟩)⟩
  · obtain ⟨rfl, hs⟩ := resolve_eq_ok_iff.1 hr
    obtain ⟨rfl, hs'⟩ := resolve_eq_ok_iff.1 hr'
    have hsame := ofModel_of_settled hs hs'
    refine ⟨hsame, ?_⟩
    show (ofModel table cap' m).complete table m = (ofModel table cap m).complete table m
    rw [hsame]

/-- With a cap of one level only the name that the document mentions gets a schema. -/
example :
    let table : SymbolTable :=
      .ofList [("Order", .record [("items", .list (.named "Item"))]),
        ("Item", .synonym (.named "Order"))]
    let m : ApiModel := { name := "shop", referenced := ["Order"] }
    (m.resolve table 1).2.result = .error (.unsettled "shop" 1) ∧
      (m.resolve table 1).1.document.components.schemas.keys = ["Order"] :=
  ⟨rfl, rfl⟩

end ApiNotes.Resolution
