/-
The levels of an exploration. A name leads to the names that its declaration mentions, unless one
of the two has a schema already. Every name of a level is reached from the first level in this way,
no name stands in two levels, and if nothing is left over then the levels are closed: what a name
of them leads to is known or in a level itself.

Each law is an induction on the cap. What carries it is that the known names are those with a
schema, those of the levels before, and those of the level itself.
-/
import ApiNotes.Resolution
import ApiNotes.Proofs.Document.Occurrences
import ApiNotes.Proofs.OrderedMap
import Mathlib.Logic.Relation

namespace ApiNotes

/-- A type that a declaration is made of: of a field, of the target, of the keys or values. -/
inductive Symbol.HasPart : Symbol → TypeRef → Prop
  | field {fields : List (String × TypeRef)} {name : String} {t : TypeRef} :
      (name, t) ∈ fields → HasPart (.record fields) t
  | target {t : TypeRef} : HasPart (.synonym t) t
  | key {key value : TypeRef} : HasPart (.dictionary key value) key
  | value {key value : TypeRef} : HasPart (.dictionary key value) value

theorem Symbol.mem_parts_iff {s : Symbol} {t : TypeRef} : t ∈ s.parts ↔ s.HasPart t := by
  constructor
  · intro h
    cases s with
    | record fields =>
      obtain ⟨⟨name, t'⟩, hm, rfl⟩ := List.mem_map.1 h
      exact .field hm
    | synonym target => cases List.mem_singleton.1 h; exact .target
    | dictionary key value =>
      rcases List.mem_cons.1 h with rfl | h
      · exact .key
      · cases List.mem_singleton.1 h; exact .value
    | enumeration variants => cases h
  · rintro (hm | _ | _ | _)
    · exact List.mem_map.2 ⟨_, hm, rfl⟩
    all_goals simp [parts]

namespace Resolution

/-- A name leads to another one: neither has a schema, and a type that the declaration of the first
is made of mentions the second. -/
structure Leads (table : SymbolTable) (schemas : OrderedMap Schema) (n k : String) : Prop where
  source : schemas.contains n = false
  mentioned : ∃ s, table.get? n = some s ∧ ∃ t, s.HasPart t ∧ t.referencedName = some k
  target : schemas.contains k = false

theorem mem_successors_iff {table : SymbolTable} {n k : String} :
    k ∈ successors table n ↔
      ∃ s, table.get? n = some s ∧ ∃ t, s.HasPart t ∧ t.referencedName = some k := by
  unfold successors
  cases table.get? n with
  | none => simp
  | some s =>
    simp only [Symbol.mentions, List.mem_filterMap, Symbol.mem_parts_iff, Option.some.injEq,
      exists_eq_left']

/-! ## New names -/

theorem mem_newNames {known names : List String} {n : String} :
    n ∈ newNames known names ↔ n ∈ names ∧ n ∉ known := by
  simp [newNames]

theorem nodup_newNames (known names : List String) : (newNames known names).Nodup :=
  (nodup_firstOccurrences names).filter _

/-! ## Exploring -/

section Explore

variable (table : SymbolTable)

/-- The names of the next level. -/
def nextLevel (known level : List String) : List String :=
  newNames known (level.flatMap (successors table))

variable {table} in
theorem mem_nextLevel {known level : List String} {k : String} :
    k ∈ nextLevel table known level ↔ (∃ n ∈ level, k ∈ successors table n) ∧ k ∉ known := by
  rw [nextLevel, mem_newNames, List.mem_flatMap]

@[simp]
theorem explore_zero (known level : List String) :
    explore table 0 known level = ([], level) :=
  rfl

@[simp]
theorem explore_nil (cap : Nat) (known : List String) :
    explore table cap known [] = ([], []) := by
  cases cap <;> rfl

theorem explore_succ (cap : Nat) (known : List String) {level : List String} (h : level ≠ []) :
    explore table (cap + 1) known level =
      (level :: (explore table cap (known ++ nextLevel table known level)
          (nextLevel table known level)).1,
        (explore table cap (known ++ nextLevel table known level)
          (nextLevel table known level)).2) := by
  rw [explore, if_neg (by simpa using h)]
  rfl

/-- Every name of a level is reached from the first level. -/
theorem explore_reached (schemas : OrderedMap Schema) (cap : Nat) (known level : List String)
    (hk : ∀ n, schemas.contains n = true → n ∈ known)
    (hl : ∀ n ∈ level, schemas.contains n = false) :
    ∀ n ∈ (explore table cap known level).1.flatten,
      ∃ s ∈ level, Relation.ReflTransGen (Leads table schemas) s n := by
  induction cap generalizing known level with
  | zero => simp
  | succ cap ih =>
    by_cases hne : level = []
    · subst hne; simp
    · rw [explore_succ table cap known hne]
      have hnext : ∀ k ∈ nextLevel table known level, schemas.contains k = false := by
        intro k hm
        exact Bool.eq_false_iff.2 fun hc => (mem_nextLevel.1 hm).2 (hk k hc)
      intro n hn
      rcases List.mem_append.1 hn with hn | hn
      · exact ⟨n, hn, .refl⟩
      · obtain ⟨k, hkn, hpath⟩ := ih _ _ (fun n h => List.mem_append_left _ (hk n h)) hnext n hn
        obtain ⟨⟨s, hs, hsk⟩, -⟩ := mem_nextLevel.1 hkn
        exact ⟨s, hs, .head ⟨hl s hs, mem_successors_iff.1 hsk, hnext k hkn⟩ hpath⟩

/-- The levels have each name once, and beyond the first level only names that were not known. -/
theorem explore_nodup (cap : Nat) (known level : List String) (hn : level.Nodup)
    (hk : level ⊆ known) :
    (explore table cap known level).1.flatten.Nodup ∧
      ∀ n ∈ (explore table cap known level).1.flatten, n ∈ level ∨ n ∉ known := by
  induction cap generalizing known level with
  | zero => simp
  | succ cap ih =>
    by_cases hne : level = []
    · subst hne; simp
    · rw [explore_succ table cap known hne]
      obtain ⟨hnodup, hnew⟩ := ih (known ++ nextLevel table known level)
        (nextLevel table known level) (nodup_newNames _ _) (List.subset_append_right _ _)
      have hout : ∀ n ∈ (explore table cap (known ++ nextLevel table known level)
          (nextLevel table known level)).1.flatten, n ∉ known := by
        intro n hm
        rcases hnew n hm with h | h
        · exact (mem_nextLevel.1 h).2
        · exact fun hkn => h (List.mem_append_left _ hkn)
      constructor
      · exact List.nodup_append.2 ⟨hn, hnodup, fun a ha b hb hab => hout b hb (hab ▸ hk ha)⟩
      · intro n hm
        exact (List.mem_append.1 hm).imp id (hout n)

/-- If nothing is left over, the levels hold the first one and all that their names lead to. -/
theorem explore_closed (cap : Nat) (known level : List String)
    (h : (explore table cap known level).2 = []) :
    level ⊆ (explore table cap known level).1.flatten ∧
      ∀ n ∈ (explore table cap known level).1.flatten, ∀ k ∈ successors table n,
        k ∈ known ∨ k ∈ (explore table cap known level).1.flatten := by
  induction cap generalizing known level with
  | zero =>
    rw [explore_zero] at h
    subst h
    simp
  | succ cap ih =>
    by_cases hne : level = []
    · subst hne; simp
    · rw [explore_succ table cap known hne] at h ⊢
      obtain ⟨hnext, hclosed⟩ := ih _ _ h
      refine ⟨List.subset_append_left _ _, fun n hn k hk => ?_⟩
      rcases List.mem_append.1 hn with hn | hn
      · by_cases hkn : k ∈ known
        · exact .inl hkn
        · exact .inr (List.mem_append_right _ (hnext (mem_nextLevel.2 ⟨⟨n, hn, hk⟩, hkn⟩)))
      · rcases hclosed n hn k hk with hk' | hk'
        · -- known only since this level, so in the next one
          rcases List.mem_append.1 hk' with hk' | hk'
          · exact .inl hk'
          · exact .inr (List.mem_append_right _ (hnext hk'))
        · exact .inr (List.mem_append_right _ hk')

end Explore

end Resolution

end ApiNotes
