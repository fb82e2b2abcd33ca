/-
Laws of ordered maps: looking up after an insertion, entries as look-ups, keys, values and sizes,
and what holds of all values of a map. Only the laws of ascending lists speak of the order of the
entries: an ascending list is the list of the entries of its map. Otherwise a map stands for its
look-ups.
-/
import Mathlib.Algebra.GroupWithZero.Nat
import ApiNotes.OrderedMap

namespace ApiNotes.OrderedMap

variable {α β : Type}

/-! ## Look-ups in entry lists -/

theorem lookup_cons_eq_ite (k k' : String) (v : α) (l : List (String × α)) :
    ((k', v) :: l).lookup k = if k = k' then some v else l.lookup k := by
  rw [List.lookup_cons]
  by_cases hk : k = k'
  · subst hk; simp
  · rw [if_neg hk, beq_false_of_ne hk]

theorem lookup_insertEntry (key k : String) (value : α) (l : List (String × α)) :
    (insertEntry key value l).lookup k = if k = key then some value else l.lookup k := by
  induction l with
  | nil => rw [insertEntry, lookup_cons_eq_ite]
  | cons x rest ih =>
    obtain ⟨k', v⟩ := x
    rw [insertEntry]
    split
    · rw [lookup_cons_eq_ite]
    · split
      · rename_i heq
        subst heq
        by_cases hk : k = key <;> simp only [lookup_cons_eq_ite, hk, if_true, if_false]
      · rename_i hne
        rw [lookup_cons_eq_ite, lookup_cons_eq_ite, ih]
        by_cases hk : k = k'
        · subst hk; simp only [if_true, if_neg (Ne.symm hne)]
        · simp only [if_neg hk]

/-- In an ascending list the look-up of a key finds its only entry. -/
theorem lookup_eq_some_iff {l : List (String × α)} (h : l.Pairwise (fun a b => a.1 < b.1))
    (k : String) (v : α) : l.lookup k = some v ↔ (k, v) ∈ l := by
  induction l with
  | nil => simp
  | cons x rest ih =>
    obtain ⟨k', v'⟩ := x
    obtain ⟨hk, hrest⟩ := List.pairwise_cons.1 h
    rw [lookup_cons_eq_ite, List.mem_cons]
    by_cases heq : k = k'
    · subst heq
      -- a second entry of the key would have to lie above itself
      have hno : (k, v) ∉ rest := fun hm => String.lt_irrefl k (hk (k, v) hm)
      simp [hno, eq_comm]
    · rw [if_neg heq, ih hrest]
      simp [heq]

/-! ## Look-ups -/

@[simp]
theorem get?_empty (k : String) : (empty : OrderedMap α).get? k = none :=
  rfl

theorem get?_insert (m : OrderedMap α) (key k : String) (value : α) :
    (m.insert key value).get? k = if k = key then some value else m.get? k :=
  lookup_insertEntry key k value m.entries

@[simp]
theorem mem_entries_iff (m : OrderedMap α) (k : String) (v : α) :
    (k, v) ∈ m.entries ↔ m.get? k = some v :=
  (lookup_eq_some_iff m.ordered k v).symm

theorem contains_iff (m : OrderedMap α) (k : String) :
    m.contains k = true ↔ ∃ v, m.get? k = some v :=
  Option.isSome_iff_exists

theorem contains_insert (m : OrderedMap α) (key k : String) (value : α) :
    (m.insert key value).contains k = true ↔ k = key ∨ m.contains k = true := by
  rw [contains_iff, contains_iff, get?_insert]
  by_cases hk : k = key <;> simp [hk]

theorem mem_keys_iff (m : OrderedMap α) (k : String) : k ∈ m.keys ↔ m.contains k = true := by
  simp [keys, contains_iff]

theorem mem_values_iff (m : OrderedMap α) (v : α) : v ∈ m.values ↔ ∃ k, m.get? k = some v := by
  simp [values]

@[simp]
theorem get?_map (f : String → α → β) (m : OrderedMap α) (k : String) :
    (m.map f).get? k = (m.get? k).map (f k) := by
  show (m.entries.map (fun e => (e.1, f e.1 e.2))).lookup k = (m.entries.lookup k).map (f k)
  generalize m.entries = l
  induction l with
  | nil => rfl
  | cons x rest ih =>
    obtain ⟨k', v⟩ := x
    rw [List.map_cons, lookup_cons_eq_ite, lookup_cons_eq_ite, ih]
    by_cases hk : k = k'
    · subst hk; simp
    · simp only [if_neg hk]

theorem mem_values_map (f : String → α → β) (m : OrderedMap α) (b : β) :
    b ∈ (m.map f).values ↔ ∃ k a, m.get? k = some a ∧ f k a = b := by
  simp [mem_values_iff]

/-! ## Ascending lists -/

theorem nodup_keys {l : List (String × α)} (h : l.Pairwise (fun a b => a.1 < b.1)) :
    (l.map Prod.fst).Nodup := by
  refine List.pairwise_map.2 (h.imp fun {a b} hlt heq => ?_)
  rw [heq] at hlt
  exact String.lt_irrefl b.1 hlt

theorem insertEntry_of_forall_lt {key : String} (value : α) {l : List (String × α)}
    (h : ∀ e ∈ l, e.1 < key) : insertEntry key value l = l ++ [(key, value)] := by
  induction l with
  | nil => rfl
  | cons x rest ih =>
    obtain ⟨k, v⟩ := x
    obtain ⟨hk, hrest⟩ := List.forall_mem_cons.1 h
    have hne : key ≠ k := fun heq => String.lt_irrefl k (heq ▸ hk)
    rw [insertEntry, if_neg (String.lt_asymm hk), if_neg hne, ih hrest, List.cons_append]

/-- An ascending list is the list of the entries of its map. -/
theorem entries_ofList {l : List (String × α)} (h : l.Pairwise (fun a b => a.1 < b.1)) :
    (ofList l).entries = l := by
  suffices ∀ m : OrderedMap α, (m.entries ++ l).Pairwise (fun a b => a.1 < b.1) →
      (l.foldl (fun m e => m.insert e.1 e.2) m).entries = m.entries ++ l from this empty h
  induction l with
  | nil => intro m _; simp
  | cons e rest ih =>
    intro m hm
    have hlast : (m.insert e.1 e.2).entries = m.entries ++ [e] :=
      insertEntry_of_forall_lt e.2 fun x hx => (List.pairwise_append.1 hm).2.2 x hx e (by simp)
    rw [List.append_cons, ← hlast] at hm
    rw [List.foldl_cons, ih h.of_cons _ hm, hlast, List.append_assoc, List.singleton_append]

theorem ofList_entries (m : OrderedMap α) : ofList m.entries = m := by
  have h := entries_ofList m.ordered
  cases hm : ofList m.entries with
  | mk entries ordered =>
    rw [hm] at h
    cases m
    cases h
    rfl

theorem nodup_entries (m : OrderedMap α) : m.entries.Nodup := by
  refine m.ordered.imp fun {a b} hlt heq => ?_
  rw [heq] at hlt
  exact String.lt_irrefl b.1 hlt

/-- Maps with the same look-ups are equal. -/
theorem ext_get? {m m' : OrderedMap α} (h : ∀ k, m.get? k = m'.get? k) : m = m' := by
  have hperm : m.entries.Perm m'.entries :=
    (List.perm_ext_iff_of_nodup (nodup_entries m) (nodup_entries m')).2 fun ⟨k, v⟩ => by
      rw [mem_entries_iff, mem_entries_iff, h]
  have hentries : m.entries = m'.entries :=
    hperm.eq_of_pairwise (fun a b _ _ hab hba => absurd hba (String.lt_asymm hab))
      m.ordered m'.ordered
  cases m
  cases m'
  cases hentries
  rfl

/-- Of the values that are put at a key the last one counts. -/
theorem get?_foldl_insert (m : OrderedMap α) (l : List (String × α)) (k : String) :
    (l.foldl (fun m e => m.insert e.1 e.2) m).get? k =
      ((l.filter (·.1 = k)).getLast?.map Prod.snd).or (m.get? k) := by
  induction l generalizing m with
  | nil => rfl
  | cons e rest ih =>
    rw [List.foldl_cons, ih, get?_insert, List.filter_cons]
    by_cases he : e.1 = k
    · subst he
      simp only [decide_true, if_true, List.getLast?_cons, Option.map_some]
      cases (rest.filter (·.1 = e.1)).getLast? <;> rfl
    · simp [he, Ne.symm he]

theorem get?_ofList (l : List (String × α)) (k : String) :
    (ofList l).get? k = (l.filter (·.1 = k)).getLast?.map Prod.snd := by
  rw [ofList, get?_foldl_insert, get?_empty, Option.or_none]

theorem contains_ofList (l : List (String × α)) (k : String) :
    (ofList l).contains k = true ↔ ∃ e ∈ l, e.1 = k := by
  rw [contains_iff, get?_ofList]
  constructor
  · rintro ⟨v, hv⟩
    obtain ⟨e, he, -⟩ := Option.map_eq_some_iff.1 hv
    have hmem := List.mem_filter.1 (List.mem_of_getLast? he)
    exact ⟨e, hmem.1, by simpa using hmem.2⟩
  · rintro ⟨e, he, hk⟩
    have hmem : e ∈ l.filter (·.1 = k) := List.mem_filter.2 ⟨he, by simpa using hk⟩
    exact ⟨_, by rw [List.getLast?_eq_some_getLast (List.ne_nil_of_mem hmem)]; rfl⟩

/-- Replacing values twice is replacing them once, if it is so for each value. -/
theorem map_map_self {f : String → α → α} (h : ∀ k v, f k (f k v) = f k v) (m : OrderedMap α) :
    (m.map f).map f = m.map f :=
  ext_get? fun k => by
    rw [get?_map, get?_map, Option.map_map]
    exact congrArg (Option.map · _) (funext (h k))

/-! ## Sizes -/

theorem eq_empty_of_isEmpty {m : OrderedMap α} (h : m.isEmpty = true) : m = empty := by
  obtain ⟨entries, ordered⟩ := m
  cases List.isEmpty_iff.1 h
  rfl

/-- Summing over all values, a new value takes the place of the one that was there before. -/
theorem sum_values_insert (f : α → Nat) (m : OrderedMap α) (key : String) (value : α) :
    ((m.insert key value).values.map f).sum + ((m.get? key).map f).getD 0 =
      (m.values.map f).sum + f value := by
  obtain ⟨entries, ordered⟩ := m
  show (((insertEntry key value entries).map Prod.snd).map f).sum +
    ((entries.lookup key).map f).getD 0 = ((entries.map Prod.snd).map f).sum + f value
  induction entries with
  | nil => simp [insertEntry]
  | cons e rest ih =>
    obtain ⟨k, v⟩ := e
    obtain ⟨hk, hrest⟩ := List.pairwise_cons.1 ordered
    rw [insertEntry, lookup_cons_eq_ite]
    split
    · rename_i hlt
      -- a key before the first one is not among the others either
      have hnone : rest.lookup key = none := by
        refine Option.eq_none_iff_forall_not_mem.2 fun x hx => ?_
        have hmem := (lookup_eq_some_iff hrest key x).1 hx
        exact String.lt_asymm hlt (hk _ hmem)
      have hne : key ≠ k := fun heq => String.lt_irrefl k (heq ▸ hlt)
      rw [if_neg hne, hnone]
      simp only [List.map_cons, List.sum_cons, Option.map_none, Option.getD_none]
      omega
    · split
      · simp only [List.map_cons, List.sum_cons, Option.map_some, Option.getD_some]
        omega
      · have hsum := ih hrest
        simp only [List.map_cons, List.sum_cons]
        omega

/-- Each key counts once. -/
theorem size_insert (m : OrderedMap α) (key : String) (value : α) :
    (m.insert key value).size + (if m.contains key then 1 else 0) = m.size + 1 := by
  have hsum := sum_values_insert (fun _ => 1) m key value
  simp only [List.map_const', List.sum_replicate_nat, Nat.mul_one, values, List.length_map] at hsum
  unfold contains
  cases hk : m.get? key <;> simpa [size, hk] using hsum

/-- A new key makes the map larger by one. -/
theorem size_insert_of_not_contains {m : OrderedMap α} {key : String} (value : α)
    (h : m.contains key = false) : (m.insert key value).size = m.size + 1 :=
  by simpa [h] using size_insert m key value

/-- A map of two entries has two keys, unless both are the same. -/
theorem size_ofList_pair (a b : String × α) :
    (ofList [a, b]).size = if a.1 = b.1 then 1 else 2 := by
  have hpair : ofList [a, b] = (ofList [a]).insert b.1 b.2 := rfl
  have hfirst : (ofList [a]).size = 1 := rfl
  have hcontains : (ofList [a]).contains b.1 = true ↔ a.1 = b.1 := by simp [contains_ofList]
  have hsize := size_insert (ofList [a]) b.1 b.2
  rw [hpair]
  by_cases h : a.1 = b.1
  · rw [if_pos (hcontains.2 h), hfirst] at hsize
    rw [if_pos h]
    omega
  · rw [if_neg (mt hcontains.1 h), hfirst] at hsize
    rw [if_neg h]
    omega

/-! ## Properties of all values -/

/-- What holds of the new value and of all others holds of all values after an insertion. -/
theorem forall_values_insert {P : α → Prop} {m : OrderedMap α} {key : String} {value : α}
    (hv : P value) (h : ∀ v ∈ m.values, P v) : ∀ v ∈ (m.insert key value).values, P v := by
  intro v hm
  obtain ⟨k, hk⟩ := (mem_values_iff _ _).1 hm
  rw [get?_insert] at hk
  split at hk
  · cases hk; exact hv
  · exact h v ((mem_values_iff _ _).2 ⟨k, hk⟩)

@[simp]
theorem values_empty : (empty : OrderedMap α).values = [] :=
  rfl

@[simp]
theorem values_singleton (key : String) (value : α) :
    (singleton key value).values = [value] :=
  rfl

/-- What holds of all listed values holds of all values of the map of the list. -/
theorem forall_values_ofList {P : α → Prop} {l : List (String × α)} (h : ∀ e ∈ l, P e.2) :
    ∀ v ∈ (ofList l).values, P v := by
  suffices ∀ (m : OrderedMap α), (∀ v ∈ m.values, P v) →
      ∀ v ∈ (l.foldl (fun m e => m.insert e.1 e.2) m).values, P v from this empty (by simp)
  induction l with
  | nil => exact fun m hm => hm
  | cons e rest ih =>
    intro m hm
    exact ih (fun e' he' => h e' (List.mem_cons_of_mem _ he')) _
      (forall_values_insert (h e (List.mem_cons_self ..)) hm)

end ApiNotes.OrderedMap
