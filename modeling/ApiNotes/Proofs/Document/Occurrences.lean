/-
Laws of `firstOccurrences`: it keeps every element of a list, and each of them once.
-/
import ApiNotes.Document.Basic

namespace ApiNotes

@[simp]
theorem mem_firstOccurrences {name : String} {l : List String} :
    name ∈ firstOccurrences l ↔ name ∈ l := by
  induction l with
  | nil => rfl
  | cons x rest ih =>
    rw [firstOccurrences, List.mem_cons, List.mem_filter, ih, List.mem_cons]
    by_cases hx : name = x <;> simp [hx]

theorem nodup_firstOccurrences (l : List String) : (firstOccurrences l).Nodup := by
  induction l with
  | nil => exact List.nodup_nil
  | cons x rest ih =>
    rw [firstOccurrences, List.nodup_cons]
    exact ⟨by simp, ih.filter _⟩

theorem firstOccurrences_eq_nil_iff {l : List String} : firstOccurrences l = [] ↔ l = [] := by
  cases l <;> simp [firstOccurrences]

theorem firstOccurrences_of_nodup {l : List String} (h : l.Nodup) : firstOccurrences l = l := by
  induction l with
  | nil => rfl
  | cons x rest ih =>
    obtain ⟨hx, hrest⟩ := List.nodup_cons.1 h
    rw [firstOccurrences, ih hrest, List.filter_eq_self.2]
    intro name hname
    have hne : name ≠ x := fun heq => hx (heq ▸ hname)
    simpa using hne

/-- Of the second part of a list only the names count that are not in the first. -/
theorem firstOccurrences_append (l r : List String) :
    firstOccurrences (l ++ r) =
      firstOccurrences l ++ (firstOccurrences r).filter fun name => !l.contains name := by
  induction l with
  | nil => exact (List.filter_eq_self.2 fun _ _ => rfl).symm
  | cons x rest ih =>
    rw [List.cons_append, firstOccurrences, ih, List.filter_append, List.filter_filter,
      firstOccurrences, List.cons_append]
    congr 2
    refine List.filter_congr fun name _ => ?_
    by_cases hx : name = x <;> simp [hx]

/-- Listing in the middle of a list all its names, in their order, brings no name forward. -/
theorem firstOccurrences_insert (l r : List String) :
    firstOccurrences (l ++ firstOccurrences (l ++ r) ++ r) = firstOccurrences (l ++ r) := by
  have hlate : ((firstOccurrences r).filter fun name =>
      !(l ++ firstOccurrences (l ++ r)).contains name) = [] := by
    refine List.filter_eq_nil_iff.2 fun name hname => ?_
    simp [mem_firstOccurrences.1 hname]
  have hnew : ((firstOccurrences (l ++ r)).filter fun name => !l.contains name) =
      (firstOccurrences r).filter fun name => !l.contains name := by
    have hold : ((firstOccurrences l).filter fun name => !l.contains name) = [] :=
      List.filter_eq_nil_iff.2 fun name hname => by simp [mem_firstOccurrences.1 hname]
    rw [firstOccurrences_append, List.filter_append, hold, List.nil_append, List.filter_filter]
    simp only [Bool.and_self]
  calc firstOccurrences (l ++ firstOccurrences (l ++ r) ++ r)
      = firstOccurrences (l ++ firstOccurrences (l ++ r)) := by
        rw [firstOccurrences_append, hlate, List.append_nil]
    _ = firstOccurrences l ++ (firstOccurrences r).filter fun name => !l.contains name := by
        rw [firstOccurrences_append l, firstOccurrences_of_nodup (nodup_firstOccurrences _), hnew]
    _ = firstOccurrences (l ++ r) := (firstOccurrences_append l r).symm

/-- A name at the end of a list is kept only if it is new. -/
theorem firstOccurrences_append_singleton (l : List String) (name : String) :
    firstOccurrences (l ++ [name]) =
      if name ∈ l then firstOccurrences l else firstOccurrences l ++ [name] := by
  rw [firstOccurrences_append]
  by_cases hmem : name ∈ l <;> simp [firstOccurrences, hmem]

/-- A name that is not met before stands right after the first occurrences up to it. -/
theorem firstOccurrences_append_cons {l : List String} {name : String} (h : name ∉ l)
    (r : List String) :
    ∃ later, firstOccurrences (l ++ name :: r) = firstOccurrences l ++ name :: later := by
  rw [firstOccurrences_append, firstOccurrences, List.filter_cons_of_pos (by simpa using h)]
  exact ⟨_, rfl⟩

end ApiNotes
