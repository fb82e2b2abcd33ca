/-
Pieces of a text. A text that is cut at a separator is one piece without it, or such a piece, the
separator and a text that is cut in turn. So the piece with a given number is what stands between
two separators, or between one and an end of the text, with that many separators before it.
-/
import Mathlib.Data.List.Basic

namespace ApiNotes.Text

/-- A text holds no separator, or a piece without one stands before a separator and a text. -/
theorem pieces_induction (sep : Char) {motive : List Char → Prop}
    (last : ∀ piece, sep ∉ piece → motive piece)
    (more : ∀ piece rest, sep ∉ piece → motive rest → motive (piece ++ sep :: rest)) :
    ∀ text, motive text := by
  intro text
  induction hn : text.length using Nat.strongRecOn generalizing text with
  | ind n ih =>
    subst hn
    by_cases hmem : sep ∈ text
    · obtain ⟨piece, rest, rfl, hpiece⟩ := List.eq_append_cons_of_mem hmem
      exact more piece rest hpiece (ih rest.length (by simp; omega) rest rfl)
    · exact last text hmem

variable {sep : Char} {piece text rest : List Char} {i : Nat}

/-- The first piece and what follows its separator are told by the text. -/
theorem append_cons_inj {piece' rest' : List Char} (h : sep ∉ piece) (h' : sep ∉ piece')
    (heq : piece ++ sep :: rest = piece' ++ sep :: rest') : piece = piece' ∧ rest = rest' := by
  have hsplit := congrArg (List.splitOn sep) heq
  rw [List.splitOn_append_cons_self_of_not_mem h, List.splitOn_append_cons_self_of_not_mem h']
    at hsplit
  obtain ⟨rfl, -⟩ := List.cons.inj hsplit
  exact ⟨rfl, (List.cons.inj (List.append_cancel_left heq)).2⟩

/-- The text between two separators, with `i` separators before it. The ends of the text count as
separators here. -/
def IsPiece (sep : Char) (text : List Char) (i : Nat) (piece : List Char) : Prop :=
  ∃ before after, text = before ++ piece ++ after ∧ sep ∉ piece ∧
    (before = [] ∨ before.getLast? = some sep) ∧ (after = [] ∨ after.head? = some sep) ∧
    i = before.count sep

/-- What ends with a separator and what is empty is told by the number of separators. -/
theorem eq_nil_of_count_eq_zero {before : List Char} (h : before.count sep = 0)
    (hlast : before = [] ∨ before.getLast? = some sep) : before = [] :=
  hlast.resolve_right fun hsep => List.count_eq_zero.1 h (List.mem_of_getLast? hsep)

theorem isPiece_of_not_mem (h : sep ∉ text) : IsPiece sep text i piece ↔ i = 0 ∧ piece = text := by
  constructor
  · rintro ⟨before, after, rfl, -, hbefore, hafter, rfl⟩
    simp only [List.mem_append, not_or] at h
    have hcount : before.count sep = 0 := List.count_eq_zero.2 h.1.1
    have hnil : after = [] := hafter.resolve_right fun hsep => h.2 (List.mem_of_head? hsep)
    simp [eq_nil_of_count_eq_zero hcount hbefore, hnil]
  · rintro ⟨rfl, rfl⟩
    exact ⟨[], [], by simp, h, .inl rfl, .inl rfl, rfl⟩

theorem isPiece_append_cons {first : List Char} (h : sep ∉ first) :
    IsPiece sep (first ++ sep :: rest) i piece ↔
      (i = 0 ∧ piece = first) ∨ ∃ j, i = j + 1 ∧ IsPiece sep rest j piece := by
  constructor
  · rintro ⟨before, after, heq, hpiece, hbefore, hafter, rfl⟩
    by_cases hmem : sep ∈ before
    · -- the piece stands behind the first separator
      obtain ⟨front, back, rfl, hfront⟩ := List.eq_append_cons_of_mem hmem
      obtain ⟨rfl, rfl⟩ := append_cons_inj h hfront (by simpa using heq)
      refine .inr ⟨back.count sep, by simp [List.count_eq_zero.2 h],
        back, after, by simp, hpiece, ?_, hafter, rfl⟩
      rcases List.eq_nil_or_concat back with rfl | ⟨back, c, rfl⟩
      · exact .inl rfl
      · exact .inr (by simpa [List.getLast?_cons] using hbefore)
    · have hcount : before.count sep = 0 := List.count_eq_zero.2 hmem
      obtain rfl := eq_nil_of_count_eq_zero hcount hbefore
      rcases hafter with rfl | hafter
      · have hwhole : first ++ sep :: rest = piece := by simpa using heq
        exact absurd (by simp [← hwhole]) hpiece
      · obtain ⟨after, rfl⟩ := List.head?_eq_some_iff.1 hafter
        exact .inl ⟨rfl, (append_cons_inj hpiece h heq.symm).1⟩
  · rintro (⟨rfl, rfl⟩ | ⟨j, rfl, before, after, rfl, hpiece, hbefore, hafter, rfl⟩)
    · exact ⟨[], sep :: rest, by simp, h, .inl rfl, .inr rfl, rfl⟩
    · refine ⟨first ++ sep :: before, after, by simp, hpiece, .inr ?_, hafter,
        by simp [List.count_eq_zero.2 h]⟩
      rcases hbefore with rfl | hbefore
      · simp
      · simp [List.getLast?_cons, hbefore]

/-- Cutting a text at a separator lists its pieces by their numbers. -/
theorem getElem?_splitOn_iff : (text.splitOn sep)[i]? = some piece ↔ IsPiece sep text i piece := by
  induction text using pieces_induction sep generalizing i with
  | last text h =>
    rw [List.splitOn_eq_singleton h, isPiece_of_not_mem h, List.getElem?_singleton]
    split <;> simp [*, eq_comm]
  | more first rest h ih =>
    rw [List.splitOn_append_cons_self_of_not_mem h, isPiece_append_cons h]
    cases i with
    | zero => simp [eq_comm]
    | succ j => simp [ih]

end ApiNotes.Text
