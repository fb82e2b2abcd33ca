/-
Trimming. What is left of a text starts and ends with no blank, and a text of which this already
holds is left as it is.
-/
import ApiNotes.Text.Blank
import Mathlib.Data.List.DropRight

namespace ApiNotes.Text

/-- A text that does not start with a blank. -/
def StartsInked (text : List Char) : Prop :=
  ∀ c, text.head? = some c → isBlank c = false

/-- A text that does not end with a blank. -/
def EndsInked (text : List Char) : Prop :=
  ∀ c, text.getLast? = some c → isBlank c = false

theorem startsInked_cons {c : Char} {text : List Char} :
    StartsInked (c :: text) ↔ isBlank c = false := by
  simp [StartsInked]

theorem StartsInked.append {text tail : List Char} (h : StartsInked text)
    (htail : StartsInked tail) : StartsInked (text ++ tail) := by
  cases text with
  | nil => exact htail
  | cons c rest => exact startsInked_cons.2 (startsInked_cons.1 h)

theorem EndsInked.of_append (text : List Char) {tail : List Char}
    (h : EndsInked (text ++ tail)) : EndsInked tail := by
  intro c hc
  refine h c ?_
  rw [List.getLast?_append, hc, Option.some_or]

theorem EndsInked.append {tail : List Char} (h : EndsInked tail) (hne : tail ≠ [])
    (text : List Char) : EndsInked (text ++ tail) := by
  intro c hc
  rw [List.getLast?_append, List.getLast?_eq_some_getLast hne, Option.some_or] at hc
  exact h c (by rw [List.getLast?_eq_some_getLast hne, hc])

theorem not_endsInked_space (text : List Char) : ¬ EndsInked (text ++ [' ']) := by
  intro h
  have hspace : isBlank ' ' = false := h ' ' (by simp)
  exact absurd hspace (by decide)

/-! ## What trimming leaves -/

theorem trimEnd_eq_rdropWhile (text : List Char) : trimEnd text = text.rdropWhile isBlank :=
  rfl

theorem trimStart_eq_self {text : List Char} (h : StartsInked text) : trimStart text = text := by
  cases text with
  | nil => rfl
  | cons c rest =>
    have hc : isBlank c = false := startsInked_cons.1 h
    exact List.dropWhile_cons_of_neg (by simp [hc])

theorem trimEnd_eq_self {text : List Char} (h : EndsInked text) : trimEnd text = text := by
  rw [trimEnd_eq_rdropWhile, List.rdropWhile_eq_self_iff]
  intro hne
  have hlast : isBlank (text.getLast hne) = false := h _ (List.getLast?_eq_some_getLast hne)
  simp [hlast]

/-- A text without blanks at its ends has nothing to trim. -/
theorem trim_eq_self {text : List Char} (hstart : StartsInked text) (hend : EndsInked text) :
    trim text = text := by
  rw [trim, trimStart_eq_self hstart, trimEnd_eq_self hend]

theorem startsInked_trimStart (text : List Char) : StartsInked (trimStart text) := by
  intro c hc
  have h := List.head?_dropWhile_not isBlank text
  rw [show List.dropWhile isBlank text = trimStart text from rfl, hc] at h
  exact h

/-- Nothing is left of a text exactly if it has blanks only. -/
theorem trim_eq_nil_iff {text : List Char} : trim text = [] ↔ ∀ c ∈ text, isBlank c = true := by
  rw [trim, trimEnd_eq_rdropWhile, List.rdropWhile_eq_nil_iff]
  constructor
  · intro h
    have hnil : trimStart text = [] := by
      cases hstart : trimStart text with
      | nil => rfl
      | cons c rest =>
        have hc : isBlank c = false :=
          startsInked_cons.1 (hstart ▸ startsInked_trimStart text)
        rw [h c (by simp [hstart])] at hc
        cases hc
    exact List.dropWhile_eq_nil_iff.1 hnil
  · exact fun h c hc => h c ((List.dropWhile_suffix _).subset hc)

/-- A blank at the end makes no difference. -/
theorem trim_concat_blank {c : Char} (h : isBlank c = true) (text : List Char) :
    trim (text ++ [c]) = trim text := by
  have hstart : trimStart (text ++ [c]) =
      if (trimStart text).isEmpty then trimStart [c] else trimStart text ++ [c] :=
    List.dropWhile_append
  have hblank : trimStart [c] = [] := List.dropWhile_cons_of_pos h
  rw [trim, trim, hstart, hblank]
  split
  · rename_i hnil
    rw [List.isEmpty_iff.1 hnil]
  · rw [trimEnd_eq_rdropWhile, List.rdropWhile_concat_pos _ _ _ h, ← trimEnd_eq_rdropWhile]

theorem endsInked_trimEnd (text : List Char) : EndsInked (trimEnd text) := by
  intro c hc
  have hne : trimEnd text ≠ [] := fun hnil => by rw [hnil] at hc; cases hc
  rw [List.getLast?_eq_some_getLast hne] at hc
  cases hc
  exact Bool.eq_false_iff.2 (List.rdropWhile_last_not isBlank text hne)

/-- Nothing is trimmed at the start of what is left of a text that starts with no blank. -/
theorem startsInked_trimEnd {text : List Char} (h : StartsInked text) :
    StartsInked (trimEnd text) := by
  intro c hc
  obtain ⟨rest, hrest⟩ := List.head?_eq_some_iff.1 hc
  obtain ⟨tail, htail⟩ := List.rdropWhile_prefix isBlank text
  refine h c ?_
  rw [← htail, ← trimEnd_eq_rdropWhile, hrest]
  rfl

theorem startsInked_trim (text : List Char) : StartsInked (trim text) :=
  startsInked_trimEnd (startsInked_trimStart text)

theorem endsInked_trim (text : List Char) : EndsInked (trim text) :=
  endsInked_trimEnd _

end ApiNotes.Text
