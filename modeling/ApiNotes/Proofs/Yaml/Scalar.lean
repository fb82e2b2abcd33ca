/-
Scalars can be told apart. A bare text ends where a line end or a colon before a separator comes,
since it holds neither; a quoted text ends with its closing quote; a literal block ends where a line
is indented less than the block. So a scalar can be read off the front of whatever may follow it.
-/
import ApiNotes.Proofs.Text.Pieces
import ApiNotes.Proofs.Yaml.Quoted
import ApiNotes.Yaml.Text
import Mathlib.Logic.Basic

namespace ApiNotes.Yaml

/-! ## What follows a scalar -/

/-- What can follow a scalar on its line: the end of the line, or a colon before a separator. -/
inductive Delimits : List Char → Prop
  | lineEnd (rest : List Char) : Delimits ('\n' :: rest)
  | colon (c : Char) (rest : List Char) : isSeparator c = true → Delimits (':' :: c :: rest)

/-- A text that is empty or starts with a line that is indented by less than `n`. -/
inductive Outdented (n : Nat) : List Char → Prop
  | nil : Outdented n []
  | line (m : Nat) (c : Char) (rest : List Char) : m < n → c ≠ ' ' → isBreak c = false →
      Outdented n (spaces m ++ c :: rest)

theorem Outdented.mono {m n : Nat} {r : List Char} (h : Outdented m r) (hle : m ≤ n) :
    Outdented n r := by
  cases h with
  | nil => exact .nil
  | line k c rest hk hc hb => exact .line k c rest (Nat.lt_of_lt_of_le hk hle) hc hb

/-- A line that is indented less is told from one that is indented more. -/
theorem spaces_ne {m n : Nat} {c : Char} {r s : List Char} (hlt : m < n) (hc : c ≠ ' ') :
    spaces m ++ c :: r ≠ spaces n ++ s := by
  intro h
  obtain ⟨k, rfl⟩ := Nat.exists_eq_add_of_lt hlt
  have hsplit : spaces (m + k + 1) = spaces m ++ ' ' :: spaces k := by
    rw [spaces, Nat.add_assoc, ← List.replicate_append_replicate]
    rfl
  rw [hsplit, List.append_assoc, List.append_cancel_left_eq] at h
  exact hc (List.cons.inj h).1

theorem Outdented.ne_spaces {n : Nat} {r s : List Char} (h : Outdented n r) (hs : s ≠ []) :
    r ≠ spaces n ++ s := by
  cases h with
  | nil => exact fun h => hs (List.append_eq_nil_iff.1 h.symm).2
  | line m c rest hlt hc => exact spaces_ne hlt hc

/-! ## Ends of lines -/

/-- After the text a line has ended; `fresh` says whether one had before it. -/
def LineEnded : Bool → List Char → Prop
  | fresh, [] => fresh = true
  | _, c :: rest => LineEnded (isBreak c) rest

theorem LineEnded.of_false {fresh : Bool} {t : List Char} (h : LineEnded false t) :
    LineEnded fresh t := by
  cases t with
  | nil => cases h
  | cons c rest => exact h

theorem getLast?_any_isBreak (c : Char) (rest : List Char) :
    (c :: rest).getLast?.any isBreak = true ↔ LineEnded (isBreak c) rest := by
  induction rest generalizing c with
  | nil => simp [LineEnded]
  | cons d rest ih => rw [List.getLast?_cons_cons, ih]; rfl

theorem lineEnded_append_cons {fresh : Bool} (t : List Char) {c : Char} {rest : List Char} :
    LineEnded fresh (t ++ c :: rest) ↔ LineEnded (isBreak c) rest := by
  induction t generalizing fresh with
  | nil => rfl
  | cons d t ih => exact ih

theorem LineEnded.append_left {fresh : Bool} {t' : List Char} (h : LineEnded false t')
    (t : List Char) : LineEnded fresh (t ++ t') := by
  cases t' with
  | nil => cases h
  | cons c rest => exact (lineEnded_append_cons t).2 h

theorem LineEnded.append {fresh : Bool} {t t' : List Char} (h : LineEnded fresh t)
    (h' : LineEnded true t') : LineEnded fresh (t ++ t') := by
  induction t generalizing fresh with
  | nil => rw [LineEnded] at h; rw [h]; exact h'
  | cons c rest ih => exact ih h

theorem LineEnded.exists_break {t : List Char} (h : LineEnded false t) :
    ∃ c ∈ t, isBreak c = true := by
  induction t with
  | nil => cases h
  | cons c rest ih =>
    cases hc : isBreak c with
    | true => exact ⟨c, List.mem_cons_self .., hc⟩
    | false =>
      rw [LineEnded, hc] at h
      obtain ⟨d, hd, hbreak⟩ := ih h
      exact ⟨d, List.mem_cons_of_mem _ hd, hbreak⟩

theorem closeLine_of_lineEnded {t : List Char} (h : LineEnded false t) : closeLine t = t := by
  cases t with
  | nil => cases h
  | cons c rest => rw [closeLine, if_pos ((getLast?_any_isBreak c rest).2 h)]

theorem closeLine_of_not {t : List Char} (h : ¬ LineEnded false t) : closeLine t = t ++ ['\n'] := by
  cases t with
  | nil => rfl
  | cons c rest => rw [closeLine, if_neg (mt (getLast?_any_isBreak c rest).1 h)]

theorem lineEnded_closeLine (t : List Char) : LineEnded false (closeLine t) := by
  by_cases h : LineEnded false t
  · rwa [closeLine_of_lineEnded h]
  · rw [closeLine_of_not h, lineEnded_append_cons]
    rfl

theorem closeLine_append (t : List Char) {t' : List Char} (h : t' ≠ []) :
    closeLine (t ++ t') = t ++ closeLine t' := by
  obtain ⟨c, rest, rfl⟩ := List.exists_cons_of_ne_nil h
  by_cases hend : LineEnded false (c :: rest)
  · rw [closeLine_of_lineEnded ((lineEnded_append_cons t).2 hend), closeLine_of_lineEnded hend]
  · rw [closeLine_of_not (mt (lineEnded_append_cons t).1 hend), closeLine_of_not hend,
      List.append_assoc]

theorem closeLine_cons {c : Char} (hc : isBreak c = false) (t : List Char) :
    closeLine (c :: t) = c :: closeLine t := by
  have hiff : LineEnded false (c :: t) ↔ LineEnded false t := by rw [LineEnded, hc]
  by_cases h : LineEnded false t
  · rw [closeLine_of_lineEnded h, closeLine_of_lineEnded (hiff.2 h)]
  · rw [closeLine_of_not h, closeLine_of_not (mt hiff.1 h), List.cons_append]

/-! ## Bare texts -/

/-- What a bare text is like. -/
structure Bare (first : Char) (rest : List Char) : Prop where
  opening : isIndicator first = false
  /-- Two marks at the start would be those of a list, a key or a value. -/
  mark : first = '?' ∨ first = ':' ∨ first = '-' → atSeparator rest = false
  inner : hasInnerIndicator first rest = false
  space : first ≠ ' '
  lines : ∀ c ∈ first :: rest, isBreak c = false

theorem bare_of_plainAllowed {t : List Char} (h : plainAllowed t = true) :
    ∃ first rest, t = first :: rest ∧ Bare first rest := by
  cases t with
  | nil => cases h
  | cons first rest =>
    refine ⟨first, rest, rfl, ?_⟩
    simp only [plainAllowed, hasOpeningIndicator, Bool.and_eq_true, Bool.not_eq_true',
      Bool.or_eq_false_iff, List.head?_cons, bne_iff_ne, List.any_eq_false, Option.some.injEq,
      ne_eq] at h
    obtain ⟨⟨⟨⟨⟨⟨-, hopen, hmark⟩, hinner⟩, hspace⟩, -⟩, hlines⟩, -⟩ := h
    refine ⟨hopen, fun hfirst => ?_, hinner, hspace, fun c hc => by simpa using hlines c hc⟩
    rcases hfirst with rfl | rfl | rfl <;> simpa using hmark

/-- A colon before a separator is an inner mark wherever it stands. -/
theorem hasInnerIndicator_append_colon {before : Char} (t : List Char) {rest : List Char}
    (h : atSeparator rest = true) : hasInnerIndicator before (t ++ ':' :: rest) = true := by
  induction t generalizing before with
  | nil => simp [hasInnerIndicator, h]
  | cons c t ih => simp [hasInnerIndicator, ih]

/-- A bare text does not go on where it could end. -/
theorem Bare.not_delimits {first : Char} {rest t u r s : List Char} (h : Bare first rest)
    (ht : t ≠ []) (hu : u ≠ []) (hsplit : first :: rest = t ++ u) (hr : Delimits r) :
    r ≠ u ++ s := by
  intro heq
  obtain ⟨d, t, rfl⟩ := List.exists_cons_of_ne_nil ht
  obtain ⟨c, u, rfl⟩ := List.exists_cons_of_ne_nil hu
  obtain ⟨rfl, hrest⟩ := List.cons.inj hsplit
  cases hr with
  | lineEnd =>
    obtain ⟨rfl, -⟩ := List.cons.inj heq
    have hbreak := h.lines '\n' (by rw [hrest]; simp)
    exact absurd hbreak (by decide)
  | colon sep tail hsep =>
    obtain ⟨rfl, htail⟩ := List.cons.inj heq
    have hseparator : atSeparator u = true := by
      cases u with
      | nil => rfl
      | cons x u =>
        obtain ⟨rfl, -⟩ := List.cons.inj htail
        simpa [atSeparator] using hsep
    have hinner : hasInnerIndicator first rest = true := by
      rw [hrest]
      exact hasInnerIndicator_append_colon t hseparator
    rw [h.inner] at hinner
    cases hinner

/-- A bare text can be read off the front. -/
theorem Bare.inj {first first' : Char} {rest rest' r s : List Char} (h : Bare first rest)
    (h' : Bare first' rest') (hr : Delimits r) (hs : Delimits s)
    (heq : first :: rest ++ r = first' :: rest' ++ s) :
    first :: rest = first' :: rest' ∧ r = s := by
  rcases List.append_eq_append_iff.1 heq with ⟨u, hsplit, hrest⟩ | ⟨u, hsplit, hrest⟩
  · by_cases hu : u = []
    · subst hu
      exact ⟨by rw [hsplit, List.append_nil], hrest⟩
    · exact absurd hrest (h'.not_delimits (List.cons_ne_nil _ _) hu hsplit hr)
  · by_cases hu : u = []
    · subst hu
      exact ⟨by rw [hsplit, List.append_nil], hrest.symm⟩
    · exact absurd hrest (h.not_delimits (List.cons_ne_nil _ _) hu hsplit hs)

/-! ## Literal blocks -/

theorem writeLines_append_break (indent : Nat) (fresh : Bool) (t : List Char) :
    writeLines indent fresh (t ++ ['\n']) = writeLines indent fresh t ++ ['\n'] := by
  induction t generalizing fresh with
  | nil => rfl
  | cons c rest ih => simp [writeLines_cons, ih]

theorem lineEnded_writeLines {indent : Nat} {fresh : Bool} {t : List Char} :
    LineEnded fresh (writeLines indent fresh t) ↔ LineEnded fresh t := by
  induction t generalizing fresh with
  | nil => rfl
  | cons c rest ih => rw [writeLines_cons, lineEnded_append_cons, ih]; rfl

theorem closeLine_writeLines (indent : Nat) {t : List Char} (h : t ≠ []) :
    closeLine (writeLines indent true t) = writeLines indent true (closeLine t) := by
  obtain ⟨c, rest, rfl⟩ := List.exists_cons_of_ne_nil h
  have hiff : LineEnded false (writeLines indent true (c :: rest)) ↔
      LineEnded false (c :: rest) := by
    rw [writeLines_cons, lineEnded_append_cons, lineEnded_writeLines]
    rfl
  by_cases hend : LineEnded false (c :: rest)
  · rw [closeLine_of_lineEnded hend, closeLine_of_lineEnded (hiff.2 hend)]
  · rw [closeLine_of_not hend, closeLine_of_not (mt hiff.1 hend), writeLines_append_break]

/-- The next line of a block is not mistaken for one that is indented less. -/
theorem Outdented.ne_writeLines {indent : Nat} {c : Char} {rest r s : List Char}
    (hr : Outdented indent r) : r ≠ writeLines indent true (c :: rest) ++ s := by
  rw [writeLines_cons, List.append_assoc]
  cases hc : isBreak c with
  | false =>
    rw [lead, hc]
    exact hr.ne_spaces (List.cons_ne_nil _ _)
  | true =>
    rw [lead, hc]
    intro h
    cases hr with
    | nil => cases h
    | line m d rest hm hd hb =>
      cases m with
      | zero =>
        rw [(List.cons.inj h).1, hc] at hb
        cases hb
      | succ m =>
        rw [← (List.cons.inj h).1] at hc
        exact absurd hc (by decide)

/-- The lines of a block can be read off the front of a line that is indented less. -/
theorem writeLines_inj {indent : Nat} {fresh : Bool} {a b r s : List Char}
    (ha : LineEnded fresh a) (hb : LineEnded fresh b) (hr : Outdented indent r)
    (hs : Outdented indent s)
    (h : writeLines indent fresh a ++ r = writeLines indent fresh b ++ s) : a = b ∧ r = s := by
  induction a generalizing b fresh with
  | nil =>
    cases b with
    | nil => exact ⟨rfl, h⟩
    | cons d b =>
      cases ha
      exact absurd h hr.ne_writeLines
  | cons c a ih =>
    cases b with
    | nil =>
      cases hb
      exact absurd h.symm hs.ne_writeLines
    | cons d b =>
      rw [writeLines_cons, writeLines_cons, List.append_assoc, List.append_assoc,
        List.cons_append, List.cons_append] at h
      obtain ⟨rfl, h⟩ := lead_inj h
      obtain ⟨rfl, hrs⟩ := ih ha hb h
      exact ⟨rfl, hrs⟩

theorem literalHints_lineFeed (t : List Char) : '\n' ∉ literalHints t := by
  unfold literalHints
  dsimp only
  repeat' split
  all_goals decide

/-- The hints of a block say whether its text ends a line. -/
theorem literalHints_dash {t : List Char} (h : t ≠ []) :
    '-' ∈ literalHints t ↔ ¬ LineEnded false t := by
  obtain ⟨last, before, hrev⟩ := List.exists_cons_of_ne_nil (mt List.reverse_eq_nil_iff.1 h)
  have ht : t = before.reverse ++ [last] := by
    rw [← List.reverse_reverse t, hrev, List.reverse_cons]
  have hended : LineEnded false t ↔ isBreak last = true := by
    rw [ht, lineEnded_append_cons]
    rfl
  rw [hended]
  unfold literalHints
  simp only [hrev]
  cases isBreak last with
  | false => simp
  | true =>
    simp

theorem closeLine_literal (indent : Nat) {t : List Char} (h : t ≠ []) :
    closeLine (literal indent t) =
      '|' :: literalHints t ++ '\n' :: writeLines indent true (closeLine t) := by
  have hne : writeLines indent true t ≠ [] := by
    obtain ⟨c, rest, rfl⟩ := List.exists_cons_of_ne_nil h
    simp [writeLines_cons]
  rw [literal, List.append_cons, closeLine_append _ hne, closeLine_writeLines indent h,
    ← List.append_cons]

/-- A literal block can be read off the front of a line that is indented less. -/
theorem literal_inj {indent : Nat} {a b r s : List Char} (ha : a ≠ []) (hb : b ≠ [])
    (hr : Outdented indent r) (hs : Outdented indent s)
    (h : closeLine (literal indent a) ++ r = closeLine (literal indent b) ++ s) :
    a = b ∧ r = s := by
  rw [closeLine_literal indent ha, closeLine_literal indent hb, List.append_assoc,
    List.append_assoc, List.cons_append, List.cons_append, List.cons_append, List.cons_append] at h
  obtain ⟨hhints, hlines⟩ :=
    Text.append_cons_inj (literalHints_lineFeed a) (literalHints_lineFeed b)
      (List.cons.inj h).2
  obtain ⟨hclosed, hrs⟩ :=
    writeLines_inj (lineEnded_closeLine a).of_false (lineEnded_closeLine b).of_false hr hs hlines
  refine ⟨?_, hrs⟩
  -- the hints tell whether a line feed was added
  have hiff : LineEnded false a ↔ LineEnded false b := by
    rw [← not_iff_not, ← literalHints_dash ha, ← literalHints_dash hb, hhints]
  by_cases hended : LineEnded false a
  · rwa [closeLine_of_lineEnded hended, closeLine_of_lineEnded (hiff.1 hended)] at hclosed
  · rw [closeLine_of_not hended, closeLine_of_not (mt hiff.2 hended)] at hclosed
    exact List.append_cancel_right hclosed

end ApiNotes.Yaml
