/-
Quoted texts can be told apart. Each character is written in quotes so that it can be read off the
front of a text, and the closing quote is mistaken for none, so equal texts that start with a quoted
text start with the same one and go on in the same way.
-/
import ApiNotes.Yaml.Scalar
import Mathlib.Algebra.Group.Nat.Defs

namespace ApiNotes.Yaml

/-- What is written can be read off the front of a text. -/
def PrefixFree {α : Type} (write : α → List Char) : Prop :=
  ∀ a b r s, write a ++ r = write b ++ s → a = b ∧ r = s

/-- Items that can be read off one by one can be read off up to a character that starts none. -/
theorem PrefixFree.flatMap {α : Type} {write : α → List Char} {stop : Char}
    (h : PrefixFree write) (hstop : ∀ a r s, write a ++ r ≠ stop :: s) {as bs : List α}
    {r s : List Char} (heq : as.flatMap write ++ stop :: r = bs.flatMap write ++ stop :: s) :
    as = bs ∧ r = s := by
  induction as generalizing bs with
  | nil =>
    cases bs with
    | nil => exact ⟨rfl, List.cons.inj heq |>.2⟩
    | cons b bs =>
      rw [List.flatMap_cons, List.append_assoc] at heq
      exact absurd heq.symm (hstop b _ _)
  | cons a as ih =>
    cases bs with
    | nil =>
      rw [List.flatMap_cons, List.append_assoc] at heq
      exact absurd heq (hstop a _ _)
    | cons b bs =>
      rw [List.flatMap_cons, List.flatMap_cons, List.append_assoc, List.append_assoc] at heq
      obtain ⟨rfl, hrest⟩ := h a b _ _ heq
      obtain ⟨rfl, hend⟩ := ih hrest
      exact ⟨rfl, hend⟩

/-! ## Double quotes -/

@[simp]
theorem length_hexDigits (width n : Nat) : (hexDigits width n).length = width := by
  induction width generalizing n with
  | zero => rfl
  | succ width ih => rw [hexDigits, List.length_append, ih, List.length_singleton]

theorem upperHexDigit_inj {m n : Nat} (hm : m < 16) (hn : n < 16)
    (h : upperHexDigit m = upperHexDigit n) : m = n := by
  have hall : ∀ i < 16, ∀ j < 16, upperHexDigit i = upperHexDigit j → i = j := by decide
  exact hall m hm n hn h

/-- A number is told by its digits if they are enough. -/
theorem hexDigits_inj {width m n : Nat} (hm : m < 16 ^ width) (hn : n < 16 ^ width)
    (h : hexDigits width m = hexDigits width n) : m = n := by
  induction width generalizing m n with
  | zero =>
    rw [Nat.pow_zero, Nat.lt_one_iff] at hm hn
    rw [hm, hn]
  | succ width ih =>
    rw [hexDigits, hexDigits] at h
    obtain ⟨hfront, hlast⟩ := List.append_inj' h rfl
    have hdiv : m / 16 = n / 16 :=
      ih (Nat.div_lt_of_lt_mul (by rwa [Nat.pow_succ'] at hm))
        (Nat.div_lt_of_lt_mul (by rwa [Nat.pow_succ'] at hn)) hfront
    have hmod : m % 16 = n % 16 :=
      upperHexDigit_inj (Nat.mod_lt m (by decide)) (Nat.mod_lt n (by decide))
        (List.singleton_inj.1 hlast)
    rw [← Nat.div_add_mod m 16, ← Nat.div_add_mod n 16, hdiv, hmod]

/-- The letters of the long escapes, with the number of digits that follow. -/
def longEscapes : List (Char × Nat) :=
  [('x', 2), ('u', 4), ('U', 8)]

/-- What a character can look like in double quotes. -/
inductive Escaped (c : Char) : List Char → Prop
  | bare : c ≠ '"' → c ≠ '\\' → Escaped c [c]
  | short (e : Char) : (c.toNat, e) ∈ shortEscapes → Escaped c ['\\', e]
  | long (letter : Char) (width : Nat) : (letter, width) ∈ longEscapes → c.toNat < 16 ^ width →
      Escaped c ('\\' :: letter :: hexDigits width c.toNat)

theorem escaped_escapeChar (c : Char) : Escaped c (escapeChar c) := by
  unfold escapeChar
  split
  · rename_i h
    simp only [Bool.and_eq_true, bne_iff_ne] at h
    exact .bare h.1.2 h.2
  · split
    · rename_i e he
      obtain ⟨before, after, hmem, -⟩ := List.lookup_eq_some_iff.1 he
      exact .short e (by rw [hmem]; simp)
    · split
      · rename_i hle
        exact .long 'x' 2 (by decide) (by omega)
      · split
        · rename_i hle
          exact .long 'u' 4 (by decide) (by omega)
        · exact .long 'U' 8 (by decide) c.val.toNat_lt

theorem prefixFree_escapeChar : PrefixFree escapeChar := by
  intro c d r s h
  have hshort : ∀ p ∈ shortEscapes, ∀ q ∈ shortEscapes, p.2 = q.2 → p.1 = q.1 := by decide
  have hlong : ∀ p ∈ longEscapes, ∀ q ∈ longEscapes, p.1 = q.1 → p.2 = q.2 := by decide
  have hdisjoint : ∀ p ∈ shortEscapes, ∀ q ∈ longEscapes, p.2 ≠ q.1 := by decide
  generalize hc : escapeChar c = x at h
  generalize hd : escapeChar d = y at h
  have hcx : Escaped c x := hc ▸ escaped_escapeChar c
  have hdy : Escaped d y := hd ▸ escaped_escapeChar d
  cases hcx with
  | bare hq hb =>
    cases hdy with
    | bare => simpa using h
    | short | long =>
      -- only a backslash starts an escape
      exact absurd (List.cons.inj h).1 hb
  | short e he =>
    cases hdy with
    | bare hq hb => exact absurd (List.cons.inj h).1.symm hb
    | short e' he' =>
      simp only [List.cons_append, List.nil_append, List.cons.injEq, true_and] at h
      exact ⟨Char.toNat_inj.1 (hshort _ he _ he' h.1), h.2⟩
    | long letter width hl =>
      simp only [List.cons_append, List.nil_append, List.cons.injEq, true_and] at h
      exact absurd h.1 (hdisjoint _ he _ hl)
  | long letter width hl hlt =>
    cases hdy with
    | bare hq hb => exact absurd (List.cons.inj h).1.symm hb
    | short e' he' =>
      simp only [List.cons_append, List.nil_append, List.cons.injEq, true_and] at h
      exact absurd h.1.symm (hdisjoint _ he' _ hl)
    | long letter' width' hl' hlt' =>
      simp only [List.cons_append, List.cons.injEq, true_and] at h
      obtain rfl : width = width' := hlong _ hl _ hl' h.1
      obtain ⟨hdigits, hrest⟩ := List.append_inj h.2 (by simp)
      exact ⟨Char.toNat_inj.1 (hexDigits_inj hlt hlt' hdigits), hrest⟩

theorem prefixFree_doubleQuoted : PrefixFree doubleQuoted := by
  intro a b r s h
  simp only [doubleQuoted, List.cons_append, List.append_assoc, List.nil_append,
    List.cons.injEq, true_and] at h
  refine prefixFree_escapeChar.flatMap (fun c r s hc => ?_) h
  -- no character is written with a quote in front
  generalize hx : escapeChar c = x at hc
  have hcx : Escaped c x := hx ▸ escaped_escapeChar c
  cases hcx with
  | bare hq => exact hq (List.cons.inj hc).1
  | short | long => exact absurd (List.cons.inj hc).1 (by decide)

/-! ## Lines -/

/-- What stands in front of a character: spaces, if it is the first of its line. -/
def lead (indent : Nat) (fresh : Bool) (c : Char) : List Char :=
  if fresh && !isBreak c then spaces indent else []

theorem writeLines_cons (indent : Nat) (fresh : Bool) (c : Char) (rest : List Char) :
    writeLines indent fresh (c :: rest) =
      lead indent fresh c ++ c :: writeLines indent (isBreak c) rest := by
  unfold lead
  rw [writeLines]
  cases hc : isBreak c <;> cases fresh <;> rfl

theorem lead_cases (indent : Nat) (fresh : Bool) (c : Char) :
    lead indent fresh c = [] ∨ ∃ m, lead indent fresh c = ' ' :: spaces m := by
  unfold lead
  split
  · cases indent with
    | zero => exact .inl rfl
    | succ m => exact .inr ⟨m, rfl⟩
  · exact .inl rfl

/-- A character can be read off the front of its line. -/
theorem lead_inj {indent : Nat} {fresh : Bool} {c d : Char} {r s : List Char}
    (h : lead indent fresh c ++ c :: r = lead indent fresh d ++ d :: s) : c = d ∧ r = s := by
  -- spaces are mistaken for a line end only if one of the two characters is one
  have hspaces : ∀ {c d : Char} {r s : List Char}, isBreak c = true → isBreak d = false →
      c :: r ≠ spaces indent ++ d :: s := by
    intro c d r s hc hd heq
    cases indent with
    | zero =>
      rw [(List.cons.inj heq).1, hd] at hc
      cases hc
    | succ indent =>
      rw [(List.cons.inj heq).1] at hc
      exact absurd hc (by decide)
  unfold lead at h
  cases fresh with
  | false => simpa using h
  | true =>
    cases hc : isBreak c <;> cases hd : isBreak d <;>
      simp only [hc, hd, Bool.not_true, Bool.not_false, Bool.and_true, Bool.and_false, if_true,
        Bool.false_eq_true, if_false, List.nil_append] at h
    · simpa using h
    · exact absurd h.symm (hspaces hd hc)
    · exact absurd h (hspaces hc hd)
    · simpa using h

/-! ## Single quotes -/

theorem writeLines_doubleQuotes_cons (indent : Nat) (fresh : Bool) (c : Char) (rest : List Char) :
    writeLines indent fresh (doubleQuotes (c :: rest)) =
      lead indent fresh c ++ c :: ((if c = '\'' then ['\''] else []) ++
        writeLines indent (isBreak c) (doubleQuotes rest)) := by
  unfold doubleQuotes
  rw [List.flatMap_cons]
  split
  · rename_i hc
    subst hc
    rw [List.cons_append, List.singleton_append, writeLines_cons, writeLines_cons]
    rfl
  · rw [List.singleton_append, writeLines_cons]
    rfl

/-- The closing quote is not mistaken for the next character, which would be a quote written
twice. -/
theorem closing_ne {indent : Nat} {fresh : Bool} {c : Char} {rest r s : List Char}
    (hr : r.head? ≠ some '\'') :
    '\'' :: r ≠ writeLines indent fresh (doubleQuotes (c :: rest)) ++ s := by
  rw [writeLines_doubleQuotes_cons]
  rcases lead_cases indent fresh c with hlead | ⟨m, hlead⟩ <;> rw [hlead] <;> intro h
  · obtain ⟨rfl, htail⟩ := List.cons.inj h
    exact hr (by rw [htail]; rfl)
  · exact absurd (List.cons.inj h).1 (by decide)

/-- A text in single quotes can be read off the front, unless another single quote comes next. -/
theorem singleQuoted_inj {indent : Nat} {a b r s : List Char} (hr : r.head? ≠ some '\'')
    (hs : s.head? ≠ some '\'') (h : singleQuoted indent a ++ r = singleQuoted indent b ++ s) :
    a = b ∧ r = s := by
  suffices ∀ fresh, writeLines indent fresh (doubleQuotes a) ++ '\'' :: r =
      writeLines indent fresh (doubleQuotes b) ++ '\'' :: s → a = b ∧ r = s by
    refine this false ?_
    simpa [singleQuoted] using h
  clear h
  induction a generalizing b with
  | nil =>
    intro fresh h
    cases b with
    | nil => exact ⟨rfl, (List.cons.inj h).2⟩
    | cons c rest => exact absurd h (closing_ne hr)
  | cons c rest ih =>
    intro fresh h
    cases b with
    | nil => exact absurd h.symm (closing_ne hs)
    | cons d rest' =>
      rw [writeLines_doubleQuotes_cons, writeLines_doubleQuotes_cons, List.append_assoc,
        List.append_assoc, List.cons_append, List.cons_append] at h
      obtain ⟨rfl, h⟩ := lead_inj h
      rw [List.append_assoc, List.append_assoc, List.append_cancel_left_eq] at h
      obtain ⟨rfl, hrs⟩ := ih _ h
      exact ⟨rfl, hrs⟩

end ApiNotes.Yaml
