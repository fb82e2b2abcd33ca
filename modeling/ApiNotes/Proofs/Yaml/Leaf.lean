/-
Leaves of YAML text can be told apart. A leaf stands on one line, bare, in quotes or as brackets, or
it is a text that is written as a literal block; the first character tells which, and what can
follow it tells where it ends. A simple key is written like a text on one line.
-/
import ApiNotes.Proofs.Yaml.Scalar

namespace ApiNotes.Yaml

/-! ## Leaves on one line -/

/-- The value that a bare text stands for. -/
def valueOfBare (t : List Char) : Json :=
  if t = "true".toList then .bool true
  else if t = "false".toList then .bool false
  else .string (String.ofList t)

/-- How a leaf is written on one line. -/
inductive Inline (n : Nat) : Json → List Char → Prop
  | bare {first : Char} {rest : List Char} : Bare first rest →
      Inline n (valueOfBare (first :: rest)) (first :: rest)
  | single (s : String) : Inline n (.string s) (singleQuoted (n + 2) s.toList)
  | double (s : String) : Inline n (.string s) (doubleQuoted s.toList)
  | array : Inline n (.array []) ['[', ']']
  | object : Inline n (.object []) ['\x7b', '\x7d']

theorem inline_bool (n : Nat) (b : Bool) : Inline n (.bool b) (leaf n (.bool b)) := by
  have hbare : ∀ {t : List Char}, plainAllowed t = true → Inline n (valueOfBare t) t := by
    intro t ht
    obtain ⟨first, rest, rfl, hbare⟩ := bare_of_plainAllowed ht
    exact .bare hbare
  cases b with
  | true => exact hbare (t := "true".toList) (by decide)
  | false => exact hbare (t := "false".toList) (by decide)

/-- A text on one line reads as the text and not as a truth value. -/
theorem inline_string {n : Nat} {s : String} (h : styleOf s ≠ .literal) :
    Inline n (.string s) (scalar n s) := by
  unfold scalar
  split
  · rename_i hstyle
    unfold styleOf at hstyle
    dsimp only at hstyle
    split at hstyle
    · split at hstyle <;> cases hstyle
    · split at hstyle
      · rename_i hplain
        rw [Bool.and_eq_true, Bool.not_eq_true'] at hplain
        obtain ⟨first, rest, hs, hbare⟩ := bare_of_plainAllowed hplain.1
        have hne : ∀ word, isAmbiguous word = true → s.toList ≠ word.toList := by
          intro word hword heq
          rw [String.toList_inj.1 heq, hword] at hplain
          cases hplain.2
        have hvalue : valueOfBare s.toList = .string s := by
          rw [valueOfBare, if_neg (hne "true" (by decide)), if_neg (hne "false" (by decide)),
            String.ofList_toList]
        rw [← hvalue, hs]
        exact .bare hbare
      · split at hstyle <;> cases hstyle
  · exact .single s
  · exact .double s
  · contradiction

theorem Delimits.ne_quote {r : List Char} (h : Delimits r) : r.head? ≠ some '\'' := by
  cases h <;> simp

theorem Bare.ne_indicator {first c : Char} {rest r s : List Char} (h : Bare first rest)
    (hc : isIndicator c = true) : first :: rest ++ r ≠ c :: s := by
  intro heq
  obtain ⟨rfl, -⟩ := List.cons.inj heq
  rw [h.opening] at hc
  cases hc

namespace Inline

variable {n : Nat} {v w : Json} {x y r s : List Char}

/-- A leaf on one line can be read off the front. -/
theorem inj (hv : Inline n v x) (hw : Inline n w y) (hr : Delimits r) (hs : Delimits s)
    (h : x ++ r = y ++ s) : v = w ∧ r = s := by
  cases hv <;> cases hw
  case bare.bare hbare _ _ hbare' =>
    obtain ⟨heq, hrs⟩ := hbare.inj hbare' hr hs h
    exact ⟨by rw [heq], hrs⟩
  case single.single s₁ s₂ =>
    obtain ⟨heq, hrs⟩ := singleQuoted_inj hr.ne_quote hs.ne_quote h
    exact ⟨by rw [String.toList_inj.1 heq], hrs⟩
  case double.double =>
    obtain ⟨heq, hrs⟩ := prefixFree_doubleQuoted _ _ _ _ h
    exact ⟨by rw [String.toList_inj.1 heq], hrs⟩
  case array.array | object.object => exact ⟨rfl, by simpa using h⟩
  -- otherwise the first characters differ
  case bare.single hbare _ | bare.double hbare _ | bare.array hbare | bare.object hbare =>
    exact absurd h (hbare.ne_indicator (by decide))
  case single.bare hbare | double.bare hbare | array.bare hbare | object.bare hbare =>
    exact absurd h.symm (hbare.ne_indicator (by decide))
  all_goals simp [singleQuoted, doubleQuoted] at h

/-- A leaf on one line does not look like a literal block. -/
theorem ne_bar (hv : Inline n v x) : x ++ r ≠ '|' :: s := by
  cases hv with
  | bare hbare => exact hbare.ne_indicator (by decide)
  | _ => simp [singleQuoted, doubleQuoted]

/-- A leaf on one line does not end its line. -/
theorem closeLine_eq (hv : Inline n v x) : closeLine x = x ++ ['\n'] := by
  refine closeLine_of_not fun h => ?_
  cases hv with
  | bare hbare =>
    obtain ⟨c, hc, hbreak⟩ := h.exists_break
    rw [hbare.lines c hc] at hbreak
    cases hbreak
  | single s =>
    rw [singleQuoted, lineEnded_append_cons] at h
    simp [LineEnded, isBreak] at h
  | double s =>
    rw [doubleQuoted, lineEnded_append_cons] at h
    simp [LineEnded, isBreak] at h
  | array | object => simp [LineEnded, isBreak] at h

end Inline

/-! ## Beginnings of lines -/

/-- A text that starts with neither a space, a line end, nor the mark of an element or a key. -/
def Opens : List Char → Prop
  | [] => False
  | c :: rest => c ≠ ' ' ∧ isBreak c = false ∧ (c = '-' ∨ c = '?' → rest.head? ≠ some ' ')

theorem Inline.opens {n : Nat} {v : Json} {x r : List Char} (hv : Inline n v x) :
    Opens (x ++ r) := by
  cases hv with
  | @bare first rest hbare =>
    refine ⟨hbare.space, hbare.lines first (List.mem_cons_self ..), fun hfirst => ?_⟩
    have hmark := hbare.mark (by rcases hfirst with rfl | rfl <;> simp)
    -- what follows the mark is no separator, so it is there and no space
    cases rest with
    | nil => cases hmark
    | cons d rest =>
      rintro hd
      obtain rfl := Option.some.inj hd
      exact absurd hmark (by simp [atSeparator, isSeparator])
  | _ => simp [Opens, singleQuoted, doubleQuoted, isBreak]

/-! ## Leaves -/

/-- A value that takes no lines of its own. -/
inductive IsLeaf : Json → Prop
  | bool (b : Bool) : IsLeaf (.bool b)
  | string (s : String) : IsLeaf (.string s)
  | array : IsLeaf (.array [])
  | object : IsLeaf (.object [])

theorem lineFeed_of_literal {s : String} (h : styleOf s = .literal) : '\n' ∈ s.toList := by
  unfold styleOf at h
  dsimp only at h
  split at h
  · rename_i hc
    exact List.contains_iff_mem.1 hc
  · repeat' split at h
    all_goals cases h

/-- A leaf stands on one line, or is a text that is written as a literal block. -/
theorem IsLeaf.cases {v : Json} (h : IsLeaf v) (n : Nat) :
    Inline n v (leaf n v) ∨ ∃ s, v = .string s ∧ s.toList ≠ [] ∧
      leaf n v = literal (n + 2) s.toList := by
  cases h with
  | bool b => exact .inl (inline_bool n b)
  | string s =>
    by_cases hs : styleOf s = .literal
    · refine .inr ⟨s, rfl, List.ne_nil_of_mem (lineFeed_of_literal hs), ?_⟩
      rw [leaf, scalar, hs]
    · exact .inl (inline_string hs)
  | array => exact .inl .array
  | object => exact .inl .object

theorem literal_front (indent : Nat) {t : List Char} (h : t ≠ []) (r : List Char) :
    ∃ s, closeLine (literal indent t) ++ r = '|' :: s :=
  ⟨_, by rw [closeLine_literal indent h]; rfl⟩

theorem IsLeaf.opens {v : Json} (h : IsLeaf v) (n : Nat) (r : List Char) :
    Opens (closeLine (leaf n v) ++ r) := by
  rcases h.cases n with hv | ⟨s, -, hne, hleaf⟩
  · rw [hv.closeLine_eq, List.append_assoc]
    exact hv.opens
  · obtain ⟨t, ht⟩ := literal_front (n + 2) hne r
    rw [hleaf, ht]
    simp [Opens, isBreak]

/-- A leaf can be read off the front of a line that is indented less than a literal block. -/
theorem IsLeaf.inj {n : Nat} {v w : Json} {r s : List Char} (hv : IsLeaf v) (hw : IsLeaf w)
    (hr : Outdented (n + 2) r) (hs : Outdented (n + 2) s)
    (h : closeLine (leaf n v) ++ r = closeLine (leaf n w) ++ s) : v = w ∧ r = s := by
  rcases hv.cases n with hv | ⟨a, rfl, ha, hleaf⟩ <;>
    rcases hw.cases n with hw | ⟨b, rfl, hb, hleaf'⟩
  · rw [hv.closeLine_eq, hw.closeLine_eq, List.append_assoc, List.append_assoc] at h
    obtain ⟨rfl, hrest⟩ := hv.inj hw (.lineEnd r) (.lineEnd s) h
    exact ⟨rfl, (List.cons.inj hrest).2⟩
  · obtain ⟨t, ht⟩ := literal_front (n + 2) hb s
    rw [hv.closeLine_eq, List.append_assoc, hleaf', ht] at h
    exact absurd h hv.ne_bar
  · obtain ⟨t, ht⟩ := literal_front (n + 2) ha r
    rw [hw.closeLine_eq, List.append_assoc, hleaf, ht] at h
    exact absurd h.symm hw.ne_bar
  · rw [hleaf, hleaf'] at h
    obtain ⟨heq, hrs⟩ := literal_inj ha hb hr hs h
    exact ⟨by rw [String.toList_inj.1 heq], hrs⟩

/-! ## Keys -/

theorem isBreak_of_isSimpleKey {key : String} (h : isSimpleKey key = true) :
    ∀ c ∈ key.toList, isBreak c = false := by
  intro c hc
  rw [isSimpleKey, Bool.and_eq_true, Bool.not_eq_true', List.any_eq_false] at h
  simpa using h.1 c hc

/-- A simple key is written like a leaf on one line. -/
theorem inline_key (n : Nat) {key : String} (h : isSimpleKey key = true) :
    Inline n (.string key) (scalar n key) :=
  inline_string fun hs =>
    absurd (isBreak_of_isSimpleKey h _ (lineFeed_of_literal hs)) (by decide)

theorem writeLines_of_lines {indent : Nat} {t : List Char} (h : ∀ c ∈ t, isBreak c = false) :
    writeLines indent false t = t := by
  induction t with
  | nil => rfl
  | cons c rest ih =>
    obtain ⟨hc, hrest⟩ := List.forall_mem_cons.1 h
    rw [writeLines_cons, hc, ih hrest]
    rfl

/-- Without a line end the indentation does not show. -/
theorem scalar_of_isSimpleKey {key : String} (h : isSimpleKey key = true) (m n : Nat) :
    scalar m key = scalar n key := by
  have hlines := isBreak_of_isSimpleKey h
  have hquoted : ∀ c ∈ doubleQuotes key.toList, isBreak c = false := by
    intro c hc
    obtain ⟨d, hd, hcd⟩ := List.mem_flatMap.1 hc
    split at hcd
    · obtain rfl : c = '\'' := by simpa using hcd
      rfl
    · obtain rfl := List.mem_singleton.1 hcd
      exact hlines c hd
  unfold scalar
  split
  · rfl
  · unfold singleQuoted
    rw [writeLines_of_lines hquoted, writeLines_of_lines hquoted]
  · rfl
  · rename_i hs
    exact absurd (hlines _ (lineFeed_of_literal hs)) (by decide)

end ApiNotes.Yaml
