/-
A reader of JSON texts for values of texts, truth values, arrays and objects. Blanks may stand
anywhere between the signs of a value. An escape stands for one character, so pairs of surrogates
are not read. What is printed of a plain value is read as this value.
-/
import ApiNotes.Json.Text
import ApiNotes.Proofs.Json.Members
import Mathlib.Algebra.Order.BigOperators.Group.List
import Mathlib.Algebra.Order.Ring.Nat
import Mathlib.Data.List.DropRight
import Mathlib.Data.List.Forall2

namespace ApiNotes.Json

variable {α : Type}

/-! ## Reading texts -/

/-- Whether a character may stand between the signs of a value. -/
def isSpace (c : Char) : Bool :=
  c == ' ' || c == '\n' || c == '\r' || c == '\t'

/-- The input after the blanks at its start. -/
def skipSpace (input : List Char) : List Char :=
  input.dropWhile isSpace

/-- The value of a hexadecimal digit. -/
def hexValue? (c : Char) : Option Nat :=
  if '0' ≤ c ∧ c ≤ '9' then some (c.toNat - 48)
  else if 'a' ≤ c ∧ c ≤ 'f' then some (c.toNat - 87)
  else if 'A' ≤ c ∧ c ≤ 'F' then some (c.toNat - 55)
  else none

/-- The character with a number of four hexadecimal digits. -/
def readCode? (a b c d : Char) : Option Char := do
  let code :=
    4096 * (← hexValue? a) + 256 * (← hexValue? b) + 16 * (← hexValue? c) + (← hexValue? d)
  if code.isValidChar then some (Char.ofNat code) else none

/-- The character that a letter after a backslash stands for. -/
def readEscape? : Char → Option Char
  | '"' => some '"'
  | '\\' => some '\\'
  | '/' => some '/'
  | 'b' => some (Char.ofNat 8)
  | 'f' => some (Char.ofNat 12)
  | 'n' => some '\n'
  | 'r' => some '\r'
  | 't' => some '\t'
  | _ => none

/-- The text up to the next quote, and what follows the quote. -/
def readQuoted? : List Char → Option (List Char × List Char)
  | [] => none
  | '"' :: rest => some ([], rest)
  | '\\' :: 'u' :: a :: b :: c :: d :: rest =>
    (readCode? a b c d).bind fun char => (readQuoted? rest).map (Prod.map (List.cons char) id)
  | '\\' :: c :: rest =>
    (readEscape? c).bind fun char => (readQuoted? rest).map (Prod.map (List.cons char) id)
  | c :: rest =>
    if c.toNat < 32 then none else (readQuoted? rest).map (Prod.map (List.cons c) id)

/-! ## Reading values -/

/-- Items with commas between them up to the closing sign, and what follows it. -/
def readItems? (close : Char) (item : List Char → Option (α × List Char)) :
    Nat → List Char → Option (List α × List Char)
  | 0, _ => none
  | fuel + 1, input => do
    let (a, rest) ← item input
    match skipSpace rest with
    | [] => none
    | c :: rest =>
      if c = close then some ([a], rest)
      else if c = ',' then do
        let (as, rest) ← readItems? close item fuel rest
        return (a :: as, rest)
      else none

/-- The items of a bracketed list whose opening sign has been read. -/
def readList? (close : Char) (item : List Char → Option (α × List Char)) (fuel : Nat)
    (input : List Char) : Option (List α × List Char) :=
  if (skipSpace input).head? = some close then some ([], (skipSpace input).tail)
  else readItems? close item fuel input

/-- A key, and the value that follows it. -/
def readMember? (value : List Char → Option (Json × List Char)) (input : List Char) :
    Option ((String × Json) × List Char) := do
  match skipSpace input with
  | '"' :: rest =>
    let (key, rest) ← readQuoted? rest
    match skipSpace rest with
    | ':' :: rest =>
      let (v, rest) ← value rest
      return ((String.ofList key, v), rest)
    | _ => none
  | _ => none

/-- A value, and what follows it. -/
def readValue? : Nat → List Char → Option (Json × List Char)
  | 0, _ => none
  | fuel + 1, input =>
    match skipSpace input with
    | '"' :: rest => (readQuoted? rest).map fun (text, rest) => (string (String.ofList text), rest)
    | 't' :: 'r' :: 'u' :: 'e' :: rest => some (bool true, rest)
    | 'f' :: 'a' :: 'l' :: 's' :: 'e' :: rest => some (bool false, rest)
    | '[' :: rest =>
      (readList? ']' (fun l => readValue? fuel l) fuel rest).map fun (vs, rest) => (array vs, rest)
    | '\x7b' :: rest =>
      (readList? '\x7d' (readMember? fun l => readValue? fuel l) fuel rest).map
        fun (members, rest) => (object members, rest)
    | _ => none

/-- Reads a text that is one value; no value has more parts than its text has characters. -/
def readText? (text : String) : Option Json := do
  let (v, rest) ← readValue? text.toList.length text.toList
  if (skipSpace rest).isEmpty then some v else none

/-! ## Printed texts are read -/

theorem hexValue?_hexDigit : ∀ n < 16, hexValue? (hexDigit n) = some n := by
  decide

theorem readCode?_hexDigit {c : Char} (hc : c.toNat < 32) :
    readCode? '0' '0' (hexDigit (c.toNat / 16)) (hexDigit (c.toNat % 16)) = some c := by
  have hzero : hexValue? '0' = some 0 := by decide
  have hhigh : hexValue? (hexDigit (c.toNat / 16)) = some (c.toNat / 16) :=
    hexValue?_hexDigit _ (by omega)
  have hlow : hexValue? (hexDigit (c.toNat % 16)) = some (c.toNat % 16) :=
    hexValue?_hexDigit _ (by omega)
  have hcode : 4096 * 0 + 256 * 0 + 16 * (c.toNat / 16) + c.toNat % 16 = c.toNat := by omega
  have hvalid : c.toNat.isValidChar := c.valid
  simp only [readCode?, hzero, hhigh, hlow, Option.bind_eq_bind, Option.bind_some, hcode,
    if_pos hvalid, Char.ofNat_toNat]

theorem readQuoted?_cons {c : Char} (hquote : c ≠ '"') (hbackslash : c ≠ '\\')
    (hc : ¬ c.toNat < 32) (rest : List Char) :
    readQuoted? (c :: rest) = (readQuoted? rest).map (Prod.map (List.cons c) id) := by
  rw [readQuoted?, if_neg hc]
  · exact hquote
  · exact fun _ _ _ _ _ h => absurd h hbackslash
  · exact fun _ _ h => absurd h hbackslash

/-- An escaped character is read as the character. -/
theorem readQuoted?_escapeChar (c : Char) (rest : List Char) :
    readQuoted? (escapeChar c ++ rest) = (readQuoted? rest).map (Prod.map (List.cons c) id) := by
  unfold escapeChar
  split
  · simp [readQuoted?, readEscape?]
  · simp [readQuoted?, readEscape?]
  · simp [readQuoted?, readEscape?]
  · simp [readQuoted?, readEscape?]
  · simp [readQuoted?, readEscape?]
  · rename_i hquote hbackslash _ _ _
    by_cases h8 : c.toNat = 8
    · have hc : c = Char.ofNat 8 := by rw [← h8, Char.ofNat_toNat]
      subst hc
      simp [readQuoted?, readEscape?]
    by_cases h12 : c.toNat = 12
    · have hc : c = Char.ofNat 12 := by rw [← h12, Char.ofNat_toNat]
      subst hc
      simp [readQuoted?, readEscape?]
    rw [if_neg h8, if_neg h12]
    by_cases h : c.toNat < 32
    · simp [h, readQuoted?, readCode?_hexDigit h]
    · rw [if_neg h]
      exact readQuoted?_cons hquote hbackslash h rest

theorem readQuoted?_quote (text rest : List Char) :
    readQuoted? (text.flatMap escapeChar ++ '"' :: rest) = some (text, rest) := by
  induction text with
  | nil => simp [readQuoted?]
  | cons c text ih => rw [List.flatMap_cons, List.append_assoc, readQuoted?_escapeChar, ih]; rfl

/-! ## Printed lists are read -/

section Lists

variable {close : Char} {item : List Char → Option (α × List Char)} {as : List α}
  {parts : List (List Char)} {input rest : List Char} {fuel : Nat}

theorem skipSpace_cons {c : Char} (hc : isSpace c = true) (l : List Char) :
    skipSpace (c :: l) = skipSpace l :=
  List.dropWhile_cons_of_pos hc

theorem skipSpace_of_not_space {c : Char} (hc : isSpace c = false) (l : List Char) :
    skipSpace (c :: l) = c :: l :=
  List.dropWhile_cons_of_neg (by simp [hc])

@[simp]
theorem skipSpace_skipSpace (l : List Char) : skipSpace (skipSpace l) = skipSpace l :=
  List.dropWhile_idempotent isSpace l

theorem skipSpace_replicate (n : Nat) (l : List Char) :
    skipSpace (List.replicate n ' ' ++ l) = skipSpace l := by
  refine List.dropWhile_append_of_pos fun c hc => ?_
  rw [List.eq_of_mem_replicate hc]
  rfl

/-- A reader passes over blanks at the start of its input. -/
def PassesSpace (item : List Char → Option (α × List Char)) : Prop :=
  ∀ input, item input = item (skipSpace input)

/-- A reader reads an element at the start of every input that starts with the part. -/
def Reads (item : List Char → Option (α × List Char)) (a : α) (part : List Char) : Prop :=
  ∀ rest, item (part ++ rest) = some (a, rest)

/-- Parts that are indented by a number of spaces. -/
def indented (n : Nat) (parts : List (List Char)) : List (List Char) :=
  parts.map (List.replicate n ' ' ++ ·)

theorem reads_indented (hitem : PassesSpace item) (h : List.Forall₂ (Reads item) as parts)
    (n : Nat) : List.Forall₂ (Reads item) as (indented n parts) := by
  refine List.forall₂_map_right_iff.2 (h.imp fun a part hpart rest => ?_)
  rw [hitem, List.append_assoc, skipSpace_replicate, ← hitem]
  exact hpart rest

/-- A list that is not empty is printed over several lines. -/
theorem bracketed_eq (hne : parts ≠ []) (opening closing : Char) (indent : Nat) :
    bracketed opening closing indent parts =
      opening :: '\n' :: (List.intercalate [',', '\n'] (indented (indent + 2) parts) ++
        ('\n' :: List.replicate indent ' ' ++ [closing])) := by
  have hempty : parts.isEmpty = false := by simpa using hne
  simp [bracketed, indented, hempty]

theorem bracketed_eq_cons (opening closing : Char) (indent : Nat) (parts : List (List Char)) :
    bracketed opening closing indent parts =
      opening :: (bracketed opening closing indent parts).tail := by
  unfold bracketed
  split <;> rfl

theorem PassesSpace.cons (hitem : PassesSpace item) {c : Char} (hc : isSpace c = true)
    (input : List Char) : item (c :: input) = item input := by
  rw [hitem, skipSpace_cons hc, ← hitem]

theorem PassesSpace.readItems? (hitem : PassesSpace item) (fuel : Nat) :
    PassesSpace (readItems? close item fuel) := by
  intro input
  cases fuel with
  | zero => rfl
  | succ fuel => rw [Json.readItems?, Json.readItems?, ← hitem]

/-- Parts on lines of their own are read one after another, up to the closing sign. -/
theorem readItems?_intercalate (hitem : PassesSpace item) (hcomma : close ≠ ',')
    (h : List.Forall₂ (Reads item) as parts) (hne : parts ≠ []) (hfuel : parts.length ≤ fuel)
    {tail : List Char} (htail : skipSpace tail = close :: rest) :
    readItems? close item fuel (List.intercalate [',', '\n'] parts ++ tail) = some (as, rest) := by
  induction h generalizing fuel with
  | nil => exact absurd rfl hne
  | @cons a part as parts hpart hparts ih =>
    obtain ⟨fuel, rfl⟩ : ∃ n, fuel = n + 1 := ⟨fuel - 1, by simp at hfuel; omega⟩
    cases parts with
    | nil =>
      cases hparts
      rw [List.intercalate_singleton, readItems?, hpart tail]
      simp [htail]
    | cons part' parts' =>
      have hrest := ih (by simp) (by simpa using hfuel)
      rw [List.intercalate_cons_cons, readItems?, List.append_assoc, List.append_assoc, hpart]
      have hread : readItems? close item fuel ('\n' ::
          (List.intercalate [',', '\n'] (part' :: parts') ++ tail)) = some (as, rest) := by
        rw [(hitem.readItems? fuel).cons rfl, hrest]
      simp [skipSpace_of_not_space (c := ',') rfl, hcomma.symm, hread]

theorem readItems?_eq_none (h : item input = none) (fuel : Nat) :
    readItems? close item fuel input = none := by
  cases fuel with
  | zero => rfl
  | succ fuel => rw [readItems?, h]; rfl

/-- A list is not taken for an empty one if no element starts with the closing sign. -/
theorem readList?_of_readItems? (hitem : PassesSpace item)
    (hclose : ∀ l, item (close :: l) = none)
    (h : readItems? close item fuel input = some (as, rest)) :
    readList? close item fuel input = some (as, rest) := by
  unfold readList?
  rw [if_neg, h]
  intro hhead
  obtain ⟨l, hl⟩ := List.head?_eq_some_iff.1 hhead
  have hnone : item input = none := by rw [hitem, hl, hclose]
  rw [readItems?_eq_none hnone] at h
  cases h

/-- What a bracketed list is printed as after its opening sign is read as the list. -/
theorem readList?_bracketed {opening : Char} (hitem : PassesSpace item)
    (hspace : isSpace close = false) (hcomma : close ≠ ',')
    (hclose : ∀ l, item (close :: l) = none) (h : List.Forall₂ (Reads item) as parts)
    {indent : Nat} (hfuel : parts.length ≤ fuel) (rest : List Char) :
    readList? close item fuel ((bracketed opening close indent parts).tail ++ rest) =
      some (as, rest) := by
  cases h with
  | nil => simp [bracketed, readList?, skipSpace_of_not_space hspace]
  | @cons a part as parts hpart hparts =>
    have hlines := reads_indented hitem (List.Forall₂.cons hpart hparts) (indent + 2)
    have htail : skipSpace ('\n' :: List.replicate indent ' ' ++ [close] ++ rest) =
        close :: rest := by
      rw [List.append_assoc, List.cons_append, skipSpace_cons rfl, skipSpace_replicate]
      exact skipSpace_of_not_space hspace rest
    have hitems : readItems? close item fuel
        (List.intercalate [',', '\n'] (indented (indent + 2) (part :: parts)) ++
          ('\n' :: List.replicate indent ' ' ++ [close] ++ rest)) = some (a :: as, rest) :=
      readItems?_intercalate hitem hcomma hlines (by simp [indented])
        (by simpa [indented] using hfuel) htail
    rw [← (hitem.readItems? fuel).cons (c := '\n') rfl] at hitems
    rw [bracketed_eq (by simp), List.tail_cons, List.cons_append, List.append_assoc]
    exact readList?_of_readItems? hitem hclose hitems

end Lists

/-! ## Printed values are read -/

theorem passesSpace_readValue? (fuel : Nat) : PassesSpace (readValue? fuel) := by
  intro input
  cases fuel with
  | zero => rfl
  | succ fuel => rw [readValue?, readValue?, skipSpace_skipSpace]

theorem passesSpace_readMember? (value : List Char → Option (Json × List Char)) :
    PassesSpace (readMember? value) := by
  intro input
  rw [readMember?, readMember?, skipSpace_skipSpace]

theorem Reads.member {value : List Char → Option (Json × List Char)} (hvalue : PassesSpace value)
    {v : Json} {part : List Char} (h : Reads value v part) (key : String) :
    Reads (readMember? value) (key, v) (quote key ++ ':' :: ' ' :: part) := by
  intro rest
  have hkey : readQuoted? (key.toList.flatMap escapeChar ++ '"' :: ':' :: ' ' :: (part ++ rest)) =
      some (key.toList, ':' :: ' ' :: (part ++ rest)) := readQuoted?_quote _ _
  have hv : value (' ' :: (part ++ rest)) = some (v, rest) := by rw [hvalue.cons rfl, h]
  simp [readMember?, quote, skipSpace_of_not_space (c := '"') rfl,
    skipSpace_of_not_space (c := ':') rfl, hkey, hv]

theorem sum_length_le_intercalate (sep : List α) (parts : List (List α)) :
    (parts.map List.length).sum ≤ (List.intercalate sep parts).length := by
  induction parts with
  | nil => simp
  | cons part rest ih =>
    cases rest with
    | nil => simp
    | cons part' rest' =>
      rw [List.intercalate_cons_cons, List.map_cons, List.sum_cons, List.length_append,
        List.length_append]
      omega

/-- A bracketed list is longer than each of its parts, and than the number of them. -/
theorem length_bracketed (opening closing : Char) (indent : Nat) (parts : List (List Char)) :
    (∀ part ∈ parts, part.length < (bracketed opening closing indent parts).length) ∧
      parts.length < (bracketed opening closing indent parts).length := by
  by_cases hne : parts = []
  · simp [hne, bracketed]
  · have hsum := sum_length_le_intercalate [',', '\n'] (indented (indent + 2) parts)
    have hlengths : (indented (indent + 2) parts).map List.length =
        parts.map fun part => indent + 2 + part.length := by
      simp [indented]
    rw [hlengths] at hsum
    have hlength : (bracketed opening closing indent parts).length =
        (List.intercalate [',', '\n'] (indented (indent + 2) parts)).length + (indent + 4) := by
      simp [bracketed_eq hne]
      omega
    constructor
    · intro part hpart
      have hle := List.le_sum_of_mem (List.mem_map_of_mem (f := (indent + 2 + ·.length)) hpart)
      omega
    · have hle := List.length_le_sum_of_one_le (parts.map fun part => indent + 2 + part.length)
        (List.forall_mem_map.2 fun _ _ => by omega)
      rw [List.length_map] at hle
      omega

theorem prettyElements_eq (indent : Nat) (elements : List Json) :
    prettyElements indent elements = elements.map (prettyAt indent) := by
  induction elements with
  | nil => rfl
  | cons v rest ih => rw [prettyElements, ih, List.map_cons]

theorem prettyMembers_eq (indent : Nat) (members : List (String × Json)) :
    prettyMembers indent members =
      members.map fun e => quote e.1 ++ ':' :: ' ' :: prettyAt indent e.2 := by
  induction members with
  | nil => rfl
  | cons e rest ih => rw [prettyMembers, ih, List.map_cons]

theorem readValue?_array (fuel : Nat) (input : List Char) :
    readValue? (fuel + 1) ('[' :: input) =
      (readList? ']' (readValue? fuel) fuel input).map fun (vs, rest) => (array vs, rest) :=
  rfl

theorem readValue?_object (fuel : Nat) (input : List Char) :
    readValue? (fuel + 1) ('\x7b' :: input) =
      (readList? '\x7d' (readMember? (readValue? fuel)) fuel input).map
        fun (members, rest) => (object members, rest) :=
  rfl

theorem readValue?_bracket (fuel : Nat) (l : List Char) : readValue? fuel (']' :: l) = none := by
  cases fuel <;> rfl

/-- What is printed of a plain value is read as the value. -/
theorem readValue?_prettyAt {v : Json} (h : v.IsPlain) {indent fuel : Nat}
    (hfuel : (prettyAt indent v).length ≤ fuel) :
    Reads (readValue? fuel) v (prettyAt indent v) := by
  -- each nested value is shorter, so it can be read with one step less
  induction h generalizing indent fuel with
  | bool b =>
    intro rest
    cases fuel with
    | zero => cases b <;> simp [prettyAt] at hfuel
    | succ fuel => cases b <;> rfl
  | string s =>
    intro rest
    cases fuel with
    | zero => simp [prettyAt, quote] at hfuel
    | succ fuel =>
      have hread := readQuoted?_quote s.toList rest
      simp [prettyAt, quote, readValue?, skipSpace_of_not_space (c := '"') rfl, hread]
  | @array elements _ ih =>
    intro rest
    rw [prettyAt, prettyElements_eq] at hfuel ⊢
    obtain ⟨hparts, hcount⟩ := length_bracketed '[' ']' indent
      (elements.map (prettyAt (indent + 2)))
    cases fuel with
    | zero => omega
    | succ fuel =>
      have hreads : List.Forall₂ (Reads (readValue? fuel)) elements
          (elements.map (prettyAt (indent + 2))) := by
        rw [List.forall₂_map_right_iff, List.forall₂_same]
        intro v hv
        have hlt := hparts _ (List.mem_map_of_mem hv)
        exact ih v hv (by omega)
      rw [bracketed_eq_cons, List.cons_append, readValue?_array, readList?_bracketed
        (passesSpace_readValue? fuel) rfl (by decide) (readValue?_bracket fuel) hreads (by omega)]
      rfl
  | @object members _ _ ih =>
    intro rest
    rw [prettyAt, prettyMembers_eq] at hfuel ⊢
    obtain ⟨hparts, hcount⟩ := length_bracketed '\x7b' '\x7d' indent
      (members.map fun e => quote e.1 ++ ':' :: ' ' :: prettyAt (indent + 2) e.2)
    cases fuel with
    | zero => omega
    | succ fuel =>
      have hreads : List.Forall₂ (Reads (readMember? (readValue? fuel))) members
          (members.map fun e => quote e.1 ++ ':' :: ' ' :: prettyAt (indent + 2) e.2) := by
        rw [List.forall₂_map_right_iff, List.forall₂_same]
        intro e he
        have hlt := hparts _ (List.mem_map_of_mem he)
        simp only [List.length_append, List.length_cons] at hlt
        exact (ih e he (by omega)).member (passesSpace_readValue? fuel) e.1
      rw [bracketed_eq_cons, List.cons_append, readValue?_object, readList?_bracketed
        (passesSpace_readMember? _) rfl (by decide) (fun _ => rfl) hreads (by omega)]
      rfl

/-- The text of a plain value is read as the value. -/
theorem readText?_pretty {v : Json} (h : v.IsPlain) : readText? v.pretty = some v := by
  have hread := readValue?_prettyAt h (Nat.le_refl (prettyAt 0 v).length) []
  rw [List.append_nil] at hread
  rw [readText?, pretty, String.toList_ofList, hread]
  rfl

end ApiNotes.Json
