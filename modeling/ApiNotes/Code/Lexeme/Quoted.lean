/-
Quoted literals: texts, byte texts, zero-ended texts, characters and bytes.
A quoted text decodes escapes and skips a line break after a backslash together with the blanks
that follow it; a raw text has no escapes and ends at a quote with as many hashes as it began with.
A carriage return counts only together with a line feed. The three kinds of text differ in which
characters and escapes they admit.
-/
import ApiNotes.Code.Token
import ApiNotes.Text.Identifier

namespace ApiNotes.Code

/-- What a kind of text admits. -/
structure QuoteRules where
  /-- Characters beyond ASCII, and escapes of code points. -/
  unicode : Bool
  /-- Escapes of bytes beyond ASCII. -/
  highBytes : Bool
  /-- The character zero. -/
  zero : Bool
deriving DecidableEq, Repr

/-- The rules of plain texts and characters. -/
def plainRules : QuoteRules := ⟨true, false, true⟩

/-- The rules of byte texts and bytes. -/
def byteRules : QuoteRules := ⟨false, true, true⟩

/-- The rules of zero-ended texts. -/
def zeroEndedRules : QuoteRules := ⟨true, true, false⟩

/-! ## Escapes -/

/-- The value of a hexadecimal digit. -/
def hexDigit? (c : Char) : Option Nat :=
  if '0' ≤ c ∧ c ≤ '9' then some (c.toNat - '0'.toNat)
  else if 'a' ≤ c ∧ c ≤ 'f' then some (c.toNat - 'a'.toNat + 10)
  else if 'A' ≤ c ∧ c ≤ 'F' then some (c.toNat - 'A'.toNat + 10)
  else none

/-- The digits of a code point up to the closing brace; there are one to six, and underscores may
stand after the first. -/
def codePoint (value count : Nat) : List Char → Option (Char × List Char)
  | [] => none
  | '\x7d' :: rest =>
    if 0 < count ∧ value.isValidChar then some (Char.ofNat value, rest) else none
  | '_' :: rest => if 0 < count then codePoint value count rest else none
  | c :: rest =>
    match hexDigit? c with
    | some digit => if count < 6 then codePoint (value * 16 + digit) (count + 1) rest else none
    | none => none

/-- The character that an escape stands for, after the backslash. -/
def escaped (rules : QuoteRules) : List Char → Option (Char × List Char)
  | 'n' :: rest => some ('\n', rest)
  | 'r' :: rest => some ('\r', rest)
  | 't' :: rest => some ('\t', rest)
  | '\\' :: rest => some ('\\', rest)
  | '\'' :: rest => some ('\'', rest)
  | '"' :: rest => some ('"', rest)
  | '0' :: rest => if rules.zero then some (Char.ofNat 0, rest) else none
  | 'x' :: high :: low :: rest =>
    match hexDigit? high, hexDigit? low with
    | some h, some l =>
      let value := h * 16 + l
      if (value < 128 || rules.highBytes) && (value != 0 || rules.zero) then
        some (Char.ofNat value, rest)
      else none
    | _, _ => none
  | 'u' :: '\x7b' :: rest =>
    if rules.unicode then
      match codePoint 0 0 rest with
      | some (c, rest) => if c.toNat != 0 || rules.zero then some (c, rest) else none
      | none => none
    else none
  | _ => none

/-- Whether a kind of text admits a character. -/
def QuoteRules.admits (rules : QuoteRules) (c : Char) : Bool :=
  (rules.unicode || c.toNat < 128) && (rules.zero || c.toNat != 0)

/-! ## Texts -/

/-- Drops the blanks and line breaks after a line break that a backslash takes away. -/
def skipIndent : List Char → Option (List Char)
  | ' ' :: rest => skipIndent rest
  | '\t' :: rest => skipIndent rest
  | '\n' :: rest => skipIndent rest
  | '\r' :: '\n' :: rest => skipIndent rest
  | '\r' :: _ => none
  | rest => some rest

/-- The value of a quoted text after its opening quote, and what follows the closing one. -/
def quotedBody (rules : QuoteRules) : Nat → List Char → Option (List Char × List Char)
  | 0, _ => none
  | _ + 1, [] => none
  | _ + 1, '"' :: rest => some ([], rest)
  | fuel + 1, '\r' :: rest =>
    match rest with
    | '\n' :: rest => (quotedBody rules fuel rest).map fun (text, after) => ('\n' :: text, after)
    | _ => none
  | fuel + 1, '\\' :: rest =>
    match rest with
    | '\n' :: _ => (skipIndent rest).bind (quotedBody rules fuel)
    | '\r' :: _ => (skipIndent rest).bind (quotedBody rules fuel)
    | _ =>
      (escaped rules rest).bind fun (c, rest) =>
        (quotedBody rules fuel rest).map fun (text, after) => (c :: text, after)
  | fuel + 1, c :: rest =>
    if rules.admits c then
      (quotedBody rules fuel rest).map fun (text, after) => (c :: text, after)
    else none

/-- What follows a number of hashes. -/
def afterHashes : Nat → List Char → Option (List Char)
  | 0, rest => some rest
  | n + 1, '#' :: rest => afterHashes n rest
  | _ + 1, _ => none

/-- The value of a raw text after its opening quote, and what follows the closing hashes. -/
def rawBody (rules : QuoteRules) (hashes : Nat) : List Char → Option (List Char × List Char)
  | [] => none
  | '\r' :: '\n' :: rest =>
    (rawBody rules hashes rest).map fun (text, after) => ('\r' :: '\n' :: text, after)
  | '\r' :: _ => none
  | '"' :: rest =>
    match afterHashes hashes rest with
    | some after => some ([], after)
    | none => (rawBody rules hashes rest).map fun (text, after) => ('"' :: text, after)
  | c :: rest =>
    if rules.admits c then
      (rawBody rules hashes rest).map fun (text, after) => (c :: text, after)
    else none

/-- The largest number of hashes around a raw text. -/
def maxHashes : Nat :=
  255

/-- A raw text after its `r`. -/
def rawText (rules : QuoteRules) (text : List Char) : Option (List Char × List Char) :=
  let hashes := (text.takeWhile (· == '#')).length
  match text.drop hashes with
  | '"' :: rest => if hashes ≤ maxHashes then rawBody rules hashes rest else none
  | _ => none

/-- A quoted text after its opening quote. -/
def quotedText (rules : QuoteRules) (text : List Char) : Option (List Char × List Char) :=
  quotedBody rules (text.length + 1) text

/-- What follows a character and its closing quote, after the opening one. -/
def quotedCharacter (rules : QuoteRules) : List Char → Option (List Char)
  | '\\' :: rest =>
    match escaped rules rest with
    | some (_, '\'' :: after) => some after
    | _ => none
  | c :: '\'' :: after => if rules.admits c then some after else none
  | _ => none

/-! ## Literals -/

/-- A name that is not raw, and what follows it. -/
def plainName? : List Char → Option (List Char × List Char)
  | c :: rest =>
    if Text.isIdentifierStart c then
      some (c :: rest.takeWhile Text.isIdentifierContinue,
        rest.dropWhile Text.isIdentifierContinue)
    else none
  | [] => none

/-- Drops the suffix of a literal, which may be missing. -/
def dropSuffix (text : List Char) : List Char :=
  match plainName? text with
  | some (_, rest) => rest
  | none => text

/-- A quoted literal at the start of a text, and what follows it. -/
def quotedLiteral? (text : List Char) : Option (Literal × List Char) :=
  let finish (make : List Char → Literal) (read : Option (List Char × List Char)) :=
    read.map fun (value, rest) => (make value, dropSuffix rest)
  match text with
  | '"' :: rest => finish (fun v => .text (.ofList v)) (quotedText plainRules rest)
  | 'r' :: rest => finish (fun v => .text (.ofList v)) (rawText plainRules rest)
  | 'b' :: '"' :: rest => finish (fun _ => .byteText) (quotedText byteRules rest)
  | 'b' :: 'r' :: rest => finish (fun _ => .byteText) (rawText byteRules rest)
  | 'c' :: '"' :: rest => finish (fun _ => .zeroText) (quotedText zeroEndedRules rest)
  | 'c' :: 'r' :: rest => finish (fun _ => .zeroText) (rawText zeroEndedRules rest)
  | 'b' :: '\'' :: rest =>
    (quotedCharacter byteRules rest).map fun rest => (.byte, dropSuffix rest)
  | '\'' :: rest =>
    (quotedCharacter plainRules rest).map fun rest => (.character, dropSuffix rest)
  | _ => none

end ApiNotes.Code
