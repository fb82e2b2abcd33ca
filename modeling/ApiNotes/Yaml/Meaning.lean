/-
Texts that mean something else when they stand unquoted in YAML.
A bare word may be a null, a truth value, an integer or a float. A text that reads as one of these
is written in quotes, and so is a row of digits that starts with a zero.
-/

namespace ApiNotes.Yaml

/-- Spellings of null. -/
def nullWords : List String :=
  ["", "~", "null", "Null", "NULL"]

/-- Spellings of the truth values. -/
def boolWords : List String :=
  ["true", "True", "TRUE", "false", "False", "FALSE"]

/-- Spellings of the numbers that are not finite. -/
def nonFiniteWords : List String :=
  [".inf", ".Inf", ".INF", "+.inf", "+.Inf", "+.INF", "-.inf", "-.Inf", "-.INF",
   ".nan", ".NaN", ".NAN"]

/-! ## Integers -/

/-- The value of a digit in a base of at most sixteen. -/
def digitValue? (base : Nat) (c : Char) : Option Nat :=
  let value :=
    if '0' ≤ c ∧ c ≤ '9' then c.toNat - 48
    else if 'a' ≤ c ∧ c ≤ 'f' then c.toNat - 87
    else if 'A' ≤ c ∧ c ≤ 'F' then c.toNat - 55
    else base
  if value < base then some value else none

/-- The value of a non-empty row of digits. -/
def natural? (base : Nat) (digits : List Char) : Option Nat :=
  if digits.isEmpty then none
  else digits.foldlM (fun n c => (digitValue? base c).map (base * n + ·)) 0

/-- The value of an integer without its sign: digits, or `0x`, `0o`, `0b` and digits of that
base. -/
def magnitude? : List Char → Option Nat
  | '0' :: 'x' :: digits => natural? 16 digits
  | '0' :: 'o' :: digits => natural? 8 digits
  | '0' :: 'b' :: digits => natural? 2 digits
  | digits => natural? 10 digits

/-- Whether a text is an integer that fits into 128 bits: unsigned, or signed after a minus. -/
def isInteger : List Char → Bool
  | '-' :: rest => (magnitude? rest).any (· ≤ Nat.pow 2 127)
  | '+' :: rest => (magnitude? rest).any (· < Nat.pow 2 128)
  | text => (magnitude? text).any (· < Nat.pow 2 128)

/-! ## Floats -/

/-- Whether a character is a decimal digit. -/
def isDigit (c : Char) : Bool :=
  '0' ≤ c && c ≤ '9'

/-- The exponent of a decimal: nothing, or `e`, an optional sign and digits. -/
def exponent? : List Char → Option Int
  | [] => some 0
  | c :: rest =>
    if c = 'e' ∨ c = 'E' then
      match rest with
      | '-' :: digits => (natural? 10 digits).map fun n => -(n : Int)
      | '+' :: digits => (natural? 10 digits).map fun n => (n : Int)
      | digits => (natural? 10 digits).map fun n => (n : Int)
    else none

/-- Whether `digits · 10 ^ exponent` is below the least value that rounds to infinity in a 64 bit
float. Far from that value the number of digits decides. -/
def isFinite (digits : List Char) (exponent : Int) : Bool :=
  let significant := digits.dropWhile (· == '0')
  let places := (significant.length : Int) + exponent
  if significant.isEmpty || places < 300 then true
  else if 310 < places then false
  else
    let value := (natural? 10 significant).getD 0
    let bound := Nat.pow 2 1024 - Nat.pow 2 970
    match exponent with
    | .ofNat e => value * Nat.pow 10 e < bound
    | .negSucc e => value < bound * Nat.pow 10 (e + 1)

/-- Whether a text without sign is a decimal with a finite value: digits on at least one side of an
optional point, and an optional exponent. -/
def isDecimal (text : List Char) : Bool :=
  let whole := text.takeWhile isDigit
  let rest := text.dropWhile isDigit
  let fraction :=
    match rest with
    | '.' :: more => more.takeWhile isDigit
    | _ => []
  let tail :=
    match rest with
    | '.' :: more => more.dropWhile isDigit
    | _ => rest
  if whole.isEmpty && fraction.isEmpty then false
  else (exponent? tail).any fun e => isFinite (whole ++ fraction) (e - fraction.length)

/-- Whether a text is a float with a finite value. -/
def isFloat : List Char → Bool
  | '+' :: rest => isDecimal rest
  | '-' :: rest => isDecimal rest
  | text => isDecimal text

/-- Whether a text is a row of at least two digits, the first of them zero, after an optional
sign. -/
def isZeroLed (text : List Char) : Bool :=
  let unsigned :=
    match text with
    | '-' :: rest => rest
    | '+' :: rest => rest
    | _ => text
  match unsigned with
  | '0' :: c :: rest => (c :: rest).all isDigit
  | _ => false

/-- Whether a text would not read as text if it stood unquoted. -/
def isAmbiguous (text : String) : Bool :=
  nullWords.contains text || boolWords.contains text || nonFiniteWords.contains text ||
    isInteger text.toList || isFloat text.toList || isZeroLed text.toList

end ApiNotes.Yaml
