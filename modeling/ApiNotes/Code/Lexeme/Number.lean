/-
Number literals.
A number with a point or an exponent is a decimal; any other is an integer, in base ten or after
`0x`, `0o` or `0b`. A point that is followed by another point or by a name does not belong to the
number. A suffix may follow, and nothing else that could continue a name.
-/
import ApiNotes.Code.Lexeme.Quoted

namespace ApiNotes.Code

/-! ## Parts -/

/-- A decimal digit. -/
def isDigit (c : Char) : Bool :=
  '0' ≤ c && c ≤ '9'

/-- A decimal digit or an underscore. -/
def isDigitOrGap (c : Char) : Bool :=
  isDigit c || c == '_'

/-- Whether a character that cannot continue a name comes next, or nothing. -/
def atWordEnd : List Char → Bool
  | [] => true
  | c :: _ => !Text.isIdentifierContinue c

/-- The suffix of a number, which may be empty, and what follows. -/
def numberSuffix (text : List Char) : List Char × List Char :=
  (plainName? text).getD ([], text)

/-! ## Integers -/

/-- The value of the digits of a base at the start of a text, how many characters there are and
what follows; `started` tells whether there was a digit before. -/
def digitsOf (base : Nat) : Nat → Bool → List Char → Option (Nat × Bool × List Char)
  | value, started, c :: rest =>
    if c == '_' then
      if !started && base == 10 then none else digitsOf base value started rest
    else
      match hexDigit? c with
      | some digit =>
        if digit < base then digitsOf base (value * base + digit) true rest
        else if isDigit c then none
        else some (value, started, c :: rest)
      | none => some (value, started, c :: rest)
  | value, started, [] => some (value, started, [])

/-- The base of an integer, and its digits. -/
def baseOf : List Char → Nat × List Char
  | '0' :: 'x' :: rest => (16, rest)
  | '0' :: 'o' :: rest => (8, rest)
  | '0' :: 'b' :: rest => (2, rest)
  | text => (10, text)

/-- An integer at the start of a text, and what follows it. -/
def integer? (text : List Char) : Option (Literal × List Char) :=
  let (base, digits) := baseOf text
  match digitsOf base 0 false digits with
  | some (value, true, rest) =>
    let (suffix, rest) := numberSuffix rest
    if atWordEnd rest then some (.integer value (.ofList suffix), rest) else none
  | _ => none

/-! ## Decimals -/

/-- What follows the sign and digits of an exponent, if there are digits. -/
def exponent? (text : List Char) : Option (List Char) :=
  let unsigned := text.dropWhile (· == '_')
  let digits := match unsigned with
    | '+' :: rest => rest
    | '-' :: rest => rest
    | rest => rest
  let spelled := digits.takeWhile isDigitOrGap
  if spelled.any isDigit then some (digits.dropWhile isDigitOrGap) else none

/-- What follows the exponent of a number, or the text itself if it starts with none. -/
def dropExponent : List Char → List Char
  | 'e' :: after => (exponent? after).getD ('e' :: after)
  | 'E' :: after => (exponent? after).getD ('E' :: after)
  | text => text

/-- What follows the digits of a decimal: digits with a point, an exponent, or both. Without its
digits an exponent belongs to the suffix, where a point stands before it. -/
def afterDecimal? (text : List Char) : Option (List Char) :=
  match text.dropWhile isDigitOrGap with
  | '.' :: rest =>
    if rest.head?.any fun c => c == '.' || Text.isIdentifierStart c then none
    else some (dropExponent (rest.dropWhile isDigitOrGap))
  | 'e' :: after => exponent? after
  | 'E' :: after => exponent? after
  | _ => none

/-- A decimal at the start of a text, and what follows it. -/
def decimal? (text : List Char) : Option (Literal × List Char) :=
  match text with
  | c :: _ =>
    if isDigit c then
      match afterDecimal? text with
      | some rest =>
        let (_, rest) := numberSuffix rest
        if atWordEnd rest then
          some (.decimal (.ofList (text.take (text.length - rest.length))), rest)
        else none
      | none => none
    else none
  | [] => none

/-- A number at the start of a text, and what follows it. -/
def number? (text : List Char) : Option (Literal × List Char) :=
  match decimal? text with
  | some found => some found
  | none => integer? text

end ApiNotes.Code
