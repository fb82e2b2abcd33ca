/-
Texts as YAML scalars.
A text is written in one of four forms. Without a line feed it stands bare where that is allowed
and reads as text, otherwise in single quotes; with a line feed it is a literal block. A text that
the form in question cannot hold goes into double quotes, which hold every text.
-/
import ApiNotes.Yaml.Meaning

namespace ApiNotes.Yaml

/-! ## Characters -/

/-- Characters that end a line. -/
def isBreak (c : Char) : Bool :=
  c == '\n' || c == '\r' || c.toNat == 0x85 || c.toNat == 0x2028 || c.toNat == 0x2029

/-- Characters that separate: space, tab, line ends and NUL. -/
def isSeparator (c : Char) : Bool :=
  c == ' ' || c == '\t' || isBreak c || c.toNat == 0

/-- Characters that are written as they are. -/
def isPrintable (c : Char) : Bool :=
  let n := c.toNat
  n == 0xa || (0x20 ≤ n && n ≤ 0x7e) || (0xa0 ≤ n && n ≤ 0xd7ff) ||
    (0xe000 ≤ n && n ≤ 0xfffd && n != 0xfeff) || (0x10000 ≤ n && n ≤ 0x10ffff)

/-- Characters that cannot start a bare text. -/
def isIndicator (c : Char) : Bool :=
  "#,[]\x7b\x7d&*!|>'\"%@`".toList.contains c

/-! ## What a form can hold -/

/-- Whether a text holds a character that is not printable. -/
def hasSpecial (text : List Char) : Bool :=
  text.any (!isPrintable ·)

/-- Whether a space stands directly before a line end. -/
def hasSpaceBreak : List Char → Bool
  | [] => false
  | c :: rest => (c == ' ' && rest.head?.any isBreak) || hasSpaceBreak rest

/-- Whether a space stands directly after a line end. -/
def hasBreakSpace : List Char → Bool
  | [] => false
  | c :: rest => (isBreak c && rest.head? == some ' ') || hasBreakSpace rest

/-- Whether a separator or the end of the text comes next. -/
def atSeparator (rest : List Char) : Bool :=
  rest.head?.all isSeparator

/-- Whether the first character of a text gives a bare text another meaning. -/
def hasOpeningIndicator : List Char → Bool
  | [] => false
  | c :: rest =>
    isIndicator c || ((c == '?' || c == ':' || c == '-') && atSeparator rest)

/-- Whether a colon before a separator, or a hash after one, stands after the first character;
`before` is the character in front of the rest. -/
def hasInnerIndicator (before : Char) : List Char → Bool
  | [] => false
  | c :: rest =>
    (c == ':' && atSeparator rest) || (c == '#' && isSeparator before) || hasInnerIndicator c rest

/-- Whether a text can stand bare. -/
def plainAllowed (text : List Char) : Bool :=
  !text.isEmpty && !"---".toList.isPrefixOf text && !"...".toList.isPrefixOf text &&
    !hasOpeningIndicator text && !(match text with
      | [] => false
      | c :: rest => hasInnerIndicator c rest) &&
    text.head? != some ' ' && text.getLast? != some ' ' && !text.any isBreak && !hasSpecial text

/-- Whether a text can stand in single quotes. -/
def singleQuotedAllowed (text : List Char) : Bool :=
  !hasSpecial text && !hasSpaceBreak text && !hasBreakSpace text

/-- Whether a text can stand as a literal block. -/
def literalAllowed (text : List Char) : Bool :=
  text.getLast? != some ' ' && !hasSpaceBreak text && !hasSpecial text

/-- The forms of a scalar. -/
inductive Style where
  | plain
  | singleQuoted
  | doubleQuoted
  | literal
deriving DecidableEq, Repr

/-- The form in which a text is written. -/
def styleOf (text : String) : Style :=
  let chars := text.toList
  if chars.contains '\n' then
    if literalAllowed chars then .literal else .doubleQuoted
  else if plainAllowed chars && !isAmbiguous text then .plain
  else if singleQuotedAllowed chars then .singleQuoted
  else .doubleQuoted

/-! ## Writing -/

/-- Spaces. -/
def spaces (n : Nat) : List Char :=
  List.replicate n ' '

/-- Writes a text over lines: what follows a line end is indented, and so is the first line if
`fresh`. -/
def writeLines (indent : Nat) (fresh : Bool) : List Char → List Char
  | [] => []
  | c :: rest =>
    if isBreak c then c :: writeLines indent true rest
    else (if fresh then spaces indent else []) ++ c :: writeLines indent false rest

/-- Writes each single quote twice. -/
def doubleQuotes (text : List Char) : List Char :=
  text.flatMap fun c => if c = '\'' then ['\'', '\''] else [c]

/-- A text in single quotes. -/
def singleQuoted (indent : Nat) (text : List Char) : List Char :=
  '\'' :: writeLines indent false (doubleQuotes text) ++ ['\'']

/-- The digit of a number below 16, in upper case. -/
def upperHexDigit (n : Nat) : Char :=
  if n < 10 then Char.ofNat (n + 48) else Char.ofNat (n + 55)

/-- The last `width` hexadecimal digits of a number. -/
def hexDigits : (width : Nat) → Nat → List Char
  | 0, _ => []
  | width + 1, n => hexDigits width (n / 16) ++ [upperHexDigit (n % 16)]

/-- The short escapes of double quotes. -/
def shortEscapes : List (Nat × Char) :=
  [(0x0, '0'), (0x7, 'a'), (0x8, 'b'), (0x9, 't'), (0xa, 'n'), (0xb, 'v'), (0xc, 'f'),
   (0xd, 'r'), (0x1b, 'e'), (0x22, '"'), (0x5c, '\\'), (0x85, 'N'), (0x2028, 'L'), (0x2029, 'P')]

/-- A character in double quotes: quotes, backslashes, line ends and unprintable characters are
escaped. -/
def escapeChar (c : Char) : List Char :=
  if isPrintable c && !isBreak c && c != '"' && c != '\\' then [c]
  else
    match shortEscapes.lookup c.toNat with
    | some e => ['\\', e]
    | none =>
      if c.toNat ≤ 0xff then '\\' :: 'x' :: hexDigits 2 c.toNat
      else if c.toNat ≤ 0xffff then '\\' :: 'u' :: hexDigits 4 c.toNat
      else '\\' :: 'U' :: hexDigits 8 c.toNat

/-- A text in double quotes. -/
def doubleQuoted (text : List Char) : List Char :=
  '"' :: text.flatMap escapeChar ++ ['"']

/-- What the head of a literal block says: the indentation if the first line does not show it, and
what becomes of the line ends at the end of the text. -/
def literalHints (text : List Char) : List Char :=
  let depth := if text.head?.any (fun c => c == ' ' || isBreak c) then ['2'] else []
  let chomp :=
    match text.reverse with
    | [] => ['-']
    | last :: before =>
      if !isBreak last then ['-']
      else if before.head?.all isBreak then ['+']
      else []
  depth ++ chomp

/-- A text as a literal block. -/
def literal (indent : Nat) (text : List Char) : List Char :=
  '|' :: literalHints text ++ '\n' :: writeLines indent true text

/-- A text as a scalar inside a node that is indented by `indent`. -/
def scalar (indent : Nat) (text : String) : List Char :=
  match styleOf text with
  | .plain => text.toList
  | .singleQuoted => singleQuoted (indent + 2) text.toList
  | .doubleQuoted => doubleQuoted text.toList
  | .literal => literal (indent + 2) text.toList

end ApiNotes.Yaml
