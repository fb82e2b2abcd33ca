/-
From source text to tokens.
A text is first cut into lexemes: tokens, and the brackets that open and close groups. Literals are
tried first, then marks and lifetimes, then words. Then the brackets are matched, each with the one
of its own kind.
-/
import ApiNotes.Code.Lexeme.Blank
import ApiNotes.Code.Lexeme.Number

namespace ApiNotes.Code

/-- A token, or one end of a group. -/
inductive Lexeme where
  | token (t : Token)
  | opening (d : Delimiter)
  | closing (d : Delimiter)
deriving Repr

/-! ## Words and marks -/

/-- The words that cannot be written raw. -/
def neverRaw : List String :=
  ["_", "super", "self", "Self", "crate"]

/-- A word at the start of a text, and what follows it. -/
def word? (text : List Char) : Option (String × List Char) :=
  match text with
  | 'r' :: '#' :: raw =>
    match plainName? raw with
    | some (name, rest) =>
      if neverRaw.contains (String.ofList name) then none
      else some ("r#" ++ String.ofList name, rest)
    | none => none
  | _ => (plainName? text).map fun (name, rest) => (String.ofList name, rest)

/-- What a quoted literal may start with; no word starts like that. -/
def literalStarts : List String :=
  ["r\"", "r#\"", "r##", "b\"", "b'", "br\"", "br#", "c\"", "cr\"", "cr#"]

/-- Whether a text starts like a quoted literal. -/
def startsLiteral (text : List Char) : Bool :=
  literalStarts.any fun start => start.toList.isPrefixOf text

/-- The punctuation characters. -/
def markChars : List Char :=
  ['~', '!', '@', '#', '$', '%', '^', '&', '*', '-', '=', '+', '|', ';', ':', ',', '<', '.', '>',
   '/', '?', '\'']

/-- Whether a text starts with a mark; a comment does not. -/
def startsMark : List Char → Bool
  | '/' :: '/' :: _ => false
  | '/' :: '*' :: _ => false
  | c :: _ => markChars.contains c
  | [] => false

/-- The word after a quote that closes no character, and what follows it. -/
def unclosedWord? (text : List Char) : Option (String × List Char) :=
  match word? text with
  | some (name, rest) =>
    match rest with
    | '\'' :: _ => none
    | '#' :: _ => if "r#".toList.isPrefixOf text then some (name, rest) else none
    | _ => some (name, rest)
  | none => none

/-- A lifetime after its quote, and what follows it. Where a literal starts with the same
characters, the quote stands alone. -/
def lifetime? (text : List Char) : Option (Token × List Char) :=
  match unclosedWord? text with
  | some (name, rest) =>
    some (if startsLiteral text then (.mark '\'' true, text) else (.lifetime name, rest))
  | none => none

/-! ## Lexemes -/

/-- The attribute that a documenting comment stands for. -/
def docAttribute (text : List Char) (inner : Bool) : List Lexeme :=
  let content : List Token := [.word "doc", .mark '=' false, .literal (.text (.ofList text))]
  let lead := if inner then [Token.mark '#' true, .mark '!' false] else [.mark '#' false]
  (lead ++ [Token.group .bracket content]).map .token

/-- The bracket that a character is. -/
def bracket? : Char → Option Lexeme
  | '(' => some (.opening .parenthesis)
  | '[' => some (.opening .bracket)
  | '\x7b' => some (.opening .brace)
  | ')' => some (.closing .parenthesis)
  | ']' => some (.closing .bracket)
  | '\x7d' => some (.closing .brace)
  | _ => none

/-- The token at the start of a text, and what follows it. -/
def token? (text : List Char) : Option (Token × List Char) :=
  match quotedLiteral? text with
  | some (l, rest) => some (.literal l, rest)
  | none =>
    match number? text with
    | some (l, rest) => some (.literal l, rest)
    | none =>
      if startsMark text then
        match text with
        | '\'' :: rest => lifetime? rest
        | c :: rest => some (.mark c (startsMark rest), rest)
        | [] => none
      else if startsLiteral text then none
      else (word? text).map fun (w, rest) => (.word w, rest)

/-- The mark of a failed expansion. Written in any other way it is a pair of parentheses. -/
def failedExpansionMark : List Char :=
  "(/*ERROR*/)".toList

/-- The lexemes at the start of a text, and what follows them. A documenting comment gives
several. -/
def lexeme? (text : List Char) : Option (List Lexeme × List Char) :=
  match docComment? text with
  | some (comment, inner, rest) =>
    if hasLoneReturn comment then none else some (docAttribute comment inner, rest)
  | none =>
    if failedExpansionMark.isPrefixOf text then
      some ([.token (.literal .failedExpansion)], text.drop failedExpansionMark.length)
    else
      match text with
      | [] => none
      | c :: rest =>
        match bracket? c with
        | some l => some ([l], rest)
        | none => (token? text).map fun (t, rest) => ([.token t], rest)

/-- All lexemes of a text of at most `fuel` characters. -/
def lexemesOf : Nat → List Char → Option (List Lexeme)
  | 0, _ => none
  | fuel + 1, text =>
    match dropBlanks fuel text with
    | [] => some []
    | text =>
      match lexeme? text with
      | some (first, rest) => (lexemesOf fuel rest).map (first ++ ·)
      | none => none

/-! ## Groups -/

/-- Matches the brackets of a list of lexemes. `outer` holds the open groups, innermost first, each
with the tokens before it, and `done` the tokens of the innermost group; the last token comes first
in both. -/
def matchBrackets (outer : List (Delimiter × List Token)) (done : List Token) :
    List Lexeme → Option (List Token)
  | [] => if outer.isEmpty then some done.reverse else none
  | .token t :: rest => matchBrackets outer (t :: done) rest
  | .opening d :: rest => matchBrackets ((d, done) :: outer) [] rest
  | .closing d :: rest =>
    match outer with
    | (d', before) :: outer =>
      if d = d' then matchBrackets outer (.group d done.reverse :: before) rest else none
    | [] => none

/-- The byte order mark. -/
def byteOrderMark : Char := '\ufeff'

/-- The text without a byte order mark at its start. -/
def dropByteOrderMark : List Char → List Char
  | c :: rest => if c = byteOrderMark then rest else c :: rest
  | [] => []

/-- The tokens of a source text. -/
def tokensOf (text : List Char) : Option (List Token) :=
  let text := dropByteOrderMark text
  (lexemesOf (text.length + 1) text).bind (matchBrackets [] [])

end ApiNotes.Code
