/-
What stands between tokens: white space and comments.
A comment that documents the item after it, or the item around it, is not skipped: it counts as an
attribute. Block comments nest. Text direction marks count as white space.
-/
import ApiNotes.Text.Blank

namespace ApiNotes.Code

/-- A character that separates tokens. -/
def isSeparator (c : Char) : Bool :=
  Text.isBlank c || c == '\u200e' || c == '\u200f'

/-- The text of a block comment after its start, up to where the last of `depth` open comments
ends, and what follows. -/
def blockComment : Nat → List Char → Option (List Char × List Char)
  | _, [] => none
  | depth, '/' :: '*' :: rest =>
    (blockComment (depth + 1) rest).map fun (text, after) => ('/' :: '*' :: text, after)
  | depth, '*' :: '/' :: rest =>
    if depth ≤ 1 then some ([], rest)
    else (blockComment (depth - 1) rest).map fun (text, after) => ('*' :: '/' :: text, after)
  | depth, c :: rest => (blockComment depth rest).map fun (text, after) => (c :: text, after)

/-- The rest of a line without its line end, and what follows, from the line feed on. -/
def lineComment : List Char → List Char × List Char
  | [] => ([], [])
  | '\n' :: rest => ([], '\n' :: rest)
  | '\r' :: '\n' :: rest => ([], '\n' :: rest)
  | c :: rest =>
    let (text, after) := lineComment rest
    (c :: text, after)

/-- A comment that documents something: its text, whether it documents what is around it, and what
follows. -/
def docComment? : List Char → Option (List Char × Bool × List Char)
  | '/' :: '/' :: '!' :: rest =>
    let (text, after) := lineComment rest
    some (text, true, after)
  | '/' :: '*' :: '!' :: rest => (blockComment 1 rest).map fun (text, after) => (text, true, after)
  | '/' :: '/' :: '/' :: '/' :: _ => none
  | '/' :: '/' :: '/' :: rest =>
    let (text, after) := lineComment rest
    some (text, false, after)
  | '/' :: '*' :: '*' :: '*' :: _ => none
  | '/' :: '*' :: '*' :: '/' :: _ => none
  | '/' :: '*' :: '*' :: rest => (blockComment 1 rest).map fun (text, after) => (text, false, after)
  | _ => none

/-- What follows a comment that documents nothing. -/
def plainComment? : List Char → Option (List Char)
  | '/' :: '/' :: rest =>
    match rest with
    | '!' :: _ => none
    | '/' :: '/' :: _ => some (lineComment rest).2
    | '/' :: _ => none
    | _ => some (lineComment rest).2
  | '/' :: '*' :: rest =>
    match rest with
    | '!' :: _ => none
    | '*' :: '/' :: after => some after
    | '*' :: '*' :: _ => (blockComment 1 rest).map Prod.snd
    | '*' :: _ => none
    | _ => (blockComment 1 rest).map Prod.snd
  | _ => none

/-- Drops white space and plain comments, at most `fuel` of them. -/
def dropBlanks : Nat → List Char → List Char
  | 0, text => text
  | fuel + 1, text =>
    match plainComment? text with
    | some after => dropBlanks fuel after
    | none =>
      match text with
      | c :: rest => if isSeparator c then dropBlanks fuel rest else text
      | [] => []

/-- Drops white space and plain comments at the start. -/
def skipBlanks (text : List Char) : List Char :=
  dropBlanks text.length text

/-- Whether a carriage return stands without a line feed after it. -/
def hasLoneReturn : List Char → Bool
  | [] => false
  | '\r' :: '\n' :: rest => hasLoneReturn rest
  | '\r' :: _ => true
  | _ :: rest => hasLoneReturn rest

end ApiNotes.Code
