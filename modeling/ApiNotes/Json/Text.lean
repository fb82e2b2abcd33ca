/-
JSON text.
Values are laid out over lines with an indentation of two spaces; an empty array or object stays on
its line. In texts the quote, the backslash and the characters below the space are escaped, and all
others are written as they are.
-/
import ApiNotes.Json.Basic

namespace ApiNotes.Json

/-- The digit of a number below 16, in lower case. -/
def hexDigit (n : Nat) : Char :=
  if n < 10 then Char.ofNat (n + 48) else Char.ofNat (n + 87)

/-- A character inside a quoted text. -/
def escapeChar (c : Char) : List Char :=
  match c with
  | '"' => ['\\', '"']
  | '\\' => ['\\', '\\']
  | '\n' => ['\\', 'n']
  | '\r' => ['\\', 'r']
  | '\t' => ['\\', 't']
  | c =>
    if c.toNat = 8 then ['\\', 'b']
    else if c.toNat = 12 then ['\\', 'f']
    else if c.toNat < 32 then
      ['\\', 'u', '0', '0', hexDigit (c.toNat / 16), hexDigit (c.toNat % 16)]
    else [c]

/-- A quoted text. -/
def quote (s : String) : List Char :=
  '"' :: s.toList.flatMap escapeChar ++ ['"']

/-- A bracketed list of parts, each on a line of its own that is indented by two more spaces than
the closing bracket. -/
def bracketed (opening closing : Char) (indent : Nat) (parts : List (List Char)) : List Char :=
  if parts.isEmpty then [opening, closing]
  else
    let lead := List.replicate (indent + 2) ' '
    opening :: '\n' :: List.intercalate [',', '\n'] (parts.map (lead ++ ·)) ++
      '\n' :: List.replicate indent ' ' ++ [closing]

mutual

/-- A value on a line that is indented by `indent` spaces. -/
def prettyAt (indent : Nat) : Json → List Char
  | null => "null".toList
  | bool b => (if b then "true" else "false").toList
  | number n => (toString n).toList
  | string s => quote s
  | array elements => bracketed '[' ']' indent (prettyElements (indent + 2) elements)
  | object members => bracketed '\x7b' '\x7d' indent (prettyMembers (indent + 2) members)

/-- The elements of an array. -/
def prettyElements (indent : Nat) : List Json → List (List Char)
  | [] => []
  | v :: rest => prettyAt indent v :: prettyElements indent rest

/-- The members of an object. -/
def prettyMembers (indent : Nat) : List (String × Json) → List (List Char)
  | [] => []
  | (k, v) :: rest => (quote k ++ ':' :: ' ' :: prettyAt indent v) :: prettyMembers indent rest

end

/-- A value as indented text. -/
def pretty (v : Json) : String :=
  String.ofList (prettyAt 0 v)

end ApiNotes.Json
