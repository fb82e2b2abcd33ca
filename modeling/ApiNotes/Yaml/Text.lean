/-
YAML text in block style.
A mapping inside a mapping is indented by two more spaces, a list inside a mapping is not, and what
follows a dash starts on the line of the dash. Empty mappings and lists are written as brackets. A
key that has a line end or more than 128 bytes is written after a question mark, and its value
after a colon on a line of its own.
-/
import ApiNotes.Json.Basic
import ApiNotes.Yaml.Scalar

namespace ApiNotes.Yaml

/-- Ends the last line of a text, unless it has ended. -/
def closeLine (text : List Char) : List Char :=
  if text.getLast?.any isBreak then text else text ++ ['\n']

/-- Whether a key stands on one line with its value. -/
def isSimpleKey (key : String) : Bool :=
  !key.toList.any isBreak && key.utf8ByteSize ≤ 128

/-- A value that takes no lines of its own. -/
def leaf (indent : Nat) : Json → List Char
  | .null => "null".toList
  | .bool b => (if b then "true" else "false").toList
  | .number n => (toString n).toList
  | .string s => scalar indent s
  | .array _ => "[]".toList
  | .object _ => "\x7b\x7d".toList

mutual

/-- A value after a dash or a lone colon, in a node that is indented by `indent`. -/
def node (indent : Nat) : Json → List Char
  | .array elements =>
    if elements.isEmpty then leaf indent (.array []) else sequence (indent + 2) elements
  | .object members =>
    if members.isEmpty then leaf indent (.object []) else mapping (indent + 2) members
  | v => leaf indent v

/-- What follows the colon of a simple key. -/
def afterKey (indent : Nat) : Json → List Char
  | .array elements =>
    if elements.isEmpty then ' ' :: leaf indent (.array [])
    else '\n' :: spaces indent ++ sequence indent elements
  | .object members =>
    if members.isEmpty then ' ' :: leaf indent (.object [])
    else '\n' :: spaces (indent + 2) ++ mapping (indent + 2) members
  | v => ' ' :: leaf indent v

/-- The elements of a list; the indentation of the first line is left to the context. -/
def sequence (indent : Nat) : List Json → List Char
  | [] => []
  | v :: rest =>
    closeLine ('-' :: ' ' :: node indent v) ++
      (if rest.isEmpty then [] else spaces indent ++ sequence indent rest)

/-- The members of a mapping; the indentation of the first line is left to the context. -/
def mapping (indent : Nat) : List (String × Json) → List Char
  | [] => []
  | (key, v) :: rest =>
    closeLine
      (if isSimpleKey key then scalar indent key ++ ':' :: afterKey indent v
      else closeLine ('?' :: ' ' :: scalar indent key) ++ spaces indent ++ ':' :: ' ' ::
        node indent v) ++
      (if rest.isEmpty then [] else spaces indent ++ mapping indent rest)

end

/-- A value as a document. -/
def render : Json → String
  | .array elements =>
    String.ofList (if elements.isEmpty then closeLine (leaf 0 (.array [])) else sequence 0 elements)
  | .object members =>
    String.ofList (if members.isEmpty then closeLine (leaf 0 (.object [])) else mapping 0 members)
  | v => String.ofList (closeLine (leaf 0 v))

end ApiNotes.Yaml
