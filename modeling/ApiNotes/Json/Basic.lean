/-
JSON values.
The members of an object are kept in the order in which they are written.
-/

namespace ApiNotes

/-- A JSON value. -/
inductive Json where
  | null
  | bool (b : Bool)
  | number (n : Int)
  | string (s : String)
  | array (elements : List Json)
  | object (members : List (String × Json))
deriving Inhabited, Repr

namespace Json

/-! ## Writing values -/

/-- A list of texts. -/
def strings (l : List String) : Json :=
  array (l.map string)

/-- A member that is always written. -/
def member (key : String) (value : Json) : List (String × Json) :=
  [(key, value)]

/-- A member that is left out when there is no value. -/
def optional (key : String) (value : Option Json) : List (String × Json) :=
  (value.map fun v => (key, v)).toList

/-- A member that is left out when its value is empty. -/
def unlessEmpty (key : String) (empty : Bool) (value : Json) : List (String × Json) :=
  if empty then [] else [(key, value)]

/-! ## Reading values

A record is read from an object, whose members may come in any order beside others, or from an
array that holds the leading members in the order of their declaration. -/

/-- A look-up of the members of a record with the given member names. -/
def record? (names : List String) : Json → Option (String → Option Json)
  | object members => some (List.lookup · members)
  | array elements =>
    if elements.length ≤ names.length then some (List.lookup · (names.zip elements)) else none
  | _ => none

/-- A text. -/
def string? : Json → Option String
  | string s => some s
  | _ => none

/-- A truth value. -/
def bool? : Json → Option Bool
  | bool b => some b
  | _ => none

/-- A list whose elements can all be read. -/
def list? {α : Type} (read : Json → Option α) : Json → Option (List α)
  | array elements => elements.mapM read
  | _ => none

/-- An object read as a map whose values can all be read. -/
def entries? {α : Type} (read : Json → Option α) : Json → Option (List (String × α))
  | object members => members.mapM fun (k, v) => (read v).map fun a => (k, a)
  | _ => none

/-- A value that may be missing or `null`. -/
def nullable? {α : Type} (read : Json → Option α) : Option Json → Option (Option α)
  | none | some null => some none
  | some v => (read v).map some

/-- A value that may be missing. -/
def orDefault? {α : Type} (fallback : α) (read : Json → Option α) : Option Json → Option α
  | none => some fallback
  | some v => read v

end Json

end ApiNotes
