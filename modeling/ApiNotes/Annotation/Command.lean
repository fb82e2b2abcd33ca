/-
One annotation, and the place in the sources where it stands.
-/
import ApiNotes.Annotation.Kind

namespace ApiNotes

/-- A line of a source file; the first line has number 1. -/
structure Location where
  file : String
  line : Nat
deriving DecidableEq, Repr

/-- A location as diagnostics cite it: `file:line`. -/
def Location.text (l : Location) : String :=
  l.file ++ ":" ++ toString l.line

/-- What stands before a diagnostic about an annotation: its location, if it has one. -/
def Location.lead : Option Location → String
  | some l => l.text ++ ": "
  | none => ""

/-- One annotation. A command without an API is meant for all of them. -/
structure Command where
  kind : Kind
  args : List String
  api : Option String
  location : Option Location
deriving DecidableEq, Repr

namespace Command

/-- The arguments from number `start` on, joined by single spaces. -/
def textFrom (c : Command) (start : Nat) : String :=
  " ".intercalate (c.args.drop start)

/-- The API that a command addresses: the one it names, or the first argument of a `url` command
that names none and has two arguments. -/
def target (c : Command) : Option String :=
  match c.api, c.kind, c.args with
  | some api, _, _ => some api
  | none, .url, [api, _] => some api
  | _, _, _ => none

end Command

end ApiNotes
