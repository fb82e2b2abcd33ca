/-
What can go wrong for good.
A failure is a cause with the data its message cites; the wording of every message is in this
module. A fault in the annotations of an API ends the run, and so do a source that cannot be read,
a source that is not valid Rust, and schemas that do not settle.
-/
import ApiNotes.Annotation.Command

namespace ApiNotes

/-! ## Faults in annotations -/

/-- A legal number of arguments, as messages put it. -/
inductive Arity where
  | one
  | two
  | atLeastOne
  | atLeastTwo
  | atMostOne
  /-- The arguments of `url`. -/
  | oneOrUnnamedTwo
deriving DecidableEq, Repr

/-- The number of arguments in words. -/
def Arity.text : Arity → String
  | one => "1"
  | two => "2"
  | atLeastOne => "at least 1"
  | atLeastTwo => "at least 2"
  | atMostOne => "0 or 1"
  | oneOrUnnamedTwo => "1, or 2 without an alias"

/-- Ways in which a command does not fit the commands before it, or has the wrong arguments. -/
inductive Fault where
  | nestedBegin (id current : String)
  | unmatchedEnd
  | endMismatch (current found : String)
  | wrongArity (kind : Kind) (expected : Arity) (found : Nat)
  | noOpenHandler (kind : Kind)
  | notAllowedInHandler (kind : Kind) (current : String)
  | noServer
  | unclosedHandler (id : String)
  | emptyTypeReference (kind : Kind) (token : String)
deriving DecidableEq, Repr

/-- A fault in words. -/
def Fault.message : Fault → String
  | nestedBegin id current => s!"'begin {id}' while handler '{current}' is still open"
  | unmatchedEnd => "'end' without an open handler"
  | endMismatch current found => s!"'end {found}' does not close the open handler '{current}'"
  | wrongArity kind expected found =>
    "invalid number of arguments for '" ++ kind.keyword ++ "': expected " ++ expected.text ++
      s!", found {found}"
  | noOpenHandler kind => "'" ++ kind.keyword ++ "' outside of a begin/end block"
  | notAllowedInHandler kind current =>
    "'" ++ kind.keyword ++ s!"' is not allowed inside handler '{current}'"
  | noServer => "'urlvar' before any 'url'"
  | unclosedHandler id => s!"handler '{id}' is never closed with 'end'"
  | emptyTypeReference kind token => "'" ++ kind.keyword ++ s!"' names no type in '{token}'"

/-- A fault in the annotations of one API, and where it stands. -/
structure StructuralError where
  api : String
  location : Option Location
  fault : Fault
deriving DecidableEq, Repr

/-- A fault with its place and API. -/
def StructuralError.message (e : StructuralError) : String :=
  Location.lead e.location ++ s!"API '{e.api}': " ++ e.fault.message

/-! ## Faults of the file system -/

/-- Why an operation on a file or directory fails. -/
inductive FileError where
  | notFound
  | alreadyExists
  | notADirectory
  | isADirectory
  | invalidText
  | missingRoot
deriving DecidableEq, Repr

/-- A file error in words. -/
def FileError.message : FileError → String
  | notFound => "No such file or directory (os error 2)"
  | alreadyExists => "File exists (os error 17)"
  | notADirectory => "Not a directory (os error 20)"
  | isADirectory => "Is a directory (os error 21)"
  | invalidText => "stream did not contain valid UTF-8"
  | missingRoot => "root directory does not exist"

/-! ## Failures of a run -/

/-- What ends a run without documents. -/
inductive Failure where
  | structural (error : StructuralError)
  | unsettled (api : String) (limit : Nat)
  | unreadable (path : String) (cause : FileError)
  | unparsable (path : String)
deriving DecidableEq, Repr

/-- A failure in words. -/
def Failure.message : Failure → String
  | structural error => error.message
  | unsettled api limit =>
    s!"schema resolution for API '{api}' exceeded {limit} iterations (too many iterations)"
  | unreadable path cause => s!"failed to read {path}: " ++ cause.message
  | unparsable path => s!"failed to parse {path}"

end ApiNotes
