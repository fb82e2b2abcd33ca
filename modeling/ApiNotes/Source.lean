/-
Source files and the annotations in them.
Lines are numbered from 1, and each command carries the file and the line on which it stands. The
commands of several files follow each other in the order of the files.
-/
import ApiNotes.Text.Lines
import ApiNotes.Annotation.Reader

namespace ApiNotes

/-- A source file that has been read. -/
structure SourceFile where
  path : String
  content : String
deriving DecidableEq, Repr

/-- The lines of a list, each with its location in the file; the first one has number `start`. -/
def locate (file : String) (start : Nat) : List String → List (Location × String)
  | [] => []
  | line :: rest => (⟨file, start⟩, line) :: locate file (start + 1) rest

namespace SourceFile

/-- The lines of a file with their locations. -/
def lines (source : SourceFile) : List (Location × String) :=
  locate source.path 1 (Text.lines source.content)

/-- The annotations of a file, each with its location. -/
def commands (sentinel : String) (source : SourceFile) : List Command :=
  source.lines.filterMap fun (location, text) =>
    (Command.ofLine? sentinel text).map fun c => { c with location := some location }

/-- The annotations of several files, in the order of the files. -/
def commandsOf (sentinel : String) (sources : List SourceFile) : List Command :=
  sources.flatMap (commands sentinel)

end SourceFile

end ApiNotes
