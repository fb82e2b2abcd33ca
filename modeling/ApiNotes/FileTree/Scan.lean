/-
The source files of a project directory.
A source file is a file whose name has the extension `rs`. Entries whose names start with a dot and
entries called `target` are left out with everything below them; the directory that the scan starts
from is exempt. The files come in the order of their paths, compared name by name.
-/
import ApiNotes.FileTree.Basic
import ApiNotes.Source

namespace ApiNotes

/-- Whether an entry is left out of a scan. -/
def isPassedOver (name : String) : Bool :=
  name.toList.head? == some '.' || name == "target"

/-- Whether a file name has the extension of source files; a name that is nothing but the extension
has none. -/
def isSourceName (name : String) : Bool :=
  match name.toList.reverse with
  | 's' :: 'r' :: '.' :: _ :: _ => true
  | _ => false

/-- The order of paths: name by name, and a path before those below it. -/
def comesBefore : List String → List String → Bool
  | [], _ => true
  | _ :: _, [] => false
  | a :: as, b :: bs => if a = b then comesBefore as bs else decide (a < b)

namespace Node

mutual

/-- The files that a scan from a node meets, each as the names on the way from the node. -/
def visibleFiles : Node → List (List String)
  | file _ => [[]]
  | directory entries => visibleEntries entries

/-- The files that a scan meets in the entries of a directory. -/
def visibleEntries : List (String × Node) → List (List String)
  | [] => []
  | (name, node) :: rest =>
    (if isPassedOver name then [] else node.visibleFiles.map (name :: ·)) ++ visibleEntries rest

end

/-- The source files that a scan meets, in order; `rootName` is the name of the node itself. -/
def sourceFiles (rootName : String) (node : Node) : List (List String) :=
  (node.visibleFiles.filter fun names => isSourceName (names.getLast?.getD rootName)).mergeSort
    comesBefore

end Node

namespace FileTree

/-- The paths of the source files below a path. -/
def scan (t : FileTree) (root : String) : Except Failure (List String) :=
  match t.node root with
  | .ok node => .ok ((node.sourceFiles (Path.lastSegment root)).map (Path.joinAll root))
  | .error _ => .error (.unreadable root .missingRoot)

/-- Reads the file at a path. -/
def loadFile (t : FileTree) (path : String) : Except Failure SourceFile :=
  match t.read path with
  | .ok content => .ok ⟨path, content⟩
  | .error cause => .error (.unreadable path cause)

/-- Reads the files at a list of paths; the first that cannot be read ends it. -/
def load (t : FileTree) (paths : List String) : Except Failure (List SourceFile) :=
  paths.mapM t.loadFile

end FileTree

end ApiNotes
