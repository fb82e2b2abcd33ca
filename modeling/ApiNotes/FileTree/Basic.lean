/-
A tree of files and directories.
An entry is reached by the names on the way from the root. A path is resolved by going through its
segments: every directory on the way has to exist, and going up from the root stays at the root.
Creating a directory and writing a file either change the tree at one place or fail and leave it as
it was.
-/
import ApiNotes.FileTree.Path
import ApiNotes.Failure

namespace ApiNotes

/-- A file, or a directory with its entries by name. -/
inductive Node where
  | file (content : ByteArray)
  | directory (entries : List (String × Node))
deriving Inhabited

/-- A tree of files and directories, and the directory in which paths start. -/
structure FileTree where
  root : Node
  /-- The names on the way to the current directory. -/
  current : List String

/-! ## Nodes -/

namespace Node

/-- The node that a list of names leads to. -/
def at? : Node → List String → Option Node
  | node, [] => some node
  | directory entries, name :: rest =>
    match entries.lookup name with
    | some node => node.at? rest
    | none => none
  | file _, _ :: _ => none

/-- Puts an entry into a directory, over an entry of the same name. -/
def setEntry (name : String) (node : Node) : List (String × Node) → List (String × Node)
  | [] => [(name, node)]
  | (n, old) :: rest =>
    if n = name then (n, node) :: rest else (n, old) :: setEntry name node rest

/-- Puts a node where a list of names leads to. Directories that are missing on the way are made,
and nothing is put below a file. -/
def put (new : Node) : List String → Node → Node
  | [], _ => new
  | name :: rest, directory entries =>
    directory (setEntry name (new.put rest ((entries.lookup name).getD (directory []))) entries)
  | _ :: _, file content => file content

end Node

/-! ## Paths in a tree -/

namespace FileTree

/-- The place that a segment leads to from a directory. -/
def step (directory : List String) (segment : String) : List String :=
  if segment = ".." then directory.dropLast
  else if Path.isName segment then directory ++ [segment]
  else directory

/-- The place of the directory that a list of segments leads to from another directory. -/
def enter (root : Node) (directory : List String) : List String → Except FileError (List String)
  | [] => .ok directory
  | segment :: rest =>
    let next := step directory segment
    match root.at? next with
    | some (.directory _) => enter root next rest
    | some (.file _) => .error .notADirectory
    | none => .error .notFound

/-- The place at which a path starts. -/
def origin (t : FileTree) (path : String) : List String :=
  if Path.isAbsolute path then [] else t.current

/-- The place that segments lead to, and the last of them; the last one need not exist. -/
def reach (t : FileTree) (path : String) (segments : List String) :
    Except FileError (List String × String) :=
  if path.isEmpty then .error .notFound
  else (enter t.root (t.origin path) segments.dropLast).map fun directory =>
    (directory, segments.getLast?.getD "")

/-- The node at a path. -/
def node (t : FileTree) (path : String) : Except FileError Node :=
  match t.reach path (Path.segments path) with
  | .error e => .error e
  | .ok (directory, last) =>
    match t.root.at? (step directory last) with
    | some node => .ok node
    | none => .error .notFound

/-- Whether there is anything at a path. -/
def hasNode (t : FileTree) (path : String) : Bool :=
  match t.node path with
  | .ok _ => true
  | .error _ => false

/-- Whether there is a directory at a path. -/
def hasDirectory (t : FileTree) (path : String) : Bool :=
  match t.node path with
  | .ok (.directory _) => true
  | _ => false

/-- The text of the file at a path. -/
def read (t : FileTree) (path : String) : Except FileError String :=
  match t.node path with
  | .error e => .error e
  | .ok (.directory _) => .error .isADirectory
  | .ok (.file content) =>
    match String.fromUTF8? content with
    | some text => .ok text
    | none => .error .invalidText

/-! ## Changes -/

/-- The tree with a node put at a place. -/
def put (t : FileTree) (place : List String) (new : Node) : FileTree :=
  { t with root := new.put place t.root }

/-- The tree with one more, empty directory. -/
def createDirectory (t : FileTree) (path : String) : Except FileError FileTree :=
  match t.reach path (Path.trimmedSegments path) with
  | .error e => .error e
  | .ok (directory, last) =>
    let place := step directory last
    if Path.isName last && (t.root.at? place).isNone then .ok (t.put place (.directory []))
    else .error .alreadyExists

/-- The tree with a text written to a file, which is made if it is missing. -/
def writeFile (t : FileTree) (path text : String) : Except FileError FileTree :=
  match t.reach path (Path.trimmedSegments path) with
  | .error e => .error e
  | .ok (directory, last) =>
    let place := step directory last
    if Path.isName last && !Path.endsWithSlash path then
      match t.root.at? place with
      | some (.directory _) => .error .isADirectory
      | _ => .ok (t.put place (.file text.toUTF8))
    else .error .isADirectory

end FileTree

end ApiNotes
