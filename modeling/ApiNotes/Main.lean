/-
The program.
It reads what a request asks about from the disk into a tree and leaves everything else to
`CommandLine.Request`. Of the outcome the log is reported, the output printed, and what is new in
the tree written to the disk. Reports go to the error output.
-/
import ApiNotes.CommandLine.Run

namespace ApiNotes.Main

open CommandLine

/-- What is printed when help is asked for. -/
def usage : String :=
  "Usage: apinotes [OPTIONS] <PROJECT_PATH>\n\n" ++
  "  -f, --format <yaml|json>    format of the documents [default: yaml]\n" ++
  "  -o, --output-dir <DIR>      directory for the documents [default: .]\n" ++
  "      --stdout                print the documents instead of writing files\n" ++
  "  -p, --prefix <TEXT>         what marks a line as an annotation [default: // docapi]\n" ++
  "      --max-iterations <N>    how many levels of references are followed [default: 100]\n" ++
  "      --lenient               leave out source files that cannot be parsed\n" ++
  "  -v, --verbose               report more\n" ++
  "  -h, --help                  print this text\n" ++
  "  -V, --version               print the version\n"

/-! ## From the disk to a tree -/

/-- The path of a place. -/
def diskPath (place : List String) : String :=
  "/" ++ "/".intercalate place

/-- The file or directory at a place. A directory holds what a scan can meet, and of other files than
sources only that they are there. -/
partial def readNode (place : List String) : IO Node := do
  let path := (← IO.currentDir) / diskPath place
  if ← path.isDir then
    let entries := (← path.readDir).toList.filter fun e => !isPassedOver e.fileName
    return .directory (← entries.mapM fun e => do
      return (e.fileName, ← readNode (place ++ [e.fileName])))
  else if isSourceName (place.getLast?.getD "") then
    return .file (← IO.FS.readBinFile path)
  else return .file .empty

/-- The tree with what there is on the way to a path. Directories that were not known are added
without their entries. -/
def learn (t : FileTree) (path : String) : IO FileTree := do
  let mut t := t
  let mut place := t.origin path
  for segment in Path.segments path do
    place := FileTree.step place segment
    if let some (.directory _) := t.root.at? place then continue
    let path := (← IO.currentDir) / diskPath place
    if ← path.isDir then t := t.put place (.directory [])
    else if ← path.pathExists then t := t.put place (.file (← IO.FS.readBinFile path))
  return t

/-- The tree with everything that the answer to a request depends on: the project, and what is there
already where files are to be written. -/
def treeFor (r : Request) : IO FileTree := do
  let current := (Path.segments (← IO.currentDir).toString).filter Path.isName
  let here : FileTree := { root := (Node.directory []).put current (.directory []), current }
  let mut t ← learn here r.projectPath
  if t.hasDirectory r.projectPath then
    let place := (Path.segments r.projectPath).foldl FileTree.step (t.origin r.projectPath)
    t := t.put place (← readNode place)
  (r.targets t).foldlM learn t

/-! ## From an outcome to the disk -/

/-- Writes what is new in a node at a place to the disk, compared with what was there before. -/
partial def settle (place : List String) (before : Option Node) : Node → IO Unit
  | .file content => do
    let isOld := match before with
      | some (.file old) => old == content
      | _ => false
    if !isOld then IO.FS.writeBinFile (diskPath place) content
  | .directory entries => do
    let old ← match before with
      | some (.directory old) => pure old
      | _ =>
        IO.FS.createDir (diskPath place)
        pure []
    entries.forM fun (name, node) => settle (place ++ [name]) (old.lookup name) node

/-- Reports a log. -/
def report (log : List LogEntry) : IO Unit :=
  log.forM fun
    | .progress p => IO.eprintln ("INFO " ++ p.message)
    | .warning w => IO.eprintln ("WARN " ++ w.message)

/-- Carries out what a request comes to in a tree that was read from the disk. -/
def carryOut (t : FileTree) (outcome : Outcome) : IO UInt32 := do
  settle [] (some t.root) outcome.tree.root
  report outcome.log
  IO.print outcome.output
  match outcome.result with
  | .ok () => return 0
  | .error e =>
    IO.eprintln ("Error: " ++ e.message)
    return 1

/-! ## The command line -/

/-- Answers the command line. -/
def start (arguments : List String) : IO UInt32 := do
  match Request.ofArguments arguments with
  | .error .helpAsked =>
    IO.print usage
    return 0
  | .error .versionAsked =>
    IO.println "apinotes 0.2.0"
    return 0
  | .error e =>
    IO.eprintln ("error: " ++ e.message ++ "\n\n" ++ usage)
    return 2
  | .ok r =>
    let t ← treeFor r
    carryOut t (r.perform t)

end ApiNotes.Main

/-- Makes documents out of the annotations in a project directory. -/
def main (arguments : List String) : IO UInt32 :=
  ApiNotes.Main.start arguments
