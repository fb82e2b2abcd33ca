/-
What a request does.
A request is checked against the files that are there, and then carried out: the documents of the
project are printed, or written to files. Nothing is written unless there are documents for all
APIs.
-/
import ApiNotes.CommandLine.Arguments
import ApiNotes.Project

namespace ApiNotes.CommandLine

/-! ## Checking -/

/-- Why a request is refused. -/
inductive Refusal where
  | pathMissing (path : String)
  | pathNotADirectory (path : String)
  | sentinelBlank
  | levelCapZero
deriving DecidableEq, Repr

/-- A refusal in words. -/
def Refusal.message : Refusal → String
  | pathMissing path => s!"Project path does not exist: {path}"
  | pathNotADirectory path => s!"Project path is not a directory: {path}"
  | sentinelBlank => "Annotation prefix must not be empty"
  | levelCapZero => "--max-iterations must be at least 1"

/-- What makes a run fail. -/
inductive RunFailure where
  | refused (cause : Refusal)
  | failed (cause : Failure)
  | unwritten (cause : WriteFailure)
deriving DecidableEq, Repr

/-- A failed run in words. -/
def RunFailure.message : RunFailure → String
  | refused cause => cause.message
  | failed cause => cause.message
  | unwritten cause => cause.message

namespace Request

/-- Whether a request can be carried out. -/
def validate (r : Request) (t : FileTree) : Except Refusal Unit :=
  if !t.hasNode r.projectPath then .error (.pathMissing r.projectPath)
  else if !t.hasDirectory r.projectPath then .error (.pathNotADirectory r.projectPath)
  else if (Text.trim r.sentinel.toList).isEmpty then .error .sentinelBlank
  else if r.levelCap = 0 then .error .levelCapZero
  else .ok ()

/-- What is reported of a request before it is carried out. -/
def settings (r : Request) : List Progress :=
  [.projectPath r.projectPath, .outputFormat r.format,
    if r.toTerminal then .outputToTerminal else .outputDirectory r.outputDirectory,
    .sentinel r.sentinel]

/-- The part of a request that documents depend on. -/
def options (r : Request) : Options :=
  { sentinel := r.sentinel, levelCap := r.levelCap, lenient := r.lenient }

end Request

/-! ## Carrying out -/

/-- What a run leaves behind. -/
structure Outcome where
  log : List LogEntry
  /-- What is printed. -/
  output : String
  tree : FileTree
  result : Except RunFailure Unit

/-- What is reported of a run that came to its end. -/
def summary (g : Generation) : List Progress :=
  [.completed, .summary, .filesScanned g.files, .annotationCount g.annotations,
      .declarationCount g.declarations] ++
    g.models.map fun m =>
      .apiCount m.name m.document.paths.size m.document.components.schemas.size

/-- The documents of a list of APIs as text to print. -/
def printed (format : Format) (models : List ApiModel) : String :=
  String.join (models.map fun m => m.document.render format ++ "\n")

namespace Request

/-- The documents of the project. -/
def documents (r : Request) (t : FileTree) : Logged Failure Generation := do
  Logged.tell .started
  let g ← generateProject r.options t r.projectPath
  if g.models.all (·.document.paths.isEmpty) then
    Logged.warn [.noRoutes]
  return g

/-- The paths of the files that a request asks to write. -/
def targets (r : Request) (t : FileTree) : List String :=
  match r.toTerminal, (r.documents t).result with
  | false, .ok g => g.models.map fun m => (m.artifact r.outputDirectory r.format).path
  | _, _ => []

/-- Carries out a request. -/
def run (r : Request) (t : FileTree) : Outcome :=
  let made := r.documents t
  match made.result with
  | .error e => { log := made.log, output := "", tree := t, result := .error (.failed e) }
  | .ok g =>
    let done := (summary g).map LogEntry.progress
    if r.toTerminal then
      { log := made.log ++ done, output := printed r.format g.models, tree := t, result := .ok () }
    else
      let (tree, paths, outcome) := t.writeDocuments r.outputDirectory r.format g.models
      let wrote := paths.map fun path => LogEntry.progress (.wrote path)
      match outcome with
      | .error e =>
        { log := made.log ++ wrote, output := "", tree, result := .error (.unwritten e) }
      | .ok () =>
        { log := made.log ++ wrote ++ .progress (.wroteAll paths.length) :: done, output := "",
          tree, result := .ok () }

/-- Checks a request and carries it out. -/
def perform (r : Request) (t : FileTree) : Outcome :=
  match r.validate t with
  | .error e => { log := [], output := "", tree := t, result := .error (.refused e) }
  | .ok () =>
    let outcome := r.run t
    { outcome with log := r.settings.map .progress ++ outcome.log }

end Request

end ApiNotes.CommandLine
