/-
Writing a list of texts to files.
The directories above a file are made as needed. The first file that cannot be written ends the
writing; the files before it stay, and so do directories that were made for it.
-/
import ApiNotes.FileTree.Basic

namespace ApiNotes

/-- Why a file could not be written. -/
inductive WriteFailure where
  | directory (path : String) (cause : FileError)
  | file (path : String) (cause : FileError)
deriving DecidableEq, Repr

/-- A write failure in words. -/
def WriteFailure.message : WriteFailure → String
  | directory path cause => s!"Failed to create directory: {path}: " ++ cause.message
  | file path cause => s!"Failed to write to file: {path}: " ++ cause.message

/-- A path and the text that belongs there. -/
structure Artifact where
  path : String
  text : String
deriving DecidableEq, Repr

namespace FileTree

/-- The tree with a directory at a path, which may be there already. -/
def ensureDirectory (t : FileTree) (path : String) : Except FileError FileTree :=
  match t.createDirectory path with
  | .ok t' => .ok t'
  | .error e => if t.hasDirectory path then .ok t else .error e

/-- Makes a directory and those above it, given as a list that starts with the directory. -/
def createAll (t : FileTree) : List String → FileTree × Except FileError Unit
  | [] => (t, .ok ())
  | path :: above =>
    if path.isEmpty then (t, .ok ())
    else
      match t.ensureDirectory path with
      | .ok t' => (t', .ok ())
      | .error .notFound =>
        -- what is above it comes first
        match createAll t above with
        | (t', .error e) => (t', .error e)
        | (t', .ok ()) =>
          match t'.ensureDirectory path with
          | .ok t'' => (t'', .ok ())
          | .error e => (t', .error e)
      | .error e => (t, .error e)

/-- Writes a text to a file and makes the directories above it. -/
def write (t : FileTree) (a : Artifact) : FileTree × Except WriteFailure Unit :=
  let above := Path.parents a.path
  match t.createAll above with
  | (t', .error cause) => (t', .error (.directory (above.headD "") cause))
  | (t', .ok ()) =>
    match t'.writeFile a.path a.text with
    | .ok t'' => (t'', .ok ())
    | .error cause => (t', .error (.file a.path cause))

/-- Writes a list of texts in order. The paths that were written come with the outcome. -/
def writeAll (t : FileTree) : List Artifact → FileTree × List String × Except WriteFailure Unit
  | [] => (t, [], .ok ())
  | a :: rest =>
    match t.write a with
    | (t', .error e) => (t', [], .error e)
    | (t', .ok ()) =>
      let (t'', paths, outcome) := t'.writeAll rest
      (t'', a.path :: paths, outcome)

end FileTree

end ApiNotes
