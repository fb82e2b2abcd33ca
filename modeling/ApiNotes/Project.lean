/-
From a project directory to documents, and from documents to files.
The source files of the project are read in the order of the scan. Each document becomes one file
of the output directory, which is called after its API unless an annotation names the file.
-/
import ApiNotes.FileTree.Scan
import ApiNotes.FileTree.Writing
import ApiNotes.Format
import ApiNotes.Generation

namespace ApiNotes

/-- The documents of all APIs that the source files below a path describe. -/
def generateProject (options : Options) (t : FileTree) (root : String) :
    Logged Failure Generation := do
  Logged.tell (.scanning root)
  let paths ← Logged.ofExcept (t.scan root)
  Logged.tell (.found paths.length)
  let files ← Logged.ofExcept (t.load paths)
  generate options files

/-- The document of an API as a file of a directory. -/
def ApiModel.artifact (directory : String) (format : Format) (m : ApiModel) : Artifact :=
  { path := Path.join directory (m.artifactName format.extension),
    text := m.document.render format }

/-- Writes the documents of a list of APIs into a directory. -/
def FileTree.writeDocuments (t : FileTree) (directory : String) (format : Format)
    (models : List ApiModel) : FileTree × List String × Except WriteFailure Unit :=
  t.writeAll (models.map (ApiModel.artifact directory format))

end ApiNotes
