/-
The formats in which a document is rendered.
-/
import ApiNotes.Document.Encoding
import ApiNotes.Json.Text
import ApiNotes.Yaml.Text

namespace ApiNotes

/-- A text format for documents. -/
inductive Format where
  | yaml
  | json
deriving DecidableEq, Repr

namespace Format

/-- The file extension of a format, which is also what it is called on the command line. -/
def extension : Format → String
  | yaml => "yaml"
  | json => "json"

/-- The format of that name. -/
def ofName? (name : String) : Option Format :=
  [yaml, json].find? (·.extension == name)

/-- A format as progress messages call it. -/
def title : Format → String
  | yaml => "Yaml"
  | json => "Json"

end Format

/-- A document as text. -/
def Document.render (d : Document) : Format → String
  | .yaml => Yaml.render d.toJson
  | .json => d.toJson.pretty

end ApiNotes
