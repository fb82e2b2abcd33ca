/-
OpenAPI documents.
The types follow the layout of an OpenAPI 3.0 document. Parts that a document may leave out are
optional values, or lists and maps that are left out when empty. `Document.referencedSchemas` walks
a whole document and lists each referenced schema once, where it is first met.
-/
import ApiNotes.Document.Schema

namespace ApiNotes

/-- The OpenAPI version of every document. -/
def openApiVersion : String :=
  "3.0.0"

/-- The media type of request bodies and responses. -/
def jsonMediaType : String :=
  "application/json"

/-- What a reference to a shared response has before the status code. -/
def responseReferenceLead : String :=
  "#/components/responses/"

/-! ## The parts of a document -/

/-- Title, description and version of an API. -/
structure Info where
  title : String := ""
  description : Option String := none
  version : String := ""
deriving Inhabited, Repr, DecidableEq

/-- A variable in the address of a server. -/
structure ServerVariable where
  defaultValue : String := ""
  description : Option String := none
deriving Inhabited, Repr, DecidableEq

/-- An address under which an API is served. -/
structure Server where
  url : String := ""
  vars : OrderedMap ServerVariable := .empty

/-- The schema of a body in one media type. -/
structure MediaType where
  schema : Schema

/-- A parameter of an operation. -/
structure Parameter where
  name : String
  /-- Where the parameter stands: in the path, the query or a header. -/
  location : String
  description : Option String := none
  required : Bool
  schema : Schema

/-- What a request carries. -/
structure RequestBody where
  description : Option String := none
  required : Bool
  content : OrderedMap MediaType

/-- What an operation answers, or a reference to a shared answer. -/
structure Response where
  reference : Option String := none
  description : Option String := none
  content : Option (OrderedMap MediaType) := none

/-- One method of one path. -/
structure Operation where
  operationId : Option String := none
  summary : Option String := none
  description : Option String := none
  tags : List String := []
  parameters : List Parameter := []
  requestBody : Option RequestBody := none
  responses : OrderedMap Response := .empty

/-- The operations of one path by method. -/
abbrev PathItem := OrderedMap Operation

/-- The responses and schemas that a document shares between its operations. -/
structure Components where
  responses : OrderedMap Response := .empty
  schemas : OrderedMap Schema := .empty

/-- An OpenAPI document. -/
structure Document where
  openapi : String := openApiVersion
  info : Info := {}
  servers : List Server := []
  paths : OrderedMap PathItem := .empty
  components : Components := {}

/-! ## Responses -/

/-- A single JSON body of the given schema. -/
def jsonContent (schema : Schema) : OrderedMap MediaType :=
  .singleton jsonMediaType ⟨schema⟩

namespace Response

/-- A response with a description. -/
def described (description : String) : Response :=
  { description := some description }

/-- A reference to the response shared under a status code. -/
def shared (code : String) : Response :=
  { reference := some (responseReferenceLead ++ code) }

/-- The response with a JSON body. -/
def withJson (r : Response) (schema : Schema) : Response :=
  { r with content := some (jsonContent schema) }

/-- Whether the response says nothing of its own, and so waits for a shared one: it has no
reference, no body, and no description or an empty one. -/
def isUnlinked (r : Response) : Bool :=
  r.reference.isNone && r.content.isNone && (r.description.getD "").isEmpty

end Response

/-! ## References -/

/-- The names that the bodies of a content map refer to. -/
def contentReferences (content : OrderedMap MediaType) : List String :=
  content.values.flatMap (·.schema.references)

/-- The names that a response refers to. -/
def Response.references (r : Response) : List String :=
  (r.content.map contentReferences).getD []

/-- The names that an operation refers to: parameters, then body, then responses. -/
def Operation.references (o : Operation) : List String :=
  o.parameters.flatMap (·.schema.references) ++
    (o.requestBody.map (contentReferences ·.content)).getD [] ++
    o.responses.values.flatMap Response.references

/-- Keeps the first of each group of equal elements. -/
def firstOccurrences : List String → List String
  | [] => []
  | name :: rest => name :: (firstOccurrences rest).filter (· != name)

namespace Components

/-- Whether nothing is shared. -/
def isEmpty (c : Components) : Bool :=
  c.responses.isEmpty && c.schemas.isEmpty

end Components

namespace Document

/-- Every mention of a schema name in a document, in the order of the walk. -/
def mentions (d : Document) : List String :=
  (d.paths.values.flatMap (·.values)).flatMap Operation.references ++
    d.components.responses.values.flatMap Response.references ++
    d.components.schemas.values.flatMap Schema.references

/-- The schema names that a document refers to, each once, first mention first. -/
def referencedSchemas (d : Document) : List String :=
  firstOccurrences d.mentions

end Document

/-! ## Documents with what they are called -/

/-- The document of one API, with its name, its file name and the schemas it asks for. -/
structure ApiModel where
  /-- The name of the API; the only API of a project that names none is called "". -/
  name : String
  /-- The file name that an annotation asked for. -/
  filename : Option String := none
  document : Document := {}
  /-- The schema names that annotations mention, first mention first. -/
  referenced : List String := []

namespace ApiModel

/-- Records a schema name, once. -/
def refer (m : ApiModel) (name : String) : ApiModel :=
  if m.referenced.contains name then m else { m with referenced := m.referenced ++ [name] }

/-- The file name of the rendered document. -/
def artifactName (m : ApiModel) (extension : String) : String :=
  match m.filename with
  | some filename => filename
  | none => if m.name.isEmpty then "openapi." ++ extension
    else "openapi." ++ m.name ++ "." ++ extension

end ApiModel

end ApiNotes
