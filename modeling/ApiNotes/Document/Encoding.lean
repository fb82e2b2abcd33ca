/-
Documents as JSON values.
Each part writes its members in a fixed order and leaves out what is absent, and empty lists and
maps where the layout allows it. Reading accepts members in any order, ignores unknown ones, and
puts back what was left out, so a value that was written reads back as the part it came from.
-/
import ApiNotes.Document.Basic
import ApiNotes.Json.Basic

namespace ApiNotes

open Json

/-! ## Schemas -/

namespace Schema

mutual

/-- A schema as a value. -/
def toJson : Schema → Json
  | ⟨type, format, properties, items, enumValues, reference⟩ =>
    .object (optional "type" (type.map .string) ++ optional "format" (format.map .string) ++
      optional "properties" (propertiesToJson properties) ++
      optional "items" (itemsToJson items) ++
      optional "enum" (enumValues.map strings) ++ optional "$ref" (reference.map .string))

/-- The element schema as a value. -/
def itemsToJson : Option Schema → Option Json
  | none => none
  | some s => some s.toJson

/-- The properties as a value. -/
def propertiesToJson : Option (List (String × Schema)) → Option Json
  | none => none
  | some entries => some (.object (entriesToJson entries))

/-- Named schemas as members of an object. -/
def entriesToJson : List (String × Schema) → List (String × Json)
  | [] => []
  | (name, s) :: rest => (name, s.toJson) :: entriesToJson rest

end

/-- The members of a schema, in the order of their declaration. -/
def memberNames : List String :=
  ["type", "format", "properties", "items", "enum", "$ref"]

/-- Reads a member that holds no schema; where a schema belongs, only `null` is one. -/
def setSimple? (s : Schema) (name : String) (v : Json) : Option Schema :=
  if name = "type" then (nullable? string? (some v)).map fun x => { s with type := x }
  else if name = "format" then (nullable? string? (some v)).map fun x => { s with format := x }
  else if name = "enum" then
    (nullable? (list? string?) (some v)).map fun x => { s with enumValues := x }
  else if name = "$ref" then (nullable? string? (some v)).map fun x => { s with reference := x }
  else if name = "properties" ∨ name = "items" then
    match v with
    | .null => some s
    | _ => none
  else some s

mutual

/-- Reads a schema. -/
def ofJson? : Json → Option Schema
  | .object members => ofMembers? {} members
  | .array elements => ofElements? {} memberNames elements
  | _ => none

/-- Reads the members of a schema one after another. -/
def ofMembers? (s : Schema) : List (String × Json) → Option Schema
  | [] => some s
  | (name, v) :: rest =>
    match setMember? s name v with
    | some t => ofMembers? t rest
    | none => none

/-- Reads the members of a schema by their places. -/
def ofElements? (s : Schema) : List String → List Json → Option Schema
  | _, [] => some s
  | [], _ :: _ => none
  | name :: names, v :: rest =>
    match setMember? s name v with
    | some t => ofElements? t names rest
    | none => none

/-- Reads one member into a schema; an unknown member changes nothing. -/
def setMember? (s : Schema) (name : String) : Json → Option Schema
  | .object members =>
    if name = "properties" then
      (entriesOfJson? members).map fun entries =>
        { s with properties := some (OrderedMap.ofList entries).entries }
    else if name = "items" then
      (ofMembers? {} members).map fun items => { s with items := some items }
    else setSimple? s name (.object members)
  | .array elements =>
    if name = "items" then
      (ofElements? {} memberNames elements).map fun items => { s with items := some items }
    else setSimple? s name (.array elements)
  | v => setSimple? s name v

/-- Reads named schemas. -/
def entriesOfJson? : List (String × Json) → Option (List (String × Schema))
  | [] => some []
  | (name, v) :: rest =>
    match ofJson? v, entriesOfJson? rest with
    | some s, some entries => some ((name, s) :: entries)
    | _, _ => none

end

end Schema

/-! ## The other parts -/

/-- A map as an object. -/
def OrderedMap.toJson {α : Type} (write : α → Json) (m : OrderedMap α) : Json :=
  .object (m.entries.map fun (k, v) => (k, write v))

/-- Reads a map; of two members with one key the later counts. -/
def OrderedMap.ofJson? {α : Type} (read : Json → Option α) (v : Json) : Option (OrderedMap α) :=
  (entries? read v).map OrderedMap.ofList

/-- Title, description and version. -/
def Info.toJson (i : Info) : Json :=
  .object (member "title" (.string i.title) ++
    optional "description" (i.description.map .string) ++
    member "version" (.string i.version))

/-- Reads title, description and version. -/
def Info.ofJson? (v : Json) : Option Info := do
  let get ← v.record? ["title", "description", "version"]
  let title ← (← get "title").string?
  let description ← nullable? string? (get "description")
  let version ← (← get "version").string?
  return { title, description, version }

/-- A server variable. -/
def ServerVariable.toJson (x : ServerVariable) : Json :=
  .object (member "default" (.string x.defaultValue) ++
    optional "description" (x.description.map .string))

/-- Reads a server variable. -/
def ServerVariable.ofJson? (v : Json) : Option ServerVariable := do
  let get ← v.record? ["default", "description"]
  let defaultValue ← (← get "default").string?
  let description ← nullable? string? (get "description")
  return { defaultValue, description }

/-- A server. -/
def Server.toJson (s : Server) : Json :=
  .object (member "url" (.string s.url) ++
    unlessEmpty "variables" s.vars.isEmpty (s.vars.toJson ServerVariable.toJson))

/-- Reads a server. -/
def Server.ofJson? (v : Json) : Option Server := do
  let get ← v.record? ["url", "variables"]
  let url ← (← get "url").string?
  let vars ← orDefault? .empty (OrderedMap.ofJson? ServerVariable.ofJson?) (get "variables")
  return { url, vars }

/-- A body in one media type. -/
def MediaType.toJson (m : MediaType) : Json :=
  .object (member "schema" m.schema.toJson)

/-- Reads a body in one media type. -/
def MediaType.ofJson? (v : Json) : Option MediaType := do
  let get ← v.record? ["schema"]
  let schema ← Schema.ofJson? (← get "schema")
  return ⟨schema⟩

/-- A parameter. -/
def Parameter.toJson (p : Parameter) : Json :=
  .object (member "name" (.string p.name) ++ member "in" (.string p.location) ++
    optional "description" (p.description.map .string) ++
    member "required" (.bool p.required) ++ member "schema" p.schema.toJson)

/-- Reads a parameter. -/
def Parameter.ofJson? (v : Json) : Option Parameter := do
  let get ← v.record? ["name", "in", "description", "required", "schema"]
  let name ← (← get "name").string?
  let location ← (← get "in").string?
  let description ← nullable? string? (get "description")
  let required ← (← get "required").bool?
  let schema ← Schema.ofJson? (← get "schema")
  return { name, location, description, required, schema }

/-- A request body. -/
def RequestBody.toJson (b : RequestBody) : Json :=
  .object (optional "description" (b.description.map .string) ++
    member "required" (.bool b.required) ++
    member "content" (b.content.toJson MediaType.toJson))

/-- Reads a request body. -/
def RequestBody.ofJson? (v : Json) : Option RequestBody := do
  let get ← v.record? ["description", "required", "content"]
  let description ← nullable? string? (get "description")
  let required ← (← get "required").bool?
  let content ← OrderedMap.ofJson? MediaType.ofJson? (← get "content")
  return { description, required, content }

/-- A response. -/
def Response.toJson (r : Response) : Json :=
  .object (optional "$ref" (r.reference.map .string) ++
    optional "description" (r.description.map .string) ++
    optional "content" (r.content.map (OrderedMap.toJson MediaType.toJson)))

/-- Reads a response. -/
def Response.ofJson? (v : Json) : Option Response := do
  let get ← v.record? ["$ref", "description", "content"]
  let reference ← nullable? string? (get "$ref")
  let description ← nullable? string? (get "description")
  let content ← nullable? (OrderedMap.ofJson? MediaType.ofJson?) (get "content")
  return { reference, description, content }

/-- An operation. -/
def Operation.toJson (o : Operation) : Json :=
  .object (optional "operationId" (o.operationId.map .string) ++
    optional "summary" (o.summary.map .string) ++
    optional "description" (o.description.map .string) ++
    unlessEmpty "tags" o.tags.isEmpty (strings o.tags) ++
    unlessEmpty "parameters" o.parameters.isEmpty (.array (o.parameters.map Parameter.toJson)) ++
    optional "requestBody" (o.requestBody.map RequestBody.toJson) ++
    member "responses" (o.responses.toJson Response.toJson))

/-- Reads an operation. -/
def Operation.ofJson? (v : Json) : Option Operation := do
  let get ← v.record? ["operationId", "summary", "description", "tags", "parameters",
    "requestBody", "responses"]
  let operationId ← nullable? string? (get "operationId")
  let summary ← nullable? string? (get "summary")
  let description ← nullable? string? (get "description")
  let tags ← orDefault? [] (list? string?) (get "tags")
  let parameters ← orDefault? [] (list? Parameter.ofJson?) (get "parameters")
  let requestBody ← nullable? RequestBody.ofJson? (get "requestBody")
  let responses ← orDefault? .empty (OrderedMap.ofJson? Response.ofJson?) (get "responses")
  return { operationId, summary, description, tags, parameters, requestBody, responses }

/-- The shared parts. -/
def Components.toJson (c : Components) : Json :=
  .object (unlessEmpty "responses" c.responses.isEmpty (c.responses.toJson Response.toJson) ++
    unlessEmpty "schemas" c.schemas.isEmpty (c.schemas.toJson Schema.toJson))

/-- Reads the shared parts. -/
def Components.ofJson? (v : Json) : Option Components := do
  let get ← v.record? ["responses", "schemas"]
  let responses ← orDefault? .empty (OrderedMap.ofJson? Response.ofJson?) (get "responses")
  let schemas ← orDefault? .empty (OrderedMap.ofJson? Schema.ofJson?) (get "schemas")
  return { responses, schemas }

/-- A document. -/
def Document.toJson (d : Document) : Json :=
  .object (member "openapi" (.string d.openapi) ++ member "info" d.info.toJson ++
    unlessEmpty "servers" d.servers.isEmpty (.array (d.servers.map Server.toJson)) ++
    member "paths" (d.paths.toJson (OrderedMap.toJson Operation.toJson)) ++
    unlessEmpty "components" d.components.isEmpty d.components.toJson)

/-- Reads a document. -/
def Document.ofJson? (v : Json) : Option Document := do
  let get ← v.record? ["openapi", "info", "servers", "paths", "components"]
  let openapi ← (← get "openapi").string?
  let info ← Info.ofJson? (← get "info")
  let servers ← orDefault? [] (list? Server.ofJson?) (get "servers")
  let paths ← orDefault? .empty (OrderedMap.ofJson? (OrderedMap.ofJson? Operation.ofJson?))
    (get "paths")
  let components ← orDefault? {} Components.ofJson? (get "components")
  return { openapi, info, servers, paths, components }

end ApiNotes
