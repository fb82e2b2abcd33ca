/-
From a draft to the document of an API.
Once all commands are in, each route is joined with the handler it names, wherever the two stand
relative to each other. A route is skipped if its handler is unknown or has no method, and of two
routes to one method of one path the later counts. Then each response that says nothing of its own
becomes a reference to the response shared under its status code, if there is one.
-/
import ApiNotes.Api.Draft

namespace ApiNotes

/-! ## Routes -/

/-- The paths with one more route, and what there is to say about it. -/
def addRoute (api : String) (handlers : OrderedMap Handler) (paths : OrderedMap PathItem)
    (path handler : String) : OrderedMap PathItem × List Warning :=
  match handlers.get? handler with
  | none => (paths, [.handlerUnknown api path handler])
  | some h =>
    match h.method with
    | none => (paths, [.methodMissing api handler path])
    | some method =>
      let item := (paths.get? path).getD .empty
      (paths.insert path (item.insert method h.operation),
        if item.contains method then [.operationRepeated api method path handler] else [])

/-- The paths with a list of routes, added in order. -/
def addRoutes (api : String) (handlers : OrderedMap Handler) (paths : OrderedMap PathItem) :
    List (String × String) → OrderedMap PathItem × List Warning
  | [] => (paths, [])
  | (path, handler) :: rest =>
    let (paths, first) := addRoute api handlers paths path handler
    let (paths, others) := addRoutes api handlers paths rest
    (paths, first ++ others)

/-! ## Shared responses -/

/-- A response, or the shared response that it waits for. -/
def linkResponse (shared : OrderedMap Response) (code : String) (r : Response) : Response :=
  if r.isUnlinked && shared.contains code then .shared code else r

/-- The operation with its responses linked. -/
def Operation.link (shared : OrderedMap Response) (o : Operation) : Operation :=
  { o with responses := o.responses.map (linkResponse shared) }

/-- The document with all responses of its operations linked. -/
def Document.link (d : Document) : Document :=
  { d with paths := d.paths.map fun _ item =>
      item.map fun _ o => o.link d.components.responses }

/-- The responses that wait for a shared one in vain. -/
def Document.unlinkable (api : String) (d : Document) : List Warning :=
  d.paths.entries.flatMap fun (path, item) =>
    item.entries.flatMap fun (method, o) =>
      o.responses.entries.filterMap fun (code, r) =>
        if r.isUnlinked && !d.components.responses.contains code then
          some (.responseNotShared api method path code)
        else none

/-! ## Finishing -/

/-- The finished document of an API. -/
def Draft.finish (d : Draft) : Except StructuralError (ApiModel × List Warning) :=
  match d.current with
  | some h => .error ⟨d.model.name, h.openedAt, .unclosedHandler h.id⟩
  | none =>
    let document := d.model.document
    let (paths, warnings) := addRoutes d.model.name d.handlers document.paths d.routes
    let routed := { document with paths }
    .ok ({ d.model with document := routed.link }, warnings ++ routed.unlinkable d.model.name)

end ApiNotes
