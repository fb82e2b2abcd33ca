/-
The document of one API while its annotations come in.
A draft is idle, or has an open handler that lies between `begin` and `end`. While a handler is
open only the commands that describe it and `end` are accepted; while none is open those are
refused. Each kind of command takes a fixed number of arguments. A command either changes the draft
or fails with a fault, and a fault leaves the draft as it was.
-/
import ApiNotes.Document.Basic
import ApiNotes.Log
import ApiNotes.Text.Lowercase

namespace ApiNotes

/-- What the commands between `begin` and `end` say about a handler. -/
structure Handler where
  id : String
  method : Option String := none
  operation : Operation
  openedAt : Option Location

/-- The document of one API so far. -/
structure Draft where
  model : ApiModel
  current : Option Handler := none
  /-- The handlers that have been closed, by id. -/
  handlers : OrderedMap Handler := .empty
  /-- The routes, as path and handler id, in the order in which they came. -/
  routes : List (String × String) := []

/-! ## Arguments -/

/-- The legal number of arguments of a kind. -/
def Kind.arity : Kind → Arity
  | .version | .filename | .beginHandler | .method => .one
  | .route => .two
  | .urlVariable | .query => .atLeastTwo
  | .endHandler => .atMostOne
  | .url => .oneOrUnnamedTwo
  | _ => .atLeastOne

/-- The fault of a command with a wrong number of arguments. -/
def Command.arityFault (c : Command) : Fault :=
  .wrongArity c.kind c.kind.arity c.args.length

/-- What stands between the braces of a braced token. -/
def braced? (token : String) : Option String :=
  match token.toList with
  | '\x7b' :: rest =>
    match rest.reverse with
    | '\x7d' :: inner => some (String.ofList inner.reverse)
    | _ => none
  | _ => none

/-- What is left of a type name without its list marks. -/
def withoutListMarks : List Char → List Char
  | '[' :: ']' :: rest => withoutListMarks rest
  | name => name

/-- The type that a token names, bare or in braces. -/
def typeOfToken (kind : Kind) (token : String) : Except Fault TypeRef :=
  let name := (braced? token).getD token
  if (withoutListMarks name.toList).isEmpty then .error (.emptyTypeReference kind token)
  else .ok (.ofName name)

/-- A text, unless it is empty. -/
def nonEmpty? (text : String) : Option String :=
  if text.isEmpty then none else some text

/-- The response that a status code comes with: a braced type and a description, or a description
alone. The type it mentions comes along. -/
def Command.responseOf (c : Command) (type : Option String) :
    Except Fault (Response × Option TypeRef) :=
  match type with
  | some token =>
    if (braced? token).isSome then
      match typeOfToken c.kind token with
      | .ok t => .ok ((Response.described (c.textFrom 2)).withJson (.ofTypeRef t), some t)
      | .error f => .error f
    else .ok (.described (c.textFrom 1), none)
  | none => .ok (.described (c.textFrom 1), none)

/-! ## Handlers -/

namespace Handler

/-- A handler of which nothing is known but its id. -/
def start (id : String) (openedAt : Option Location) : Handler :=
  { id, operation := { operationId := some id }, openedAt }

/-- The handler with a response under a status code, over an earlier one. -/
def addResponse (h : Handler) (code : String) (response : Response) : Handler :=
  { h with operation :=
      { h.operation with responses := h.operation.responses.insert code response } }

/-- The handler after a command that describes it, and the type that the command mentions. -/
def describe (h : Handler) (c : Command) : Except Fault (Handler × Option TypeRef) :=
  match c.kind, c.args with
  | .method, [method] => .ok ({ h with method := some (Text.lowercase method) }, none)
  | .summary, _ :: _ =>
    .ok ({ h with operation := { h.operation with summary := some (c.textFrom 0) } }, none)
  | .handlerDescription, _ :: _ =>
    .ok ({ h with operation := { h.operation with description := some (c.textFrom 0) } }, none)
  | .tags, tag :: tags =>
    .ok ({ h with operation := { h.operation with tags := tag :: tags } }, none)
  | .body, token :: _ =>
    match typeOfToken c.kind token with
    | .error f => .error f
    | .ok t =>
      let body : RequestBody :=
        { description := nonEmpty? (c.textFrom 1), required := true,
          content := jsonContent (.ofTypeRef t) }
      .ok ({ h with operation := { h.operation with requestBody := some body } }, some t)
  | .query, name :: token :: _ =>
    match typeOfToken c.kind token with
    | .error f => .error f
    | .ok t =>
      let parameter : Parameter :=
        { name, location := "query", description := nonEmpty? (c.textFrom 2), required := true,
          schema := .ofTypeRef t }
      .ok ({ h with operation :=
        { h.operation with parameters := h.operation.parameters ++ [parameter] } }, some t)
  | .response, [code] =>
    -- a bare status code says nothing of its own and waits for a shared response
    .ok (h.addResponse code {}, none)
  | .response, code :: token :: _ =>
    match c.responseOf (some token) with
    | .error f => .error f
    | .ok (response, t) => .ok (h.addResponse code response, t)
  | _, _ => .error c.arityFault

end Handler

/-! ## Drafts -/

/-- Adds a variable to the last of a list of servers. -/
def addVariable (name : String) (x : ServerVariable) : List Server → Option (List Server)
  | [] => none
  | [s] => some [{ s with vars := s.vars.insert name x }]
  | s :: rest => (addVariable name x rest).map (s :: ·)

namespace Draft

/-- The draft of an API about which nothing has been said. -/
def start (name : String) : Draft :=
  { model := { name } }

/-- The draft with the document changed. -/
def editDocument (d : Draft) (f : Document → Document) : Draft :=
  { d with model := { d.model with document := f d.model.document } }

/-- Records the declared type that a type mentions. -/
def mention (d : Draft) (t : Option TypeRef) : Draft :=
  match t.bind TypeRef.referencedName with
  | some name => { d with model := d.model.refer name }
  | none => d

/-- The draft with one more server. -/
def addServer (d : Draft) (url : String) : Draft :=
  d.editDocument fun doc => { doc with servers := doc.servers ++ [{ url }] }

/-- The draft after a command that stands outside of handlers. -/
def describe (d : Draft) (c : Command) : Except Fault Draft :=
  match c.kind, c.args with
  | .title, _ :: _ =>
    .ok (d.editDocument fun doc => { doc with info := { doc.info with title := c.textFrom 0 } })
  | .description, _ :: _ =>
    .ok (d.editDocument fun doc =>
      { doc with info := { doc.info with description := some (c.textFrom 0) } })
  | .version, [version] =>
    .ok (d.editDocument fun doc => { doc with info := { doc.info with version } })
  | .filename, [filename] => .ok { d with model := { d.model with filename := some filename } }
  | .url, [url] => .ok (d.addServer url)
  | .url, [_, url] => if c.api.isNone then .ok (d.addServer url) else .error c.arityFault
  | .urlVariable, name :: defaultValue :: _ =>
    let x : ServerVariable := { defaultValue, description := nonEmpty? (c.textFrom 2) }
    match addVariable name x d.model.document.servers with
    | some servers => .ok (d.editDocument fun doc => { doc with servers })
    | none => .error .noServer
  | .code, code :: rest =>
    match c.responseOf rest.head? with
    | .error f => .error f
    | .ok (response, t) =>
      .ok ((d.mention t).editDocument fun doc =>
        { doc with components :=
          { doc.components with responses := doc.components.responses.insert code response } })
  | .route, [path, handler] => .ok { d with routes := d.routes ++ [(path, handler)] }
  | _, _ => .error c.arityFault

/-- The draft after a `begin`. -/
def openHandler (d : Draft) (c : Command) : Except Fault Draft :=
  match c.args with
  | [id] =>
    match d.current with
    | some h => .error (.nestedBegin id h.id)
    | none => .ok { d with current := some (.start id c.location) }
  | _ => .error c.arityFault

/-- The draft with its open handler closed, over a handler that was closed under the same id. -/
def close (d : Draft) (h : Handler) : Draft × List Warning :=
  ({ d with current := none, handlers := d.handlers.insert h.id h },
    if d.handlers.contains h.id then [.handlerRepeated d.model.name h.id] else [])

/-- The draft after an `end`, which may repeat the id of the handler it closes. -/
def closeHandler (d : Draft) (c : Command) : Except Fault (Draft × List Warning) :=
  match c.args, d.current with
  | [], some h => .ok (d.close h)
  | [id], some h => if id = h.id then .ok (d.close h) else .error (.endMismatch h.id id)
  | [], none => .error .unmatchedEnd
  | [_], none => .error .unmatchedEnd
  | _, _ => .error c.arityFault

/-- The draft after a command. Unknown commands change nothing. -/
def step (d : Draft) (c : Command) : Except Fault (Draft × List Warning) :=
  match c.kind with
  | .unknown _ => .ok (d, [])
  | .beginHandler => (d.openHandler c).map (·, [])
  | .endHandler => d.closeHandler c
  | kind =>
    match d.current with
    | none =>
      if kind.isHandlerField then .error (.noOpenHandler kind)
      else (d.describe c).map (·, [])
    | some h =>
      if kind.isHandlerField then
        (h.describe c).map fun (h', t) => ({ d.mention t with current := some h' }, [])
      else .error (.notAllowedInHandler kind h.id)

/-- The draft after a command, or the fault with its place. -/
def apply (d : Draft) (c : Command) : Except StructuralError (Draft × List Warning) :=
  (d.step c).mapError fun fault => ⟨d.model.name, c.location, fault⟩

end Draft

end ApiNotes
