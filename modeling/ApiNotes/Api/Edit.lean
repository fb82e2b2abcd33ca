/-
Drafts that are changed in place.
A command is carried out on the draft that it finds, one step after the other: the place of the
command is checked, its arguments are read, a type that they name is recorded, the open handler is
looked up, and only then something is written. Every step may fail, and a failure does not undo what
the steps before it have written. A command that fails can be passed over; the next one is then
carried out on the draft that the failure left behind.
-/
import ApiNotes.Api.Draft

namespace ApiNotes

/-- A change of a draft that may fail on its way, with the draft as far as it came. -/
abbrev Edit := EStateM Fault Draft

namespace Edit

/-! ## Single steps -/

/-- Checks that a command of the kind may stand here: what describes a handler stands between
`begin` and `end`, and what describes the API does not. -/
def checkPlace (kind : Kind) : Edit Unit := do
  match kind, (← get).current with
  | .beginHandler, _ | .endHandler, _ => return
  | _, none => if kind.isHandlerField then throw (.noOpenHandler kind)
  | _, some h => if !kind.isHandlerField then throw (.notAllowedInHandler kind h.id)

/-- The schema of the type that a token names. The declared type that it mentions is recorded. -/
def schemaOfToken (kind : Kind) (token : String) : Edit Schema := do
  match typeOfToken kind token with
  | .ok t =>
    modify (·.mention (some t))
    return .ofTypeRef t
  | .error fault => throw fault

/-- The response that a status code comes with: a braced type and a description, or a description
alone. -/
def responseOf (c : Command) (type : Option String) : Edit Response := do
  match type with
  | some token =>
    if (braced? token).isSome then
      let schema ← schemaOfToken c.kind token
      return (Response.described (c.textFrom 2)).withJson schema
    else return .described (c.textFrom 1)
  | none => return .described (c.textFrom 1)

/-- Changes the open handler. -/
def changeHandler (kind : Kind) (f : Handler → Handler) : Edit Unit := do
  match (← get).current with
  | some h => modify fun d => { d with current := some (f h) }
  | none => throw (.noOpenHandler kind)

/-- Changes the operation of the open handler. -/
def changeOperation (kind : Kind) (f : Operation → Operation) : Edit Unit :=
  changeHandler kind fun h => { h with operation := f h.operation }

/-- Takes the open handler out of the draft. -/
def takeHandler : Edit Handler := do
  match (← get).current with
  | some h =>
    modify fun d => { d with current := none }
    return h
  | none => throw .unmatchedEnd

/-- Puts a handler back that was taken out. -/
def putBackHandler (h : Handler) : Edit Unit :=
  modify fun d => { d with current := some h }

/-- Files a handler among the closed ones. -/
def fileHandler (h : Handler) : Edit (List Warning) :=
  modifyGet fun d => (d.close h).swap

/-! ## Commands -/

/-- Carries out a command that describes the API. -/
def describeApi (c : Command) : Edit Unit := do
  match c.kind, c.args with
  | .title, _ :: _ =>
    modify (·.editDocument fun doc => { doc with info := { doc.info with title := c.textFrom 0 } })
  | .description, _ :: _ =>
    modify (·.editDocument fun doc =>
      { doc with info := { doc.info with description := some (c.textFrom 0) } })
  | .version, [version] =>
    modify (·.editDocument fun doc => { doc with info := { doc.info with version } })
  | .filename, [filename] =>
    modify fun d => { d with model := { d.model with filename := some filename } }
  | .url, [url] => modify (·.addServer url)
  | .url, [_, url] => if c.api.isNone then modify (·.addServer url) else throw c.arityFault
  | .urlVariable, name :: defaultValue :: _ =>
    let x : ServerVariable := { defaultValue, description := nonEmpty? (c.textFrom 2) }
    match addVariable name x (← get).model.document.servers with
    | some servers => modify (·.editDocument fun doc => { doc with servers })
    | none => throw .noServer
  | .code, code :: rest =>
    let response ← responseOf c rest.head?
    modify (·.editDocument fun doc => { doc with components :=
      { doc.components with responses := doc.components.responses.insert code response } })
  | .route, [path, handler] => modify fun d => { d with routes := d.routes ++ [(path, handler)] }
  | _, _ => throw c.arityFault

/-- Carries out a command that describes a handler. A type is recorded before the handler is looked
up, whether there is one or not. -/
def describeHandler (c : Command) : Edit Unit := do
  match c.kind, c.args with
  | .method, [method] =>
    changeHandler c.kind fun h => { h with method := some (Text.lowercase method) }
  | .summary, _ :: _ => changeOperation c.kind fun o => { o with summary := some (c.textFrom 0) }
  | .handlerDescription, _ :: _ =>
    changeOperation c.kind fun o => { o with description := some (c.textFrom 0) }
  | .tags, tag :: tags => changeOperation c.kind fun o => { o with tags := tag :: tags }
  | .body, token :: _ =>
    let schema ← schemaOfToken c.kind token
    let body : RequestBody :=
      { description := nonEmpty? (c.textFrom 1), required := true, content := jsonContent schema }
    changeOperation c.kind fun o => { o with requestBody := some body }
  | .query, name :: token :: _ =>
    let schema ← schemaOfToken c.kind token
    let parameter : Parameter :=
      { name, location := "query", description := nonEmpty? (c.textFrom 2), required := true,
        schema }
    changeOperation c.kind fun o => { o with parameters := o.parameters ++ [parameter] }
  | .response, [code] => changeHandler c.kind (·.addResponse code {})
  | .response, code :: token :: _ =>
    let response ← responseOf c (some token)
    changeHandler c.kind (·.addResponse code response)
  | _, _ => throw c.arityFault

/-- Carries out a `begin`. -/
def openHandler (c : Command) : Edit Unit := do
  match c.args with
  | [id] =>
    match (← get).current with
    | some h => throw (.nestedBegin id h.id)
    | none => modify fun d => { d with current := some (.start id c.location) }
  | _ => throw c.arityFault

/-- Carries out an `end`. The open handler is taken out of the draft first, and is put back if the
`end` names another one. -/
def closeHandler (c : Command) : Edit (List Warning) := do
  match c.args with
  | [] => fileHandler (← takeHandler)
  | [id] =>
    let h ← takeHandler
    if id = h.id then fileHandler h
    else
      putBackHandler h
      throw (.endMismatch h.id id)
  | _ => throw c.arityFault

/-- Carries out a command, with what there is to say about it. Unknown commands change nothing. -/
def carryOut (c : Command) : Edit (List Warning) := do
  match c.kind with
  | .unknown _ => return []
  | kind =>
    checkPlace kind
    match kind with
    | .beginHandler =>
      openHandler c
      return []
    | .endHandler => closeHandler c
    | _ =>
      if kind.isHandlerField then describeHandler c else describeApi c
      return []

end Edit

namespace Draft

/-- Tries a command on a draft: the warnings or the fault with its place, and the draft that the
command leaves behind. -/
def attempt (d : Draft) (c : Command) : Except StructuralError (List Warning) × Draft :=
  match (Edit.carryOut c).run d with
  | .ok warnings d' => (.ok warnings, d')
  | .error fault d' => (.error ⟨d'.model.name, c.location, fault⟩, d')

/-- The draft after a list of commands, of which those that fail are passed over. -/
def attemptAll (d : Draft) (commands : List Command) : Draft :=
  commands.foldl (fun d c => (d.attempt c).2) d

end Draft

end ApiNotes
