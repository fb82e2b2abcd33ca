/-
From a stream of commands to one document for each API.
The APIs are those that the commands address, in the order of their first mention; commands that
address none describe a single API without a name. A command goes to the API it addresses, or to
every API if it addresses none. Unknown commands are reported and skipped. The first fault ends the
run without documents.
-/
import ApiNotes.Api.Finish

namespace ApiNotes

/-- The names of the APIs that a stream of commands describes. -/
def apisOf (commands : List Command) : List String :=
  let names := firstOccurrences (commands.filterMap Command.target)
  if names.isEmpty then [""] else names

/-- Whether a command is meant for an API. -/
def Command.addresses (c : Command) (api : String) : Bool :=
  c.target.all (· == api)

/-- The draft after a command, if the command is meant for it. -/
def Draft.receive (d : Draft) (c : Command) : Logged StructuralError Draft :=
  if c.addresses d.model.name then
    match d.apply c with
    | .ok (d', warnings) => ⟨warnings.map .warning, .ok d'⟩
    | .error e => .fail e
  else pure d

/-- The drafts of all APIs after a command, in order. -/
def receiveAll (c : Command) : List Draft → Logged StructuralError (List Draft)
  | [] => pure []
  | d :: rest => do
    let d' ← d.receive c
    let rest' ← receiveAll c rest
    return d' :: rest'

/-- The drafts of all APIs after a stream of commands. -/
def draftAll (drafts : List Draft) : List Command → Logged StructuralError (List Draft)
  | [] => pure drafts
  | c :: rest =>
    match c.kind with
    | .unknown keyword => do
      Logged.warn [.unknownCommand c.location keyword]
      draftAll drafts rest
    | _ => do
      let drafts' ← receiveAll c drafts
      draftAll drafts' rest

/-- The finished documents of all APIs, in order. -/
def finishAll : List Draft → Logged StructuralError (List ApiModel)
  | [] => pure []
  | d :: rest => do
    let model ← match d.finish with
      | .ok (model, warnings) => ⟨warnings.map .warning, .ok model⟩
      | .error e => Logged.fail e
    let models ← finishAll rest
    return model :: models

/-- The documents that a stream of commands describes. -/
def interpret (commands : List Command) : Logged StructuralError (List ApiModel) := do
  let drafts ← draftAll ((apisOf commands).map Draft.start) commands
  finishAll drafts

end ApiNotes
