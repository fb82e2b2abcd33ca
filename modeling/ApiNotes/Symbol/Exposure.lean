/-
How attributes expose a field or a variant.
Only `serde` attributes count. Their arguments are read item by item, and reading stops at the first
item that is not well formed; what the items before it said stays. An item hides the field, renames
it, or has no effect. Of several new names the last counts, and a hidden field stays hidden.
-/
import ApiNotes.Code.SourceUnit

namespace ApiNotes.Code

/-- What an item of an attribute asks for. -/
inductive ExposureStep where
  | hide
  | rename (name : String)
deriving DecidableEq, Repr

/-- How a field or a variant is exposed. -/
structure Exposure where
  /-- The name that attributes give to it. -/
  name : Option String := none
  /-- Whether it is not exposed at all. -/
  hidden : Bool := false
deriving DecidableEq, Repr

namespace Exposure

/-- An exposure after one more step. -/
def step (e : Exposure) : ExposureStep → Exposure
  | .hide => { e with hidden := true }
  | .rename name => { e with name := some name }

/-- The exposure that a list of steps leads to. -/
def ofSteps (steps : List ExposureStep) : Exposure :=
  steps.foldl step {}

end Exposure

/-! ## Items of an attribute -/

/-- What an item asks for, and the tokens after it unless it is malformed. -/
structure ItemRead where
  steps : List ExposureStep
  rest : Option (List Token)

/-- The path of an item; keywords count as names. -/
def itemPath : Reading (List String) := do
  let rooted ← Reading.op? "::"
  let first ← Reading.anyWord
  let others ← Reading.untilStop (fun ts => !atColons ts) do
    Reading.op "::"
    Reading.anyWord
  return (if rooted then [""] else []) ++ first :: others

/-- The steps of items separated by commas, and whether all of them are well formed. `read` gives
what an item of some path says, from the tokens after the path. -/
def itemSteps (read : List String → List Token → ItemRead) :
    Nat → List Token → List ExposureStep × Bool
  | 0, _ => ([], false)
  | fuel + 1, ts =>
    match itemPath.run ts with
    | none => ([], false)
    | some (path, rest) =>
      match read path rest with
      | ⟨steps, none⟩ => (steps, false)
      | ⟨steps, some []⟩ => (steps, true)
      | ⟨steps, some [.mark ',' _]⟩ => (steps, true)
      | ⟨steps, some (.mark ',' _ :: rest)⟩ =>
        let (more, complete) := itemSteps read fuel rest
        (steps ++ more, complete)
      | ⟨steps, some _⟩ => (steps, false)

/-- An item that asks for nothing: a name alone, or one with a value. -/
def readValue (ts : List Token) : ItemRead :=
  match ts with
  | .mark '=' _ :: rest => ⟨[], ((Grammar.forTokens rest).value.run rest).map Prod.snd⟩
  | _ => ⟨[], some ts⟩

/-- A text after an equals sign. -/
def readText (ts : List Token) : Option (String × List Token) :=
  match ts with
  | .mark '=' _ :: .literal (.text value) :: rest => some (value, rest)
  | _ => none

/-- The steps of items in parentheses, and the tokens after them unless they are malformed. There
has to be at least one item. -/
def readNested (read : List String → List Token → ItemRead) (ts : List Token) : ItemRead :=
  match ts with
  | .group .parenthesis content :: rest =>
    let (steps, complete) := itemSteps read (content.length + 1) content
    ⟨steps, if complete then some rest else none⟩
  | _ => ⟨[], none⟩

/-- An item of a new name that is told apart by direction. Only the name for writing counts. -/
def readDirection (path : List String) (ts : List Token) : ItemRead :=
  match readText ts with
  | some (name, rest) => ⟨if path == ["serialize"] then [.rename name] else [], some rest⟩
  | none => ⟨[], none⟩

/-- An item of a `serde` attribute. -/
def readItem (path : List String) (ts : List Token) : ItemRead :=
  if path == ["rename"] then
    if atMark '=' ts then
      match readText ts with
      | some (name, rest) => ⟨[.rename name], some rest⟩
      | none => ⟨[], none⟩
    else readNested readDirection ts
  else if path == ["skip"] || path == ["skip_serializing"] then ⟨[.hide], some ts⟩
  else if atGroup .parenthesis ts then readNested (fun _ => readValue) ts
  else readValue ts

/-! ## Attributes -/

/-- The steps of an attribute, up to its first malformed item. -/
def Attribute.steps (a : Attribute) : List ExposureStep :=
  if a.path == ["serde"] then
    match a.arguments with
    | some ts => (itemSteps readItem (ts.length + 1) ts).1
    | none => []
  else []

/-- The exposure that attributes ask for. -/
def Exposure.ofAttributes (attributes : List Attribute) : Exposure :=
  .ofSteps (attributes.flatMap Attribute.steps)

end ApiNotes.Code
