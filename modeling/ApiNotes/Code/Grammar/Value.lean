/-
Constants, statics and type synonyms.
-/
import ApiNotes.Code.Grammar.Function

namespace ApiNotes.Code

open Reading

/-! ## Constants and statics -/

/-- A constant after its visibility. One with generic parameters is not taken apart, nor is one
without a value, unless that is admitted. -/
def constant (g : Grammar) (keepValueless : Bool) : Reading (Option Tree) := do
  word "const"
  let _ ← nameOrBlank
  let (isGeneric, _) ← generics g
  mark ':'
  let t ← g.type true
  let value ← if ← mark? '=' then pure (some (← g.initializer)) else pure none
  let (isRestricted, _) ← requirements g
  mark ';'
  let keeps := !isGeneric && !isRestricted && (value.isSome || keepValueless)
  return if keeps then some ⟨.constant, t.tree :: value.toList⟩ else none

/-- A static after its visibility. One without a type or a value is not taken apart. -/
def staticItem (g : Grammar) : Reading (Option Tree) := do
  word "static"
  let _ ← word? "mut"
  let _ ← name
  if ← mark? '=' then
    let _ ← g.value
    mark ';'
    return none
  else
    mark ':'
    let t ← g.type true
    if ← mark? ';' then return none
    mark '='
    let value ← g.initializer
    mark ';'
    return some ⟨.static, [t.tree, value]⟩

/-- A static that is defined elsewhere, after its visibility. One with a value, or one whose
safety is told, is not taken apart. -/
def foreignStatic (g : Grammar) : Reading (Option Tree) := do
  let told ← if ← word? "unsafe" then pure true else word? "safe"
  word "static"
  let _ ← word? "mut"
  let _ ← name
  mark ':'
  let t ← g.type true
  let valued ← mark? '='
  if valued then let _ ← g.value
  mark ';'
  return if told || valued then none else some ⟨.static, [t.tree]⟩

/-! ## Types -/

/-- Where the requirements of a type may stand. -/
inductive RequirementsPlace where
  | beforeValue
  | afterValue
  | both
deriving DecidableEq, Repr

/-- A type in any of the places where one may be named. -/
structure TypeNamed where
  name : String
  /-- Its generic parameters and the requirements on them. -/
  head : List Tree
  /-- The bounds, if there is a colon. -/
  bounds : Option (List Tree)
  value : Option TypeFound

/-- A type that is named, after its visibility. -/
def typeNamed (g : Grammar) (place : RequirementsPlace) : Reading TypeNamed := do
  word "type"
  let n ← name
  let (_, parameters) ← generics g
  let bounds ← if ← mark? ':' then
      let read ← plusList (fun ts => atWord "where" ts || atMark '=' ts || atMark ';' ts)
        (g.bound ⟨false, true⟩)
      pure (some (read.map BoundFound.tree))
    else pure none
  let (isRestricted, before) ← if place == .afterValue then pure (false, []) else requirements g
  let value ← if ← mark? '=' then pure (some (← g.type true)) else pure none
  let (_, after) ← if place == .beforeValue || isRestricted then pure (false, [])
    else requirements g
  mark ';'
  return ⟨n, parameters ++ before ++ after, bounds, value⟩

/-- A type synonym after its visibility. One with bounds or without a type is not taken apart. -/
def synonym (g : Grammar) : Reading (Option Tree) := do
  let t ← typeNamed g .beforeValue
  match t.bounds, t.value with
  | none, some value => return some ⟨.synonym t.name value.type, t.head ++ [value.tree]⟩
  | _, _ => return none

end ApiNotes.Code
