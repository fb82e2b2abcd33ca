/-
Generic parameters and the requirements on them.
A list of parameters stands after a name, or after the word `for` where a type, a bound or a closure
binds parameters of its own. Requirements follow the word `where` and end where a body, a value or
the next part of an item begins.
-/
import ApiNotes.Code.Grammar.Path

namespace ApiNotes.Code

open Reading

/-! ## Parameters -/

/-- Whether generic parameters are next, and not a type that starts with an angle bracket. -/
def atGenerics (ts : List Token) : Bool :=
  let next := ts.drop 1
  let beyond := ts.drop 2
  atMark '<' ts && (atMark '>' next || atMark '#' next || atWord "const" next ||
    (atLifetime next || atName next) &&
      (atMark '>' beyond || atMark ',' beyond || atMark ':' beyond && !atColons beyond ||
        atMark '=' beyond))

/-- Lifetimes joined by pluses. -/
def lifetimeBounds (stop : List Token → Bool) : Reading Unit := do
  let _ ← plusList stop lifetime

/-- A generic parameter; the flag admits an underscore in place of a name. -/
def genericParameter (g : Grammar) (allowBlank : Bool) : Reading Tree := do
  let attributes ← skipAttributes g
  let ts ← get
  if atLifetime ts then
    skip 1
    if ← mark? ':' then lifetimeBounds fun ts => atMark ',' ts || atMark '>' ts
    return ⟨.parameter, attributes⟩
  else if atName ts then
    skip 1
    let bounds ← if ← mark? ':' then
        plusList (fun ts => atMark ',' ts || atMark '>' ts || atMark '=' ts) (g.bound ⟨false, true⟩)
      else pure []
    let value ← if ← mark? '=' then pure [(← g.type true).tree] else pure []
    return ⟨.parameter, attributes ++ bounds.map BoundFound.tree ++ value⟩
  else if atWord "const" ts then
    skip 1
    let _ ← name
    mark ':'
    let t ← g.type true
    let value ← if ← mark? '=' then pure [← constArgument g] else pure []
    return ⟨.parameter, attributes ++ t.tree :: value⟩
  else if allowBlank && atWord "_" ts then
    skip 1
    return ⟨.parameter, attributes⟩
  else failure

/-- A list of generic parameters in angle brackets. -/
def parameterList (g : Grammar) (allowBlank : Bool) : Reading (List Tree) := do
  mark '<'
  let parameters ← separated (atMark '>') (mark ',') (genericParameter g allowBlank)
  mark '>'
  return parameters

/-- The generic parameters of an item, and whether there is a list of them. -/
def generics (g : Grammar) : Reading (Bool × List Tree) := do
  if ← ahead (atMark '<') then return (true, ← parameterList g true)
  else return (false, [])

/-- The parameters that are bound after `for`, if there are any. -/
def binder? (g : Grammar) : Reading (Option (List Tree)) := do
  if ← word? "for" then return some (← parameterList g false)
  else return none

/-! ## Requirements -/

/-- Whether a list of requirements ends here. -/
def atRequirementsEnd (ts : List Token) : Bool :=
  ts.isEmpty || atGroup .brace ts || atMark ',' ts || atMark ';' ts ||
    atMark ':' ts && !atColons ts || atMark '=' ts

/-- A requirement on the generic parameters. -/
def requirement (g : Grammar) : Reading Tree := do
  let ts ← get
  if atLifetime ts && atMark ':' (ts.drop 1) then
    skip 2
    lifetimeBounds atRequirementsEnd
    return ⟨.requirement, []⟩
  else
    let bound ← binder? g
    let t ← g.type true
    mark ':'
    let bounds ← plusList atRequirementsEnd (g.bound ⟨false, true⟩)
    return ⟨.requirement, bound.getD [] ++ t.tree :: bounds.map BoundFound.tree⟩

/-- Requirements separated by commas. -/
def requirementsLoop (g : Grammar) : Nat → Reading (List Tree)
  | 0 => failure
  | fuel + 1 => do
    if ← ahead atRequirementsEnd then return []
    let first ← requirement g
    if ← mark? ',' then return first :: (← requirementsLoop g fuel)
    else return [first]

/-- The requirements on generic parameters, and whether there is a list of them. Parameters right
after `where` are not admitted. -/
def requirements (g : Grammar) : Reading (Bool × List Tree) := do
  if ← word? "where" then
    check fun ts => !atGenerics ts
    return (true, ← requirementsLoop g ((← get).length + 1))
  else return (false, [])

end ApiNotes.Code
