/-
Bounds.
A bound is a lifetime, a trait, or a list of captured parameters. The arguments of a function trait
stand in parentheses; nowhere else in a type may they stand like that.
-/
import ApiNotes.Code.Grammar.Generics

namespace ApiNotes.Code

open Reading

/-! ## Traits -/

/-- Whether arguments in parentheses are next. -/
def atParenthesizedArguments (ts : List Token) : Bool :=
  atGroup .parenthesis ts || atColons ts && atGroup .parenthesis (ts.drop 2)

/-- Arguments in parentheses, perhaps after a double colon. -/
def parenthesizedArguments (g : Grammar) : Reading (List Tree) := do
  let _ ← op? "::"
  let inputs ← inside .parenthesis (commaList (g.type true))
  return inputs.map TypeFound.tree ++ (← returnType g false)

/-- Whether a bound may start here. -/
def atBound (rules : BoundRules) (ts : List Token) : Bool :=
  atAnyWord ts || atColons ts || atMark '?' ts || atLifetime ts || atGroup .parenthesis ts ||
    rules.constness && atGroup .bracket ts

/-- The constness of a trait, and whether there is one. -/
def constness? : Reading Bool := do
  if ← ahead (atGroup .bracket) then
    inside .bracket (word "const")
    return true
  else word? "const"

/-- A trait as a bound. One that is constant is not taken apart. One that need not hold binds no
parameters. -/
def traitBound (g : Grammar) (rules : BoundRules) : Reading Tree := do
  let bound ← binder? g
  let constant ← constness?
  if constant && !rules.constness then failure
  if ← mark? '?' then
    if bound.isSome then failure
    check fun ts => !atWord "for" ts
  let p ← path g false
  let admitsParentheses := (p.arguments.getD []).isEmpty
  let arguments ← if admitsParentheses && atParenthesizedArguments (← get) then
      parenthesizedArguments g
    else pure []
  return if constant then ⟨.verbatim, []⟩ else ⟨.bound, bound.getD [] ++ p.parts ++ arguments⟩

/-! ## Bounds -/

/-- The parameters that a type captures. -/
def capturedParameters : Reading Unit := do
  word "use"
  mark '<'
  let _ ← separated (atMark '>') (mark ',') do
    if ← lifetime? then pure ()
    else
      check fun ts => atName ts || atWord "Self" ts
      skip 1
  mark '>'

/-- A bound. -/
def bound (g : Grammar) (rules : BoundRules) : Reading BoundFound := do
  if ← lifetime? then return ⟨false, ⟨.bound, []⟩⟩
  if ← ahead (atWord "use") then
    capturedParameters
    if rules.capture then return ⟨false, ⟨.bound, []⟩⟩ else failure
  if ← ahead (atGroup .parenthesis) then
    return ⟨true, ← inside .parenthesis (traitBound g rules)⟩
  else return ⟨true, ← traitBound g rules⟩

/-- Bounds joined by pluses; a plus may follow the last one. -/
def boundsLoop (g : Grammar) (rules : BoundRules) (allowPlus : Bool) :
    Nat → Reading (List BoundFound)
  | 0 => failure
  | fuel + 1 => do
    let first ← bound g rules
    if allowPlus && (← ahead (atMark '+')) then
      skip 1
      if ← ahead (atBound rules) then
        let others ← boundsLoop g rules allowPlus fuel
        return first :: others
      else return [first]
    else return [first]

/-- Bounds joined by pluses; a plus may follow the last one. -/
def bounds (g : Grammar) (rules : BoundRules) (allowPlus : Bool) : Reading (List BoundFound) := do
  boundsLoop g rules allowPlus ((← get).length + 1)

/-- The bounds of a type; one of them is a trait. -/
def typeBounds (g : Grammar) (rules : BoundRules) (allowPlus : Bool) : Reading (List Tree) := do
  let read ← bounds g rules allowPlus
  if read.any BoundFound.isTrait then return read.map BoundFound.tree
  else failure

end ApiNotes.Code
