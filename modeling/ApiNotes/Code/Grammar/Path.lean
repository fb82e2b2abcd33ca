/-
Paths and their arguments.
In types the arguments of a path follow a name directly; in expressions a double colon has to stand
before them.
-/
import ApiNotes.Code.Grammar.Attribute

namespace ApiNotes.Code

open Reading

/-- The arguments of one segment of a path, if it has any. -/
abbrev SegmentArguments := Option (List TypeArgument)

/-- A path that was read. -/
structure PathFound where
  /-- Whether it starts with a self type in angle brackets. -/
  hasSelfType : Bool
  /-- Whether it starts with a double colon. -/
  rooted : Bool
  names : List String
  /-- The arguments of the last segment. -/
  arguments : SegmentArguments
  /-- Whether no segment has arguments. -/
  isPlain : Bool
  /-- The trees of its arguments and of its self type. -/
  parts : List Tree

/-! ## Arguments -/

/-- A constant as an argument or as the value that a parameter has without one: a block, a name or a
literal. -/
def constArgument (g : Grammar) : Reading Tree := do
  let ts ← get
  if atGroup .brace ts then
    let (attributes, body) ← attributedBlock g
    return ⟨.expression, attributes ++ [body]⟩
  else if atName ts then
    skip 1
    return ⟨.expression, []⟩
  else
    literal
    return ⟨.expression, []⟩

/-- Whether a constant is next that cannot be taken for a type. -/
def atConstArgument (ts : List Token) : Bool :=
  atLiteral ts || atGroup .brace ts

/-- An argument of a path. A name followed by an equals sign or a colon is a binding. -/
def genericArgument (g : Grammar) : Reading (TypeArgument × Tree) := do
  let ts ← get
  if atLifetime ts && !atMark '+' (ts.drop 1) then
    skip 1
    return (.other, ⟨.argument, []⟩)
  if atConstArgument ts then return (.other, ⟨.argument, [← constArgument g]⟩)
  let t ← g.type true
  if t.form == .name then
    if ← mark? '=' then
      if ← ahead atConstArgument then return (.other, ⟨.argument, [t.tree, ← constArgument g]⟩)
      else return (.other, ⟨.argument, [t.tree, (← g.type true).tree]⟩)
    if ← mark? ':' then
      let bounds ← plusList (fun ts => atMark ',' ts || atMark '>' ts) (g.bound ⟨false, true⟩)
      return (.other, ⟨.argument, t.tree :: bounds.map BoundFound.tree⟩)
  return (.type t.type, ⟨.argument, [t.tree]⟩)

/-- Arguments in angle brackets, perhaps after a double colon. -/
def angleArguments (g : Grammar) : Reading (List TypeArgument × List Tree) := do
  let _ ← op? "::"
  mark '<'
  let arguments ← separated (atMark '>') (mark ',') (genericArgument g)
  mark '>'
  return (arguments.map Prod.fst, arguments.map Prod.snd)

/-- The type of what a function gives back, if it is told. -/
def returnType (g : Grammar) (allowPlus : Bool) : Reading (List Tree) := do
  if ← op? "->" then return [(← g.type allowPlus).tree]
  else return []

/-! ## Paths -/

/-- A segment of a path. -/
def pathSegment (g : Grammar) (inExpression : Bool) :
    Reading (String × SegmentArguments × List Tree) := do
  if ← ahead (atWordOf ["super", "self", "crate", "try"]) then return (← anyWord, none, [])
  let n ← if ← ahead (atWord "Self") then anyWord else name
  let ts ← get
  let direct := !inExpression && atMark '<' ts && !atOp "<=" ts && !atOp "<<=" ts
  if direct || atColons ts && atMark '<' (ts.drop 2) then
    let (arguments, parts) ← angleArguments g
    return (n, some arguments, parts)
  else return (n, none, [])

/-- The path of a list of segments. -/
def pathOfSegments (hasSelfType rooted : Bool) (before : List Tree)
    (segments : List (String × SegmentArguments × List Tree)) : PathFound where
  hasSelfType
  rooted
  names := segments.map fun s => s.1
  arguments := (segments.getLast?.map fun s => s.2.1).getD none
  isPlain := segments.all fun s => s.2.1.isNone
  parts := before ++ segments.flatMap fun s => s.2.2

/-- A path without a self type. -/
def path (g : Grammar) (inExpression : Bool) : Reading PathFound := do
  let rooted ← op? "::"
  let first ← pathSegment g inExpression
  let others ← untilStop (fun ts => !atColons ts || atGroup .parenthesis (ts.drop 2)) do
    op "::"
    pathSegment g inExpression
  return pathOfSegments false rooted [] (first :: others)

/-- A path that may start with a self type in angle brackets. -/
def qualifiedPath (g : Grammar) (inExpression : Bool) : Reading PathFound := do
  if ← mark? '<' then
    let self ← g.type true
    let trait ← if ← word? "as" then
        let p ← path g false
        pure (p.names.map fun n => (n, none, []), p.parts)
      else pure ([], [])
    mark '>'
    op "::"
    let first ← pathSegment g inExpression
    let others ← untilStop (fun ts => !atColons ts) do
      op "::"
      pathSegment g inExpression
    return pathOfSegments true false (self.tree :: trait.2) (trait.1 ++ first :: others)
  else path g inExpression

end ApiNotes.Code
