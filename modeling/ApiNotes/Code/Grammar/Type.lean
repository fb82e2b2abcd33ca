/-
Types.
Where a sum of bounds is admitted, a path followed by a plus is one. A type in parentheses is the
type itself, unless a comma makes it a tuple or a plus makes it a bound.
-/
import ApiNotes.Code.Grammar.Bound

namespace ApiNotes.Code

open Reading

/-- A type without a form of its own. -/
def opaqueType (parts : List Tree) : TypeFound :=
  ⟨.other, .other, ⟨.type, parts⟩⟩

/-- A type that is not taken apart. -/
def verbatimType : TypeFound :=
  ⟨.other, .other, ⟨.verbatim, []⟩⟩

/-- The bounds that may stand in a type without `dyn` or `impl`. -/
def plainBounds : BoundRules := ⟨false, false⟩

/-! ## Function types -/

/-- The language of a function, if it is told. -/
def foreignLanguage? : Reading Bool := do
  if ← word? "extern" then
    if ← ahead atText then skip 1
    return true
  else return false

/-- The type of an input of a function type; the first input may be the receiver. A mutable receiver
is not taken apart. -/
def functionTypeInput (g : Grammar) (isFirst : Bool) : Reading Tree := do
  let ts ← get
  if isFirst && atWord "mut" ts && atWord "self" (ts.drop 1) then
    skip 2
    if ← ahead fun ts => atMark ':' ts && !atColons ts then
      skip 1
      let _ ← g.type true
      return ⟨.verbatim, []⟩
    else return ⟨.verbatim, []⟩
  else
    let named := atName ts || atWord "_" ts || isFirst && atWord "self" ts
    if named && atMark ':' (ts.drop 1) && !atColons (ts.drop 1) then skip 2
    return (← g.type true).tree

/-- The inputs of a function type; three dots may stand last. -/
def functionTypeInputs (g : Grammar) : Nat → Bool → Reading (List Tree)
  | 0, _ => failure
  | fuel + 1, isFirst => do
    if ← ahead List.isEmpty then return []
    let attributes ← skipAttributes g
    let ts ← get
    let named := (atName ts || atWord "_" ts) && atMark ':' (ts.drop 1) && atOp "..." (ts.drop 2)
    if atOp "..." ts || named then
      if named then skip 2
      op "..."
      let _ ← mark? ','
      return [⟨.input, attributes⟩]
    else
      let first : Tree := ⟨.input, attributes ++ [← functionTypeInput g isFirst]⟩
      if ← ahead List.isEmpty then return [first]
      mark ','
      return first :: (← functionTypeInputs g fuel false)

/-- The inputs and the result of a function type. -/
def functionType (g : Grammar) : Reading (List Tree) := do
  let _ ← word? "unsafe"
  let _ ← foreignLanguage?
  word "fn"
  let inputs ← inside .parenthesis do
    functionTypeInputs g ((← get).length + 1) true
  return inputs ++ (← returnType g false)

/-! ## Parentheses and sums -/

/-- More bounds, each after a plus. -/
def moreBounds (g : Grammar) : Reading (List Tree) := do
  let read ← untilStop (fun ts => !atMark '+' ts) do
    mark '+'
    bound g plainBounds
  return read.map BoundFound.tree

/-- What stands between parentheses in a type: nothing or several types for a tuple, a single type,
or a trait that need not hold. -/
def parenthesizedContent (g : Grammar) : Reading (Option TypeFound × List Tree × Bool) := do
  let ts ← get
  if ts.isEmpty then return (none, [], false)
  if atLifetime ts then
    let single := opaqueType (← typeBounds g plainBounds true)
    return (some single, [single.tree], false)
  if atMark '?' ts then
    return (none, [← traitBound g plainBounds], true)
  let first ← g.type true
  if ← ahead (atMark ',') then
    mark ','
    let others ← commaList (g.type true)
    return (none, first.tree :: others.map TypeFound.tree, false)
  else return (some first, [first.tree], false)

/-- A type in parentheses, a tuple, or bounds of which the first is in parentheses. -/
def parenthesizedType (g : Grammar) (allowPlus : Bool) : Reading TypeFound := do
  match ← inside .parenthesis (parenthesizedContent g) with
  | (none, parts, isTrait) =>
    if isTrait then
      let single ← ahead fun ts => !atMark '+' ts
      let more ← moreBounds g
      return ⟨.other, if single then .trait else .other, ⟨.type, parts ++ more⟩⟩
    else return opaqueType parts
  | (some first, parts, _) =>
    let isBound := first.form == .name || first.form == .path || first.form == .trait
    if allowPlus && isBound && (← ahead (atMark '+')) then
      let more ← moreBounds g
      return opaqueType (parts ++ more)
    else return ⟨.parenthesized first.type, .other, ⟨.type, parts⟩⟩

/-- A type that starts with a path: the path, a macro, or bounds of which it is the first. -/
def pathType (g : Grammar) (bound : Option (List Tree)) (allowPlus : Bool) :
    Reading TypeFound := do
  let p ← qualifiedPath g false
  let type : TypeExpr :=
    .path p.names.dropLast (p.names.getLast?.getD "") (p.arguments.getD [])
  if p.hasSelfType then return ⟨type, .other, ⟨.type, p.parts⟩⟩
  let ts ← get
  if atMark '!' ts && !atOp "!=" ts && p.isPlain then
    skip 1
    let (_, tokens) ← anyGroup
    return opaqueType [⟨.invocation tokens, []⟩]
  let parts := bound.getD [] ++ p.parts
  if allowPlus && atMark '+' ts then
    skip 1
    if ← ahead (atBound plainBounds) then
      let others ← bounds g plainBounds true
      return opaqueType (parts ++ others.map BoundFound.tree)
    else return opaqueType parts
  else if bound.isSome then return ⟨.other, .trait, ⟨.type, parts⟩⟩
  else
    let isName := !p.rooted && p.names.length == 1
    return ⟨type, if isName then .name else .path, ⟨.type, parts⟩⟩

/-- Whether a form that is built into the compiler is next. -/
def atBuiltIn (ts : List Token) : Bool :=
  atWord "builtin" ts && atMark '#' (ts.drop 1)

/-- A form that is built into the compiler, with its tokens in parentheses. It is not taken apart. -/
def builtIn : Reading Unit := do
  skip 2
  let _ ← name
  let _ ← content .parenthesis

/-! ## Types -/

/-- A type; the flag admits sums of bounds. -/
def type (g : Grammar) (allowPlus : Bool) : Reading TypeFound := do
  let bound ← binder? g
  let ts ← get
  let startsPath := atName ts || atWordOf ["super", "self", "Self", "crate"] ts
  let startsFunction := atWordOf ["fn", "unsafe", "extern"] ts
  if bound.isSome && !startsPath && !startsFunction then failure
  if atGroup .parenthesis ts then parenthesizedType g allowPlus
  else if startsFunction then
    let parts ← functionType g
    return opaqueType (bound.getD [] ++ parts)
  else if atBuiltIn ts then
    builtIn
    return verbatimType
  else if startsPath || atColons ts || atMark '<' ts then pathType g bound allowPlus
  else if atWord "dyn" ts then
    skip 1
    let starred ← mark? '*'
    let bounds ← typeBounds g plainBounds allowPlus
    return if starred then verbatimType else opaqueType bounds
  else if atGroup .bracket ts then
    inside .bracket do
      let element ← g.type true
      if ← mark? ';' then
        let length ← g.value
        return ⟨.array element.type, .other, ⟨.type, [element.tree, length]⟩⟩
      else return ⟨.slice element.type, .other, ⟨.type, [element.tree]⟩⟩
  else if atMark '*' ts then
    skip 1
    check (atWordOf ["const", "mut"])
    skip 1
    let target ← g.type false
    return ⟨.pointer target.type, .other, ⟨.type, [target.tree]⟩⟩
  else if atMark '&' ts then
    skip 1
    let _ ← lifetime?
    let _ ← word? "mut"
    let target ← g.type false
    return ⟨.reference target.type, .other, ⟨.type, [target.tree]⟩⟩
  else if atMark '!' ts then
    skip 1
    return opaqueType []
  else if atWord "impl" ts then
    skip 1
    return opaqueType (← typeBounds g ⟨true, true⟩ allowPlus)
  else if atWord "_" ts then
    skip 1
    return opaqueType []
  else if atLifetime ts then return opaqueType (← typeBounds g plainBounds true)
  else failure

end ApiNotes.Code
