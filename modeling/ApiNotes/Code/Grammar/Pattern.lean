/-
Patterns.
Alternatives are separated by bars, where a place admits them; a single pattern has none. A range
may lack its start or its end, and two dots alone stand for the rest of a list.
-/
import ApiNotes.Code.Grammar.Type

namespace ApiNotes.Code

open Reading

/-- A pattern of no special form. -/
def plainPattern (parts : List Tree) : PatternFound :=
  ⟨.other, ⟨.pattern, parts⟩⟩

/-! ## Alternatives -/

/-- Whether a bar is next, and no operator that starts with one. -/
def atBar (ts : List Token) : Bool :=
  atMark '|' ts && !atOp "||" ts && !atOp "|=" ts

/-- One pattern, or several separated by bars; a bar may stand before the first. -/
def alternatives (g : Grammar) : Reading PatternFound := do
  let led ← mark? '|'
  let first ← g.pattern
  let others ← untilStop (fun ts => !atBar ts) do
    mark '|'
    g.pattern
  if led || !others.isEmpty then
    return plainPattern (first.tree :: others.map PatternFound.tree)
  else return first

/-! ## Ranges -/

/-- The dots of a range, and whether its end is part of it. -/
def rangeDots : Reading Bool := do
  if ← op? "..=" then return true
  check fun ts => !atOp "..." ts
  op ".."
  return false

/-- The dots of a range in a pattern after its start: three dots count as well. -/
def patternRangeDots : Reading Bool := do
  if ← op? "..." then return true
  rangeDots

/-- A path in an expression. -/
def pathExpression (g : Grammar) : Reading Tree :=
  return ⟨.expression, (← qualifiedPath g true).parts⟩

/-- One end of a range in a pattern, if there is one. -/
def rangeBound? (g : Grammar) : Reading (Option Tree) := do
  let ts ← get
  if ts.isEmpty || atMark '|' ts || atMark '=' ts || atMark ':' ts && !atColons ts ||
      atMark ',' ts || atMark ';' ts || atWord "if" ts then return none
  if atLiteral ts then
    literal
    return some ⟨.expression, []⟩
  if atPlainSegment ts || atColons ts || atMark '<' ts then return some (← pathExpression g)
  if atWord "const" ts then
    skip 1
    let (attributes, body) ← attributedBlock g
    return some ⟨.expression, attributes ++ [body]⟩
  failure

/-- The rest of a range in a pattern, after its start. -/
def rangeFrom (g : Grammar) (start : Tree) : Reading PatternFound := do
  let closed ← patternRangeDots
  match ← rangeBound? g with
  | some stop => return plainPattern [start, stop]
  | none => if closed then failure else return ⟨.openRange, ⟨.pattern, [start]⟩⟩

/-- A range without a start, or the rest of a list. -/
def rangeWithoutStart (g : Grammar) : Reading PatternFound := do
  let closed ← rangeDots
  match ← rangeBound? g with
  | some stop => return ⟨.openRange, ⟨.pattern, [stop]⟩⟩
  | none => if closed then failure else return ⟨.rest, ⟨.pattern, []⟩⟩

/-! ## Structures -/

/-- The largest position of a field. -/
def maxPosition : Nat :=
  4294967295

/-- The name or the position of a field, and whether it is a name. -/
def member : Reading Bool := do
  match ← get with
  | .word w :: rest =>
    if isName w then
      set rest
      return true
    else failure
  | .literal (.integer n suffix) :: rest =>
    if suffix.isEmpty && n ≤ maxPosition then
      set rest
      return false
    else failure
  | _ => failure

/-- The pattern for a field. -/
def fieldPattern (g : Grammar) : Reading Tree := do
  let boxed ← word? "box"
  let byReference ← word? "ref"
  let mutable ← word? "mut"
  let bare := !boxed && !byReference && !mutable
  let named ← member
  if !bare && !named then failure
  if bare && (← ahead (atMark ':')) || !named then
    mark ':'
    return (← alternatives g).tree
  else return ⟨.pattern, []⟩

/-- The fields in a pattern; two dots may stand last. -/
def fieldPatterns (g : Grammar) : Nat → Reading (List Tree)
  | 0 => failure
  | fuel + 1 => do
    if ← ahead List.isEmpty then return []
    let attributes ← skipAttributes g
    if ← op? ".." then return [⟨.pattern, attributes⟩]
    let first : Tree := ⟨.field, attributes ++ [← fieldPattern g]⟩
    if ← ahead List.isEmpty then return [first]
    mark ','
    return first :: (← fieldPatterns g fuel)

/-- A pattern that starts with a path: the path, a macro, a structure, a tuple or a range. -/
def pathPattern (g : Grammar) : Reading PatternFound := do
  let p ← qualifiedPath g true
  let ts ← get
  if !p.hasSelfType && atMark '!' ts && !atOp "!=" ts && p.isPlain then
    skip 1
    let (_, tokens) ← anyGroup
    return plainPattern [⟨.invocation tokens, []⟩]
  if atGroup .brace ts then
    let fields ← inside .brace do
      fieldPatterns g ((← get).length + 1)
    return plainPattern (p.parts ++ fields)
  if atGroup .parenthesis ts then
    let fields ← inside .parenthesis (commaList (alternatives g))
    return plainPattern (p.parts ++ fields.map PatternFound.tree)
  if atOp ".." ts then rangeFrom g ⟨.expression, p.parts⟩
  else return plainPattern p.parts

/-- A pattern that names what it matches. -/
def namePattern (g : Grammar) : Reading PatternFound := do
  let _ ← word? "ref"
  let _ ← word? "mut"
  if ← ahead (atWord "self") then skip 1
  else let _ ← name
  if ← mark? '@' then return plainPattern [(← g.pattern).tree]
  else return plainPattern []

/-- A literal or a constant, or a range that starts with one. -/
def literalPattern (g : Grammar) : Reading PatternFound := do
  match ← rangeBound? g with
  | some start => if ← ahead (atOp "..") then rangeFrom g start else return plainPattern [start]
  | none => failure

/-! ## Patterns -/

/-- Whether a path is next that is more than a name. -/
def atPathPattern (ts : List Token) : Bool :=
  let next := ts.drop 1
  atName ts && (atColons next || atMark '!' next || atGroup .brace next ||
      atGroup .parenthesis next || atOp ".." next) ||
    atWord "self" ts && atColons next ||
    atColons ts || atMark '<' ts || atWordOf ["Self", "super", "crate"] ts

/-- A pattern without alternatives. -/
def pattern (g : Grammar) : Reading PatternFound := do
  let ts ← get
  if atPathPattern ts then pathPattern g
  else if atWord "_" ts then
    skip 1
    return plainPattern []
  else if atWord "box" ts then
    skip 1
    let _ ← g.pattern
    return ⟨.boxed, ⟨.verbatim, []⟩⟩
  else if atMark '-' ts || atLiteral ts || atWord "const" ts then literalPattern g
  else if atName ts || atWordOf ["ref", "mut", "self"] ts then namePattern g
  else if atMark '&' ts then
    skip 1
    let _ ← word? "mut"
    return plainPattern [(← g.pattern).tree]
  else if atGroup .parenthesis ts then
    let elements ← inside .parenthesis (commaList (alternatives g))
    return plainPattern (elements.map PatternFound.tree)
  else if atGroup .bracket ts then
    let elements ← inside .bracket (commaList (alternatives g))
    if elements.any (·.form == .openRange) then failure
    else return plainPattern (elements.map PatternFound.tree)
  else if atOp ".." ts && !atOp "..." ts then rangeWithoutStart g
  else failure

end ApiNotes.Code
