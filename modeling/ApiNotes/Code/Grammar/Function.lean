/-
Functions.
The first input may be a receiver, and three dots may stand last. The requirements on the generic
parameters count before the inputs.
-/
import ApiNotes.Code.Grammar.Type

namespace ApiNotes.Code

open Reading

/-- Whether a function follows, after words that qualify it. -/
def atFunction (allowSafe : Bool) (ts : List Token) : Bool :=
  let drop (w : String) (ts : List Token) := if atWord w ts then ts.drop 1 else ts
  let ts := drop "async" (drop "const" ts)
  let ts := if allowSafe && atWord "safe" ts then ts.drop 1 else drop "unsafe" ts
  let ts := if atWord "extern" ts then
      let rest := ts.drop 1
      if atText rest then rest.drop 1 else rest
    else ts
  atWord "fn" ts

/-- Whether a receiver is next, and not a pattern that starts like one. -/
def atReceiver (ts : List Token) : Bool :=
  let byReference := atMark '&' ts
  let ts := if byReference then ts.drop 1 else ts
  let ts := if byReference && atLifetime ts then ts.drop 1 else ts
  let ts := if atWord "mut" ts then ts.drop 1 else ts
  let next := ts.drop 1
  atWord "self" ts && !atColons next &&
    !(!byReference && atMark ':' next && atOp "..." (next.drop 1))

/-- The type of a receiver, if it is told. -/
def receiver (g : Grammar) : Reading (List Tree) := do
  let byReference ← mark? '&'
  if byReference then let _ ← lifetime?
  let _ ← word? "mut"
  word "self"
  if byReference then return []
  if ← mark? ':' then return [(← g.type true).tree]
  else return []

/-- The forms of function input. -/
inductive InputForm where
  | receiver
  | plain
  /-- Three dots, which end the list. -/
  | dots
deriving DecidableEq, Repr

/-- An input of a function. -/
def functionInput (g : Grammar) : Reading (InputForm × Tree) := do
  let attributes ← skipAttributes g
  if ← op? "..." then return (.dots, ⟨.input, attributes⟩)
  let ts ← get
  if atReceiver ts then return (.receiver, ⟨.input, attributes ++ (← receiver g)⟩)
  if atName ts && atMark '<' (ts.drop 1) then
    return (.plain, ⟨.input, attributes ++ [(← g.type true).tree]⟩)
  let p ← g.pattern
  mark ':'
  if ← op? "..." then return (.dots, ⟨.input, attributes ++ [p.tree]⟩)
  return (.plain, ⟨.input, attributes ++ [p.tree, (← g.type true).tree]⟩)

/-- The inputs of a function. A receiver stands first, and dots stand last. -/
def functionInputs (g : Grammar) : Nat → Bool → Reading (List Tree)
  | 0, _ => failure
  | fuel + 1, isFirst => do
    if ← ahead List.isEmpty then return []
    let (form, first) ← functionInput g
    match form with
    | .dots =>
      let _ ← mark? ','
      return [first]
    | _ =>
      if form == .receiver && !isFirst then failure
      if ← ahead List.isEmpty then return [first]
      mark ','
      return first :: (← functionInputs g fuel false)

/-- The head of a function, up to its requirements. -/
def signature (g : Grammar) (allowSafe : Bool) : Reading (List Tree) := do
  let _ ← word? "const"
  let _ ← word? "async"
  let safe ← if allowSafe then word? "safe" else pure false
  if !safe then let _ ← word? "unsafe"
  let _ ← foreignLanguage?
  word "fn"
  let _ ← name
  let (_, parameters) ← generics g
  let inputs ← inside .parenthesis do
    functionInputs g ((← get).length + 1) true
  let output ← returnType g true
  let (_, required) ← requirements g
  return parameters ++ required ++ inputs ++ output

/-- Whether a token is one of certain words. -/
def isWordOf (words : List String) : Token → Bool
  | .word w => words.contains w
  | _ => false

/-- A function. One without a body is taken apart only if that is admitted. -/
def function (g : Grammar) (keepBodiless : Bool) : Reading (Option Tree) := do
  let head ← signature g false
  if ← mark? ';' then return if keepBodiless then some ⟨.function, head⟩ else none
  else
    let (attributes, body) ← attributedBlock g
    return some ⟨.function, attributes ++ head ++ [body]⟩

/-- A function that is defined elsewhere. One with a body, or one that is declared safe, is not taken
apart. -/
def foreignFunction (g : Grammar) : Reading (Option Tree) := do
  let start ← get
  let head ← signature g true
  let safe := atWord "safe" (start.dropWhile fun t => isWordOf ["const", "async"] t)
  if ← ahead (atGroup .brace) then
    let _ ← attributedBlock g
    return none
  else
    mark ';'
    return if safe then none else some ⟨.function, head⟩

end ApiNotes.Code
