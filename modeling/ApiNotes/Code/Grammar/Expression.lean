/-
Expressions.
An expression is an operand and what follows it: operators, each with an operand that binds tighter.
Where a block follows, as after the condition of a loop, a path does not start a struct literal.
Comparisons do not chain, and a range is no operand of a further operator.
-/
import ApiNotes.Code.Grammar.Pattern
import ApiNotes.Code.Lexeme.Number

namespace ApiNotes.Code

open Reading

/-- An expression of no special form. -/
def plainExpr (parts : List Tree) : ExprFound where
  form := .other
  tree := ⟨.expression, parts⟩

/-- A range. -/
def rangeExpr (parts : List Tree) : ExprFound where
  form := .range
  tree := ⟨.expression, parts⟩

/-- An expression that ends with its block. -/
def blockExpr (parts : List Tree) : ExprFound where
  form := .block
  tree := ⟨.expression, parts⟩

/-- An expression that is not taken apart. -/
def verbatimExpr : ExprFound where
  form := .other
  tree := ⟨.verbatim, []⟩
  hidesAttributes := true

/-! ## Operators -/

/-- The binary operators; one that starts like another stands before it. -/
def binaryOperators : List (String × Precedence) :=
  [("+=", .assign), ("-=", .assign), ("*=", .assign), ("/=", .assign), ("%=", .assign),
   ("^=", .assign), ("&=", .assign), ("|=", .assign), ("<<=", .assign), (">>=", .assign),
   ("&&", .and), ("||", .or), ("<<", .shift), (">>", .shift),
   ("==", .compare), ("<=", .compare), ("!=", .compare), (">=", .compare),
   ("+", .sum), ("-", .sum), ("*", .product), ("/", .product), ("%", .product),
   ("^", .bitXor), ("&", .bitAnd), ("|", .bitOr), ("<", .compare), (">", .compare)]

/-- The binary operator that is next. -/
def binaryOperator? (ts : List Token) : Option (String × Precedence) :=
  match ts with
  | .mark _ _ :: _ => binaryOperators.find? fun (operator, _) => atOp operator ts
  | _ => none

/-- Whether an equals sign is next that assigns. -/
def atAssignment (ts : List Token) : Bool :=
  atMark '=' ts && !atOp "=>" ts

/-- The precedence of the operator that is next, the lowest if there is none. -/
def nextPrecedence (ts : List Token) : Precedence :=
  match binaryOperator? ts with
  | some (_, p) => p
  | none =>
    if atAssignment ts then .assign
    else if atOp ".." ts then .range
    else if atWord "as" ts then .cast
    else .lowest

/-- Operators that follow an operand and bind tighter than the one before it, or as tight if both
assign. -/
def tighterLoop (g : Grammar) (allowStruct : Bool) (p : Precedence) :
    Nat → ExprFound → Reading ExprFound
  | 0, _ => failure
  | fuel + 1, e => do
    let before ← get
    let next := nextPrecedence before
    if p.rank < next.rank || next == p && p == .assign then
      let e ← g.operators allowStruct next e
      if (← get).length == before.length then return e
      else tighterLoop g allowStruct p fuel e
    else return e

/-- The operand after an operator, with the operators that bind tighter. -/
def operand (g : Grammar) (allowStruct : Bool) (p : Precedence) : Reading ExprFound := do
  let e ← g.unary allowStruct
  tighterLoop g allowStruct p ((← get).length + 1) e

/-- Whether the end of a range is missing here. -/
def atRangeEnd (allowStruct : Bool) (ts : List Token) : Bool :=
  ts.isEmpty || atMark ',' ts || atMark ';' ts || atMark '.' ts && !atOp ".." ts ||
    atMark '?' ts || atOp "=>" ts || !allowStruct && atGroup .brace ts ||
    ['=', '+', '/', '%', '^', '>'].any (atMark · ts) ||
    ["<=", "!=", "-=", "*=", "&=", "|=", "<<="].any (atOp · ts) || atWord "as" ts

/-- The end of a range; one that is part of the range may not be missing. -/
def rangeEnd (g : Grammar) (allowStruct closed : Bool) : Reading (List Tree) := do
  if !closed && (← ahead (atRangeEnd allowStruct)) then return []
  else return [(← operand g allowStruct .range).tree]

/-- Whether what is next may not follow a cast. -/
def atAfterCast (ts : List Token) : Bool :=
  atMark '.' ts && !atOp ".." ts || atMark '?' ts || atGroup .bracket ts || atGroup .parenthesis ts

/-- Operators that follow an expression and bind no looser than a precedence. -/
def operatorsLoop (g : Grammar) (allowStruct : Bool) (base : Precedence) :
    Nat → ExprFound → Reading ExprFound
  | 0, _ => failure
  | fuel + 1, e => do
    let ts ← get
    if e.form == .range then return e
    match binaryOperator? ts with
    | some (operator, p) =>
      if p.rank < base.rank then return e
      if p == .compare && e.form == .comparison then failure
      skip operator.length
      let right ← operand g allowStruct p
      let form := if p == .compare then .comparison else .other
      operatorsLoop g allowStruct base fuel
        { e with form, tree := ⟨.expression, [e.tree, right.tree]⟩ }
    | none =>
      if base.rank ≤ Precedence.assign.rank && atAssignment ts then
        skip 1
        let right ← operand g allowStruct .assign
        operatorsLoop g allowStruct base fuel
          { e with form := .other, tree := ⟨.expression, [e.tree, right.tree]⟩ }
      else if base.rank ≤ Precedence.range.rank && atOp ".." ts then
        let closed ← rangeDots
        let stop ← rangeEnd g allowStruct closed
        operatorsLoop g allowStruct base fuel (rangeExpr (e.tree :: stop))
      else if base.rank ≤ Precedence.cast.rank && atWord "as" ts then
        skip 1
        let t ← g.type false
        check fun ts => !atAfterCast ts
        operatorsLoop g allowStruct base fuel
          { e with form := .other, tree := ⟨.expression, [e.tree, t.tree]⟩ }
      else return e

/-- Operators that follow an expression and bind no looser than a precedence. -/
def operators (g : Grammar) (allowStruct : Bool) (base : Precedence) (e : ExprFound) :
    Reading ExprFound := do
  operatorsLoop g allowStruct base ((← get).length + 1) e

/-! ## Calls, fields and indices -/

/-- Whether a text is the position of a field. -/
def isPosition (text : List Char) : Bool :=
  match number? text with
  | some (.integer n "", []) => n ≤ maxPosition
  | _ => false

/-- The positions that a decimal spells after a dot, as in `pair.0.1`; it may end in a further
dot. Gives whether it does. -/
def positionsOf (spelling : String) : Option Bool :=
  let chars := spelling.toList
  let dotted := chars.getLast? == some '.'
  let inner := if dotted then chars.dropLast else chars
  if (inner.splitOn '.').all isPosition then some dotted else none

/-- The parts of what may follow a dot: the field of a name or position, a method with its arguments,
or an `await`. -/
def afterDot (g : Grammar) : Reading (List Tree) := do
  if ← word? "await" then return []
  let named ← member
  let turbofish ← if named && (← ahead atColons) then
      pure (some (← angleArguments g).2)
    else pure none
  if named && (turbofish.isSome || (← ahead (atGroup .parenthesis))) then
    let inputs ← inside .parenthesis (commaList g.value)
    return turbofish.getD [] ++ inputs
  else return []

/-- Calls, fields, indices and question marks after an operand. -/
def trailersLoop (g : Grammar) : Nat → ExprFound → Reading ExprFound
  | 0, _ => failure
  | fuel + 1, e => do
    let ts ← get
    if atGroup .parenthesis ts then
      let inputs ← inside .parenthesis (commaList g.value)
      trailersLoop g fuel (plainExpr (e.tree :: inputs))
    else if atMark '.' ts && !atOp ".." ts && e.form != .range then
      skip 1
      match ← get with
      | .literal (.decimal spelling) :: rest =>
        set rest
        match positionsOf spelling with
        | some false => trailersLoop g fuel (plainExpr [e.tree])
        | some true =>
          let parts ← afterDot g
          trailersLoop g fuel (plainExpr (e.tree :: parts))
        | none => failure
      | _ =>
        let parts ← afterDot g
        trailersLoop g fuel (plainExpr (e.tree :: parts))
    else if atGroup .bracket ts then
      let index ← inside .bracket g.value
      trailersLoop g fuel (plainExpr [e.tree, index])
    else if atMark '?' ts && e.form != .range then
      skip 1
      trailersLoop g fuel (plainExpr [e.tree])
    else return e

/-- Calls, fields, indices and question marks after an operand. -/
def trailers (g : Grammar) (e : ExprFound) : Reading ExprFound := do
  trailersLoop g ((← get).length + 1) e

/-! ## Paths, macros and struct literals -/

/-- A field in a struct literal. -/
def fieldValue (g : Grammar) : Reading Tree := do
  let attributes ← skipAttributes g
  let named ← member
  if (← ahead (atMark ':')) || !named then
    mark ':'
    return ⟨.field, attributes ++ [← g.value]⟩
  else return ⟨.field, attributes⟩

/-- The fields in a struct literal; two dots with a value may stand last. -/
def fieldValues (g : Grammar) : Nat → Reading (List Tree)
  | 0 => failure
  | fuel + 1 => do
    if ← ahead List.isEmpty then return []
    if ← op? ".." then
      if ← ahead List.isEmpty then return []
      else return [← g.value]
    let first ← fieldValue g
    if ← ahead List.isEmpty then return [first]
    mark ','
    return first :: (← fieldValues g fuel)

/-- An expression that starts with a path. -/
def pathOperand (g : Grammar) (allowStruct : Bool) : Reading ExprFound := do
  let p ← qualifiedPath g true
  let ts ← get
  if !p.hasSelfType && atMark '!' ts && !atOp "!=" ts && p.isPlain then
    skip 1
    let (d, tokens) ← anyGroup
    return ⟨if d == .brace then .bracedMacro else .other, ⟨.invocation tokens, []⟩, false⟩
  if allowStruct && atGroup .brace ts then
    let fields ← inside .brace do
      fieldValues g ((← get).length + 1)
    return plainExpr (p.parts ++ fields)
  return plainExpr p.parts

/-! ## Closures and jumps -/

/-- An input of a closure. One out of a box, without a type, is not taken apart. -/
def closureInput (g : Grammar) : Reading Tree := do
  let attributes ← skipAttributes g
  let p ← g.pattern
  if ← mark? ':' then return ⟨.input, attributes ++ [p.tree, (← g.type true).tree]⟩
  else return if p.form == .boxed then ⟨.verbatim, []⟩ else ⟨.input, attributes ++ [p.tree]⟩

/-- A closure. -/
def closure (g : Grammar) (allowStruct : Bool) : Reading ExprFound := do
  let bound ← binder? g
  let _ ← word? "const"
  let _ ← word? "static"
  let _ ← word? "async"
  let _ ← word? "move"
  mark '|'
  let inputs ← separated (atMark '|') (mark ',') (closureInput g)
  mark '|'
  let before := bound.getD [] ++ inputs
  if ← op? "->" then
    let t ← g.type true
    return plainExpr (before ++ [t.tree, ← g.block])
  else return plainExpr (before ++ [(← g.expression allowStruct).tree])

/-- Whether an expression may start here. -/
def atExpression (ts : List Token) : Bool :=
  atAnyWord ts && !atWord "as" ts || atAnyGroup ts || atLiteral ts ||
    atMark '!' ts && !atOp "!=" ts || atMark '-' ts && !atOp "-=" ts && !atOp "->" ts ||
    atMark '*' ts && !atOp "*=" ts || atMark '|' ts && !atOp "|=" ts ||
    atMark '&' ts && !atOp "&=" ts || atOp ".." ts ||
    atMark '<' ts && !atOp "<=" ts && !atOp "<<=" ts || atColons ts || atLifetime ts ||
    atMark '#' ts

/-- The value of a jump, if there is one. It may start with a struct literal in any place. -/
def jumpValue (g : Grammar) : Reading ExprFound := do
  if ← ahead atExpression then return plainExpr [← g.value]
  else return plainExpr []

/-! ## Conditionals, loops and matches -/

/-- A condition, or another expression before a block. -/
def headExpression (g : Grammar) : Reading Tree :=
  return (← g.expression false).tree

/-- A conditional. -/
def conditional (g : Grammar) : Reading Tree := do
  let attributes ← skipAttributes g
  word "if"
  let condition ← headExpression g
  let body ← g.block
  let before := attributes ++ [condition, body]
  if ← word? "else" then
    if ← ahead (atWord "if") then return ⟨.expression, before ++ [← g.conditional]⟩
    else return ⟨.expression, before ++ [← g.block]⟩
  else return ⟨.expression, before⟩

/-- A label, if there is one. -/
def label? : Reading Unit := do
  if ← lifetime? then mark ':'

/-- A block with what stands before it; the attributes inside the block come first. -/
def headedBlock (g : Grammar) (head : Reading (List Tree)) : Reading ExprFound := do
  let before ← head
  let (attributes, body) ← attributedBlock g
  return blockExpr (attributes ++ before ++ [body])

/-- A loop or a block after its label. -/
def unlabelled (g : Grammar) : Reading ExprFound := do
  let ts ← get
  if atWord "while" ts then
    skip 1
    headedBlock g do
      return [← headExpression g]
  else if atWord "for" ts then
    skip 1
    headedBlock g do
      let p ← alternatives g
      word "in"
      return [p.tree, ← headExpression g]
  else if atWord "loop" ts then
    skip 1
    headedBlock g (pure [])
  else if atGroup .brace ts then headedBlock g (pure [])
  else failure

/-- Whether an expression of this form needs a comma after it as an arm of a match. -/
def needsComma (e : ExprFound) : Bool :=
  e.form != .block

/-- Whether an expression of this form needs a semicolon after it as a statement. -/
def needsSemicolon (e : ExprFound) : Bool :=
  e.form != .block && e.form != .bracedMacro

/-- Whether the head of a loop is next, and not the parameters of a closure. -/
def atForLoop (ts : List Token) : Bool :=
  atWord "for" ts && !atGenerics (ts.drop 1)

/-! ## Operands -/

/-- What stands between parentheses: nothing, one expression, or the elements of a tuple. -/
def parenthesizedExpression (g : Grammar) : Reading ExprFound :=
  return plainExpr (← inside .parenthesis (commaList g.value))

/-- A list of elements, or an element and a count. -/
def listContent (g : Grammar) : Reading (List Tree) := do
  if ← ahead List.isEmpty then return []
  let first ← g.value
  if ← mark? ';' then return [first, ← g.value]
  if ← ahead List.isEmpty then return [first]
  mark ','
  return first :: (← commaList g.value)

/-- A binding in a condition. -/
def letCondition (g : Grammar) (allowStruct : Bool) : Reading (List Tree) := do
  word "let"
  let p ← alternatives g
  mark '='
  let e ← g.unary allowStruct
  let e ← g.operators allowStruct .compare e
  return [p.tree, e.tree]

/-- Whether a closure is next. -/
def atClosure (ts : List Token) : Bool :=
  let next := ts.drop 1
  atMark '|' ts || atWord "move" ts ||
    atWord "for" ts && atGenerics next ||
    atWord "const" ts && !atGroup .brace next || atWord "static" ts ||
    atWord "async" ts && (atMark '|' next || atWord "move" next)

/-- Whether an asynchronous block is next. -/
def atAsyncBlock (ts : List Token) : Bool :=
  let next := ts.drop 1
  atWord "async" ts &&
    (atGroup .brace next || atWord "move" next && atGroup .brace (ts.drop 2))

/-- Whether a path is next. -/
def atPathOperand (ts : List Token) : Bool :=
  atPlainSegment ts || atColons ts || atMark '<' ts ||
    atWord "try" ts && (atMark '!' (ts.drop 1) || atColons (ts.drop 1))

/-- An arm of a match: its pattern, its guard and its value. -/
def matchArm (g : Grammar) : Reading Tree := do
  let attributes ← skipAttributes g
  let p ← alternatives g
  let guard ← if ← word? "if" then pure [← g.value] else pure []
  op "=>"
  let body ← g.leading
  if needsComma body && !(← ahead List.isEmpty) then mark ','
  else let _ ← mark? ','
  return ⟨.arm, attributes ++ p.tree :: guard ++ [body.tree]⟩

/-- A match. -/
def matching (g : Grammar) : Reading ExprFound := do
  word "match"
  let head ← headExpression g
  let (attributes, arms) ← inside .brace do
    let attributes ← innerAttributes g
    return (attributes, ← untilEnd (matchArm g))
  return blockExpr (attributes ++ head :: arms)

/-- A jump, a built-in form or a block with a leading word. -/
def wordOperand (g : Grammar) (allowStruct : Bool) (w : String) : Reading ExprFound := do
  match w with
  | "break" =>
    skip 1
    if ← lifetime? then check fun ts => !atMark ':' ts
    if ← ahead fun ts => allowStruct || !atGroup .brace ts then jumpValue g
    else return plainExpr []
  | "continue" =>
    skip 1
    let _ ← lifetime?
    return plainExpr []
  | "return" =>
    skip 1
    jumpValue g
  | "yield" =>
    skip 1
    jumpValue g
  | "become" =>
    -- not admitted in the end
    skip 1
    let _ ← g.value
    return verbatimExpr
  | "let" => return plainExpr (← letCondition g allowStruct)
  | "if" => return ⟨.block, ← conditional g, false⟩
  | "match" => matching g
  | "unsafe" =>
    skip 1
    headedBlock g (pure [])
  | "const" =>
    skip 1
    headedBlock g (pure [])
  | "_" =>
    skip 1
    return plainExpr []
  | "while" => unlabelled g
  | "for" => unlabelled g
  | "loop" => unlabelled g
  | _ => failure

/-- The beginning of an expression, before calls, fields and operators. -/
def startOperand (g : Grammar) (allowStruct : Bool) : Reading ExprFound := do
  let ts ← get
  if atLiteral ts then
    literal
    return plainExpr []
  if atAsyncBlock ts then
    skip 1
    let _ ← word? "move"
    return plainExpr [← g.block]
  if atWord "try" ts && atGroup .brace (ts.drop 1) then
    skip 1
    return blockExpr [← g.block]
  if atClosure ts then return ← closure g allowStruct
  if atBuiltIn ts then
    builtIn
    return verbatimExpr
  if atPathOperand ts then return ← pathOperand g allowStruct
  match ts with
  | .group .parenthesis _ :: _ => parenthesizedExpression g
  | .group .bracket _ :: _ => return plainExpr (← inside .bracket (listContent g))
  | .group .brace _ :: _ => headedBlock g (pure [])
  | .word w :: _ => wordOperand g allowStruct w
  | .lifetime _ :: _ =>
    label?
    unlabelled g
  | _ =>
    if atOp ".." ts then
      let closed ← rangeDots
      return rangeExpr (← rangeEnd g allowStruct closed)
    else failure

/-- An expression without binary operators. No attribute stands before a range without a start. -/
def unary (g : Grammar) (allowStruct : Bool) : Reading ExprFound := do
  let isAttributed ← ahead (atMark '#')
  let attributes ← skipAttributes g
  let ts ← get
  if atMark '&' ts then
    skip 1
    let ts := ts.drop 1
    if atWord "raw" ts && atWordOf ["mut", "const"] (ts.drop 1) then skip 2
    else let _ ← word? "mut"
    let e ← g.unary allowStruct
    return plainExpr (attributes ++ [e.tree])
  else if atMark '*' ts || atMark '!' ts || atMark '-' ts then
    skip 1
    let e ← g.unary allowStruct
    return plainExpr (attributes ++ [e.tree])
  else
    let e ← trailers g (← startOperand g allowStruct)
    if isAttributed && e.form == .range then failure
    return e.attributed attributes

/-! ## Leading expressions -/

/-- An expression that ends with its block, if one is next. -/
def blockOperand? (g : Grammar) : Reading (Option ExprFound) := do
  let ts ← get
  if atWord "try" ts && atGroup .brace (ts.drop 1) then
    skip 1
    return some (blockExpr [← g.block])
  if atWordOf ["if", "match", "unsafe"] ts || atWord "const" ts && atGroup .brace (ts.drop 1) then
    match ts with
    | .word w :: _ => return some (← wordOperand g true w)
    | _ => failure
  if atWordOf ["while", "loop"] ts || atForLoop ts || atGroup .brace ts then
    return some (← unlabelled g)
  if atLifetime ts then
    label?
    return some (← unlabelled g)
  return none

/-- An expression where a statement or the value of an arm may start. One that ends with its block
goes on only with a dot or a question mark. -/
def leading (g : Grammar) : Reading ExprFound := do
  let attributes ← skipAttributes g
  match ← blockOperand? g with
  | none =>
    let e ← g.unary true
    g.operators true .lowest (e.attributed attributes)
  | some e =>
    let e := e.attributed attributes
    if ← ahead fun ts => atMark '.' ts && !atOp ".." ts || atMark '?' ts then
      let e ← trailers g e
      g.operators true .lowest e
    else return e

end ApiNotes.Code
