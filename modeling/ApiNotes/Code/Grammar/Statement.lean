/-
Statements.
A statement is a binding, an item, a macro in braces, or an expression. An expression needs a
semicolon after it, unless it ends with its block or the statements end there.
-/
import ApiNotes.Code.Grammar.Expression

namespace ApiNotes.Code

open Reading

/-! ## Kinds of statement -/

/-- The kinds of macro that may start a statement. -/
inductive StatementMacro where
  /-- A macro with a name before its brackets. -/
  | item
  /-- A macro in braces that is a whole statement. -/
  | braces
deriving DecidableEq, Repr

/-- The macro that is next, if it is no part of an expression. -/
def statementMacro? (ts : List Token) : Option StatementMacro :=
  match plainPath.run ts with
  | some (_, rest) =>
    let next := rest.drop 1
    let beyond := rest.drop 2
    if !atMark '!' rest then none
    else if atName next || atWord "try" next then some .item
    else if atGroup .brace next &&
        !(atMark '.' beyond && !atOp ".." beyond || atMark '?' beyond) then some .braces
    else none
  | none => none

/-- Whether an item is next, given what follows its attributes. -/
def atItem (ts : List Token) : Bool :=
  let next := ts.drop 1
  let beyond := ts.drop 2
  atWordOf ["pub", "extern", "use", "fn", "mod", "type", "struct", "enum", "trait", "impl",
    "macro"] ts ||
  atWord "crate" ts && !atColons next ||
  atWord "static" ts && (atWord "mut" next ||
    atName next) ||
  atWord "const" ts && !(atGroup .brace next || atWord "static" next ||
    atWord "async" next && !atWordOf ["unsafe", "extern", "fn"] beyond ||
    atWord "move" next || atMark '|' next) ||
  atWord "unsafe" ts && !atGroup .brace next ||
  atWord "async" ts && atWordOf ["unsafe", "extern", "fn"] next ||
  atWord "union" ts && atName next ||
  atWord "auto" ts && atWord "trait" next ||
  atWord "default" ts && atWordOf ["unsafe", "impl"] next

/-! ## Bindings -/

/-- The last token taken between two points. -/
def lastTaken? (before after : List Token) : Option Token :=
  (before.take (before.length - after.length)).getLast?

/-- Whether a token ends in a brace. -/
def isBraces : Token → Bool
  | .group .brace _ => true
  | _ => false

/-- The value of a binding, and the block for when the pattern does not match. No such block may
follow a value that ends in a brace. -/
def bindingValue (g : Grammar) : Reading (List Tree) := do
  let before ← get
  let value ← g.initializer
  let after ← get
  if !(lastTaken? before after).any isBraces && atWord "else" after then
    skip 1
    return [value, ← g.block]
  else return [value]

/-- A binding. -/
def binding (g : Grammar) : Reading Tree := do
  word "let"
  let p ← g.pattern
  let t ← if ← mark? ':' then pure [(← g.type true).tree] else pure []
  let value ← if ← mark? '=' then bindingValue g else pure []
  mark ';'
  return ⟨.binding, p.tree :: t ++ value⟩

/-! ## Statements -/

/-- A statement, and whether it needs a semicolon that it does not have. -/
def statement (g : Grammar) : Reading (Bool × Tree) := do
  let attributes ← skipAttributes g
  let ts ← get
  let macroForm := statementMacro? ts
  if macroForm == some .braces then
    let _ ← plainPath
    mark '!'
    let (_, tokens) ← anyGroup
    let _ ← mark? ';'
    return (false, ⟨.invocation tokens, attributes⟩)
  else if atWord "let" ts then
    return (false, (← binding g).attributed attributes)
  else if atItem ts || macroForm == some .item then
    return (false, ← g.item attributes)
  else
    let e := (← leading g).attributed attributes
    if ← mark? ';' then return (false, e.tree)
    else return (needsSemicolon e, e.tree)

/-- The statements of a block, to the end, with semicolons between them. -/
def statementsLoop (g : Grammar) : Nat → Reading (List Tree)
  | 0 => failure
  | fuel + 1 => do
    let _ ← untilStop (fun ts => !atMark ';' ts) (mark ';')
    if ← ahead List.isEmpty then return []
    let (unfinished, first) ← statement g
    if ← ahead List.isEmpty then return [first]
    if unfinished then failure
    return first :: (← statementsLoop g fuel)

/-- The statements of a block, to the end. -/
def statements (g : Grammar) : Reading (List Tree) := do
  statementsLoop g ((← get).length + 1)

end ApiNotes.Code
