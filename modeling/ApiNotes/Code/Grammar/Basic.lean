/-
The recursive parts of the grammar of Rust.
Each part of the grammar gives the syntax tree of what it took, and the few facts about the form of
what it took that decide how to go on.

The parts of the grammar refer to each other. A `Grammar` holds the parts that are referred to
recursively, and each part is defined over a given grammar; the grammar of level `n + 1` refers to
the one of level `n`, and each step to a lower level takes at least one token before long.
-/
import ApiNotes.Code.Tree
import ApiNotes.Code.Reading

namespace ApiNotes.Code

/-! ## Results -/

/-- The forms of type that decide what may follow. -/
inductive TypeForm where
  /-- A single name, perhaps with arguments in angle brackets. -/
  | name
  /-- Any other path without a self type. -/
  | path
  /-- A single trait without `dyn`. -/
  | trait
  | other
deriving DecidableEq, Repr

/-- A type that was read. -/
structure TypeFound where
  type : TypeExpr
  form : TypeForm
  tree : Tree

/-- What is admitted among bounds. -/
structure BoundRules where
  /-- Lists of captured parameters. -/
  capture : Bool
  /-- Constness. -/
  constness : Bool

/-- A bound that was read. -/
structure BoundFound where
  /-- Whether the bound is a trait, and no lifetime and no list of captured parameters. -/
  isTrait : Bool
  tree : Tree

/-- The forms of pattern that decide what may follow. -/
inductive PatternForm where
  /-- Two dots alone. -/
  | rest
  /-- A range without start or without end. -/
  | openRange
  /-- A pattern that takes its value out of a box. -/
  | boxed
  | other
deriving DecidableEq, Repr

/-- A pattern that was read. -/
structure PatternFound where
  form : PatternForm
  tree : Tree

/-- The forms of expression that decide what may follow. -/
inductive ExprForm where
  | range
  | comparison
  /-- A block, a conditional, a loop or a match. -/
  | block
  /-- A macro with braces. -/
  | bracedMacro
  | other
deriving DecidableEq, Repr

/-- An expression that was read. -/
structure ExprFound where
  form : ExprForm
  tree : Tree
  /-- Whether it hides the attributes before it. -/
  hidesAttributes : Bool := false

/-- An expression together with the attributes before it. -/
def ExprFound.attributed (attributes : List Tree) (e : ExprFound) : ExprFound :=
  if e.hidesAttributes then e else { e with tree := e.tree.attributed attributes }

/-- How tightly operators bind, from loose to tight. -/
inductive Precedence where
  | lowest
  | assign
  | range
  | or
  | and
  | letting
  | compare
  | bitOr
  | bitXor
  | bitAnd
  | shift
  | sum
  | product
  | cast
deriving DecidableEq, Repr

/-- The position of a precedence in the order. -/
def Precedence.rank (p : Precedence) : Nat :=
  p.ctorIdx

/-! ## The recursive parts -/

/-- The parts of the grammar that are referred to recursively. -/
structure Grammar where
  /-- A type; the flag admits sums of bounds. -/
  type : Bool → Reading TypeFound
  bound : BoundRules → Reading BoundFound
  pattern : Reading PatternFound
  /-- An expression without binary operators; the flag admits struct literals. -/
  unary : Bool → Reading ExprFound
  /-- The operators that follow an expression and bind no looser than a precedence. -/
  operators : Bool → Precedence → ExprFound → Reading ExprFound
  conditional : Reading Tree
  /-- An expression where a statement or the value of an arm may start. -/
  leading : Reading ExprFound
  /-- The statements of a block, to the end. -/
  statements : Reading (List Tree)
  /-- An item, given the attributes before it. -/
  item : List Tree → Reading Tree
  /-- A tree of imports, and whether paths from the root are in it; the flag admits those. -/
  importTree : Bool → Reading Bool

namespace Grammar

/-- An expression; the flag admits struct literals. -/
def expression (g : Grammar) (allowStruct : Bool) : Reading ExprFound := do
  let e ← g.unary allowStruct
  g.operators allowStruct .lowest e

/-- An expression as a whole. -/
def value (g : Grammar) : Reading Tree :=
  return (← g.expression true).tree

/-- The value of a constant, a static or a binding. -/
def initializer (g : Grammar) : Reading Tree :=
  return ⟨.initializer, [← g.value]⟩

/-- A block. -/
def block (g : Grammar) : Reading Tree :=
  return ⟨.block, ← Reading.inside .brace g.statements⟩

end Grammar

end ApiNotes.Code
