/-
Whole sources and whole types.
A source is a list of items, after an optional first line that names an interpreter and after
attributes of its own. It is read as a whole or not at all.
-/
import ApiNotes.Code.Lexeme.Basic
import ApiNotes.Code.Grammar.Levels

namespace ApiNotes.Code

open Reading

/-- A source as a tree: the attributes of the source itself, and its items. -/
structure SourceUnit where
  attributes : List Tree
  items : List Tree
deriving Repr

/-- The text without a first line that names an interpreter; an attribute is no such line. -/
def dropInterpreterLine (text : List Char) : List Char :=
  match text with
  | '#' :: '!' :: rest =>
    match skipBlanks rest with
    | '[' :: _ => text
    | _ => text.dropWhile (· != '\n')
  | _ => text

/-- A source without its first line. -/
def sourceUnit (g : Grammar) : Reading SourceUnit := do
  let attributes ← innerAttributes g
  let items ← untilEnd (attributedItem g)
  return ⟨attributes, items⟩

namespace SourceUnit

/-- The source that a text spells. -/
def ofText? (text : String) : Option SourceUnit :=
  match tokensOf (dropInterpreterLine (dropByteOrderMark text.toList)) with
  | some ts => whole (sourceUnit (.forTokens ts)) ts
  | none => none

/-- The declarations that a walk of a source records. -/
def declarations (source : SourceUnit) : List Declaration :=
  declarationsOf (source.attributes ++ source.items)

end SourceUnit

/-- The type that a text spells. -/
def TypeExpr.ofText? (text : String) : Option TypeExpr :=
  match tokensOf text.toList with
  | some ts => (whole ((Grammar.forTokens ts).type true) ts).map TypeFound.type
  | none => none

end ApiNotes.Code
