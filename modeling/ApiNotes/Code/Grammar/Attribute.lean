/-
Attributes and visibility.
An attribute is a path with a bracketed list of arguments, with a value, or alone. Its arguments are
kept as tokens; a value is an expression.
-/
import ApiNotes.Code.Grammar.Basic

namespace ApiNotes.Code

open Reading

/-- Whether a segment of a plain path is next. -/
def atPlainSegment (ts : List Token) : Bool :=
  atName ts || atWordOf ["super", "self", "Self", "crate"] ts

/-- A segment of a plain path. -/
def plainSegment : Reading String := do
  check atPlainSegment
  anyWord

/-- A path of names without arguments; a path from the root starts with an empty name. -/
def plainPath : Reading (List String) := do
  let rooted ← op? "::"
  let first ← plainSegment
  let others ← untilStop (fun ts => !atColons ts) do
    op "::"
    plainSegment
  return (if rooted then [""] else []) ++ first :: others

/-- Whether a group is next. -/
def atAnyGroup : List Token → Bool
  | .group _ _ :: _ => true
  | _ => false

/-- What stands between the brackets of an attribute. -/
def attributeBody (g : Grammar) : Reading (Attribute × Tree) := do
  let path ← if ← ahead (atWord "unsafe") then
      let w ← anyWord
      pure [w]
    else plainPath
  match ← get with
  | .group _ inner :: rest =>
    set rest
    return (⟨path, some inner⟩, ⟨.attribute, []⟩)
  | ts =>
    if atMark '=' ts then
      mark '='
      check fun ts => !(atMark '#' ts && atGroup .bracket (ts.drop 1))
      return (⟨path, none⟩, ⟨.attribute, [← g.value]⟩)
    else return (⟨path, none⟩, ⟨.attribute, []⟩)

/-- The attributes before something, and their trees. -/
def outerAttributes (g : Grammar) : Reading (List Attribute × List Tree) := do
  let read ← untilStop (fun ts => !atMark '#' ts) do
    mark '#'
    inside .bracket (attributeBody g)
  return (read.map Prod.fst, read.map Prod.snd)

/-- The trees of the attributes before something. -/
def skipAttributes (g : Grammar) : Reading (List Tree) :=
  Prod.snd <$> outerAttributes g

/-- The trees of the attributes of what is around. -/
def innerAttributes (g : Grammar) : Reading (List Tree) := do
  let read ← untilStop (fun ts => !(atMark '#' ts && atMark '!' (ts.drop 1))) do
    mark '#'
    mark '!'
    inside .bracket (attributeBody g)
  return read.map Prod.snd

/-- A block that may start with attributes of what it belongs to; they stand apart from it. -/
def attributedBlock (g : Grammar) : Reading (List Tree × Tree) :=
  inside .brace do
    let attributes ← innerAttributes g
    return (attributes, ⟨.block, ← g.statements⟩)

/-- A visibility, and whether there was one. Parentheses belong to it only if they hold a scope. -/
def visibility : Reading Bool := do
  if ← word? "pub" then
    match ← get with
    | .group .parenthesis [.word w] :: rest =>
      if ["crate", "self", "super"].contains w then set rest
      return true
    | .group .parenthesis (.word "in" :: scope) :: rest =>
      if (whole plainPath scope).isSome then
        set rest
        return true
      else failure
    | _ => return true
  else return false

end ApiNotes.Code
