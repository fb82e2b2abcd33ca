/-
Items.
Forms that a compiler refuses later on are taken, but not taken apart.
-/
import ApiNotes.Code.Grammar.Structure

namespace ApiNotes.Code

open Reading

/-- An item with its attributes. One that is not taken apart hides its attributes as well. -/
def withAttributes (attributes : List Tree) (item : Option Tree) : Tree :=
  match item with
  | some t => t.attributed attributes
  | none => ⟨.verbatim, []⟩

/-! ## Imports and macros -/

/-- The new name of something imported, or an underscore. -/
def newName? : Reading Unit := do
  if ← word? "as" then let _ ← nameOrBlank

/-- A tree of imports, and whether paths from the root are in it; the flag admits those inside
braces. -/
def importTree (g : Grammar) (allowRoot : Bool) : Reading Bool := do
  let ts ← get
  if atName ts || atWordOf ["self", "super", "crate", "try"] ts then
    skip 1
    if ← op? "::" then g.importTree false
    else
      newName?
      return false
  else if atMark '*' ts then
    skip 1
    return false
  else
    let rooted ← inside .brace <| commaList do
      let rooted ← if allowRoot then op? "::" else pure false
      let inner ← g.importTree (allowRoot && !rooted)
      return rooted || inner
    return rooted.any id

/-- Imports after their visibility. Those with paths from the root inside braces are not taken
apart. -/
def imports (g : Grammar) : Reading (Option Tree) := do
  word "use"
  let rooted ← op? "::"
  let rootedInside ← importTree g (!rooted)
  mark ';'
  return if rootedInside then none else some ⟨.imports, []⟩

/-- The import of a library, after its visibility. -/
def libraryImport : Reading (Option Tree) := do
  word "extern"
  word "crate"
  check fun ts => atName ts || atWord "self" ts
  skip 1
  newName?
  mark ';'
  return some ⟨.imports, []⟩

/-- A macro with its brackets; a semicolon follows unless they are braces. -/
def macroCall (named : Bool) : Reading (Option Tree) := do
  let _ ← plainPath
  mark '!'
  if named && (← ahead fun ts => atName ts || atWord "try" ts) then skip 1
  let (d, tokens) ← anyGroup
  if d != .brace then mark ';'
  return some ⟨.invocation tokens, []⟩

/-- The definition of a macro by example. -/
def macroDefinition : Reading (Option Tree) := do
  word "macro"
  let _ ← name
  if ← ahead (atGroup .parenthesis) then skip 1
  let _ ← content .brace
  return none

/-- Whether a macro may start here. -/
def atMacro (ts : List Token) : Bool :=
  atName ts || atWordOf ["self", "super", "crate"] ts || atColons ts

/-! ## Modules and foreign items -/

/-- An item with its attributes. -/
def attributedItem (g : Grammar) : Reading Tree := do
  g.item (← skipAttributes g)

/-- A module after its visibility. -/
def moduleItem (g : Grammar) : Reading (Option Tree) := do
  let _ ← word? "unsafe"
  word "mod"
  check fun ts => atName ts || atWord "try" ts
  skip 1
  if ← mark? ';' then return some ⟨.module, []⟩
  else inside .brace do
    let attributes ← innerAttributes g
    return some ⟨.module, attributes ++ (← untilEnd (attributedItem g))⟩

/-- A type that is defined elsewhere. One with bounds or a value is not taken apart. -/
def foreignType (g : Grammar) : Reading (Option Tree) := do
  let t ← typeNamed g .both
  return if t.bounds.isSome || t.value.isSome then none else some ⟨.memberType, t.head⟩

/-- An item that is defined elsewhere. -/
def foreignItem (g : Grammar) : Reading Tree := do
  let attributes ← skipAttributes g
  let visible ← visibility
  let ts ← get
  let item ←
    if atFunction true ts then foreignFunction g
    else if atWord "static" ts || atWordOf ["unsafe", "safe"] ts && atWord "static" (ts.drop 1) then
      foreignStatic g
    else if atWord "type" ts then foreignType g
    else if !visible && atMacro ts then macroCall false
    else failure
  return withAttributes attributes item

/-- A block of items that are defined elsewhere. -/
def foreignBlock (g : Grammar) : Reading (Option Tree) := do
  let _ ← word? "unsafe"
  check (atWord "extern")
  let _ ← foreignLanguage?
  inside .brace do
    let attributes ← innerAttributes g
    return some ⟨.foreign, attributes ++ (← untilEnd (foreignItem g))⟩

/-! ## Traits -/

/-- A function, type, constant or macro of a trait. One with a visibility or a default is not taken
apart. -/
def traitItem (g : Grammar) : Reading Tree := do
  let attributes ← skipAttributes g
  let visible ← visibility
  let isDefault ← word? "default"
  let ts ← get
  let item ←
    if atFunction false ts then function g true
    else if atWord "const" ts then constant g true
    else if atWord "type" ts then
      let t ← typeNamed g .afterValue
      pure (some ⟨.memberType,
        t.head ++ t.bounds.getD [] ++ (t.value.map TypeFound.tree).toList⟩)
    else if !visible && !isDefault && atMacro ts then macroCall false
    else failure
  return if visible || isDefault then ⟨.verbatim, []⟩ else withAttributes attributes item

/-- The bounds of a trait after a colon. -/
def supertraits (g : Grammar) : Nat → Reading (List Tree)
  | 0 => failure
  | fuel + 1 => do
    let stop (ts : List Token) := atWord "where" ts || atGroup .brace ts
    if ← ahead stop then return []
    let b ← g.bound ⟨false, true⟩
    if ← ahead stop then return [b.tree]
    mark '+'
    return b.tree :: (← supertraits g fuel)

/-- The bounds that a trait stands for; none of them is constant. -/
def traitAliasBounds (g : Grammar) : Nat → Reading (List Tree)
  | 0 => failure
  | fuel + 1 => do
    let stop (ts : List Token) := atWord "where" ts || atMark ';' ts
    if ← ahead stop then return []
    let b ← g.bound plainBounds
    if ← ahead stop then return [b.tree]
    mark '+'
    return b.tree :: (← traitAliasBounds g fuel)

/-- A trait after its visibility; one that merely stands for bounds has no body. -/
def traitDeclaration (g : Grammar) : Reading (Option Tree) := do
  let qualified ← ahead fun ts => !atWord "trait" ts
  let _ ← word? "unsafe"
  let _ ← word? "auto"
  word "trait"
  let _ ← name
  let (_, parameters) ← generics g
  let standsForBounds ← if qualified then pure false else mark? '='
  if standsForBounds then
    let bounds ← traitAliasBounds g ((← get).length + 1)
    let (_, required) ← requirements g
    mark ';'
    return some ⟨.trait, parameters ++ required ++ bounds⟩
  else
    let bounds ← if ← mark? ':' then supertraits g ((← get).length + 1) else pure []
    let (_, required) ← requirements g
    let (attributes, items) ← inside .brace do
      let attributes ← innerAttributes g
      return (attributes, ← untilEnd (traitItem g))
    return some ⟨.trait, attributes ++ parameters ++ required ++ bounds ++ items⟩

/-! ## Implementations -/

/-- A function, type, constant or macro of an implementation. -/
def implementationItem (g : Grammar) : Reading Tree := do
  let attributes ← skipAttributes g
  let visible ← visibility
  let isDefault ← ahead fun ts => atWord "default" ts && !atMark '!' (ts.drop 1)
  if isDefault then skip 1
  let ts ← get
  let item ←
    if atFunction false ts then function g false
    else if atWord "const" ts then constant g false
    else if atWord "type" ts then
      let t ← typeNamed g .afterValue
      match t.bounds, t.value with
      | none, some value => pure (some ⟨.memberType, t.head ++ [value.tree]⟩)
      | _, _ => pure none
    else if !visible && !isDefault && atMacro ts then macroCall false
    else failure
  return withAttributes attributes item

/-- An implementation after its visibility. One that is visible, constant, or of something that is
no trait is not taken apart. -/
def implementation (g : Grammar) (visible : Bool) : Reading (Option Tree) := do
  let _ ← word? "default"
  let _ ← word? "unsafe"
  word "impl"
  let parameters ← if ← ahead atGenerics then pure (← generics g).2 else pure []
  let isConstant ← ahead fun ts => atWord "const" ts || atMark '?' ts && atWord "const" (ts.drop 1)
  if isConstant then
    let _ ← mark? '?'
    word "const"
  let negative ← ahead fun ts => atMark '!' ts && !atGroup .brace (ts.drop 1)
  if negative then skip 1
  let first ← g.type true
  let (isTrait, types) ← if ← word? "for" then
      let self ← g.type true
      pure (first.form == .name || first.form == .path, [first.tree, self.tree])
    else if negative then failure
    else pure (true, [first.tree])
  let (_, required) ← requirements g
  let (attributes, items) ← inside .brace do
    let attributes ← innerAttributes g
    return (attributes, ← untilEnd (implementationItem g))
  return if visible || isConstant || !isTrait then none
    else some ⟨.implementation, attributes ++ parameters ++ required ++ types ++ items⟩

/-! ## Items -/

/-- An item after its visibility, given whether it is visible. -/
def itemBody (g : Grammar) (visible : Bool) : Reading (Option Tree) := do
  let ts ← get
  let next := ts.drop 1
  if atFunction false ts then function g false
  else if atWord "extern" ts then
    if atWord "crate" next then libraryImport
    else if visible then failure
    else foreignBlock g
  else if atWord "use" ts then imports g
  else if atWord "static" ts then staticItem g
  else if atWord "const" ts then constant g false
  else if atWord "unsafe" ts then
    if atWord "trait" next || atWord "auto" next && atWord "trait" (ts.drop 2) then
      traitDeclaration g
    else if atWord "impl" next then implementation g visible
    else if atWord "extern" next then if visible then failure else foreignBlock g
    else moduleItem g
  else if atWord "mod" ts then moduleItem g
  else if atWord "type" ts then synonym g
  else if atWord "struct" ts then return some (← structureItem g)
  else if atWord "enum" ts then return some (← enumerationItem g)
  else if atWord "union" ts && atName next then return some (← unionItem g)
  else if atWord "trait" ts || atWord "auto" ts && atWord "trait" next then
    traitDeclaration g
  else if atWord "impl" ts || atWord "default" ts && !atMark '!' next then
    implementation g visible
  else if atWord "macro" ts then macroDefinition
  else if !visible && atMacro ts then macroCall true
  else failure

/-- An item, given the attributes before it. -/
def item (g : Grammar) (attributes : List Tree) : Reading Tree := do
  let visible ← visibility
  return withAttributes attributes (← itemBody g visible)

end ApiNotes.Code
