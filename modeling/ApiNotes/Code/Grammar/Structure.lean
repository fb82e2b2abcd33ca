/-
Structures, enumerations and unions.
Structures and enumerations keep what they say about their types; unions do not.
-/
import ApiNotes.Code.Grammar.Value

namespace ApiNotes.Code

open Reading

/-! ## Fields -/

/-- A field without a name. -/
def positionalField (g : Grammar) : Reading (TypeExpr × Tree) := do
  let attributes ← skipAttributes g
  let _ ← visibility
  let t ← g.type true
  return (t.type, ⟨.field, attributes ++ [t.tree]⟩)

/-- The fields of a tuple. -/
def positionalFields (g : Grammar) : Reading (List TypeExpr × List Tree) := do
  let fields ← inside .parenthesis (commaList (positionalField g))
  return (fields.map Prod.fst, fields.map Prod.snd)

/-- Fields of a structure inside a field, which is not taken apart. -/
def fieldsInside (g : Grammar) : Nat → Reading Unit
  | 0 => failure
  | fuel + 1 => inside .brace do
    let _ ← commaList do
      let _ ← skipAttributes g
      let _ ← visibility
      let n ← nameOrBlank
      mark ':'
      let ts ← get
      if n == "_" && (atWord "struct" ts || atWord "union" ts && atGroup .brace (ts.drop 1)) then
        skip 1
        fieldsInside g fuel
      else let _ ← g.type true

/-- A field with a name; a structure may stand in place of a type where the name is left out. -/
def namedField (g : Grammar) : Reading (Field × Tree) := do
  let (attributes, trees) ← outerAttributes g
  let _ ← visibility
  let n ← nameOrBlank
  mark ':'
  let ts ← get
  if n == "_" && (atWord "struct" ts || atWord "union" ts && atGroup .brace (ts.drop 1)) then
    skip 1
    fieldsInside g (sizeOfTokens ts)
    return (⟨attributes, .other⟩, ⟨.field, trees ++ [⟨.verbatim, []⟩]⟩)
  else
    let t ← g.type true
    return (⟨attributes, t.type⟩, ⟨.field, trees ++ [t.tree]⟩)

/-- The fields of a structure. -/
def namedFields (g : Grammar) : Reading (List Field × List Tree) := do
  let fields ← inside .brace (commaList (namedField g))
  return (fields.map Prod.fst, fields.map Prod.snd)

/-! ## Items -/

/-- A structure after its visibility. -/
def structureItem (g : Grammar) : Reading Tree := do
  word "struct"
  let n ← name
  let (_, parameters) ← generics g
  let (isRestricted, required) ← requirements g
  let ts ← get
  if atGroup .brace ts then
    let (fields, parts) ← namedFields g
    return ⟨.record n fields, parameters ++ required ++ parts⟩
  else if atGroup .parenthesis ts && !isRestricted then
    let (types, parts) ← positionalFields g
    let (_, required) ← requirements g
    mark ';'
    return ⟨.tuple n types, parameters ++ required ++ parts⟩
  else
    mark ';'
    return ⟨.unit n, parameters ++ required⟩

/-- A variant of an enumeration. -/
def variant (g : Grammar) : Reading (Variant × Tree) := do
  let (attributes, trees) ← outerAttributes g
  let _ ← visibility
  let n ← name
  let ts ← get
  let fields ← if atGroup .brace ts then pure (← namedFields g).2
    else if atGroup .parenthesis ts then pure (← positionalFields g).2
    else pure []
  let value ← if ← mark? '=' then pure [← g.value] else pure []
  return (⟨attributes, n⟩, ⟨.variant, trees ++ fields ++ value⟩)

/-- An enumeration after its visibility. -/
def enumerationItem (g : Grammar) : Reading Tree := do
  word "enum"
  let n ← name
  let (_, parameters) ← generics g
  let (_, required) ← requirements g
  let variants ← inside .brace (commaList (variant g))
  return ⟨.enumeration n (variants.map Prod.fst),
    parameters ++ required ++ variants.map Prod.snd⟩

/-- A union after its visibility. -/
def unionItem (g : Grammar) : Reading Tree := do
  word "union"
  let _ ← name
  let (_, parameters) ← generics g
  let (_, required) ← requirements g
  let (_, parts) ← namedFields g
  return ⟨.union, parameters ++ required ++ parts⟩

end ApiNotes.Code
