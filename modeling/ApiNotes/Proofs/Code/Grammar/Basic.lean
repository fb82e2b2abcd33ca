/-
The parts of the grammar that are referred to recursively, and what they keep. The words that
matter in a result are the names of types: the last name of each path, wherever in a type, a field
or a declaration the path stands, and wherever in a tree the declaration does. Each production of
the grammar keeps to the law of readings provided that the parts it refers to do.
-/
import ApiNotes.Proofs.Code.Reading
import ApiNotes.Code.Grammar.Path

namespace ApiNotes.Code

variable {P : String → Prop}

/-! ## Types -/

mutual

/-- Every path in a type ends with a name that has a property. -/
inductive TypeExpr.WordsAll (P : String → Prop) : TypeExpr → Prop
  | reference {t : TypeExpr} : t.WordsAll P → TypeExpr.WordsAll P (.reference t)
  | pointer {t : TypeExpr} : t.WordsAll P → TypeExpr.WordsAll P (.pointer t)
  | parenthesized {t : TypeExpr} : t.WordsAll P → TypeExpr.WordsAll P (.parenthesized t)
  | slice {t : TypeExpr} : t.WordsAll P → TypeExpr.WordsAll P (.slice t)
  | array {t : TypeExpr} : t.WordsAll P → TypeExpr.WordsAll P (.array t)
  | path {qualifier : List String} {name : String} {arguments : List TypeArgument} :
    P name → (∀ a ∈ arguments, a.WordsAll P) → TypeExpr.WordsAll P (.path qualifier name arguments)
  | other : TypeExpr.WordsAll P .other

/-- Every path in an argument ends with a name that has a property. -/
inductive TypeArgument.WordsAll (P : String → Prop) : TypeArgument → Prop
  | type {t : TypeExpr} : t.WordsAll P → TypeArgument.WordsAll P (.type t)
  | other : TypeArgument.WordsAll P .other

end

instance : Worded TypeExpr := ⟨TypeExpr.WordsAll⟩
instance : Worded TypeArgument := ⟨TypeArgument.WordsAll⟩

section

variable {t : TypeExpr} (ht : WordsAll P t)
include ht

@[grind ←] theorem wordsAll_reference : WordsAll P (TypeExpr.reference t) := .reference ht
@[grind ←] theorem wordsAll_pointer : WordsAll P (TypeExpr.pointer t) := .pointer ht
@[grind ←] theorem wordsAll_slice : WordsAll P (TypeExpr.slice t) := .slice ht
@[grind ←] theorem wordsAll_array : WordsAll P (TypeExpr.array t) := .array ht
@[grind ←] theorem wordsAll_argument : WordsAll P (TypeArgument.type t) := .type ht

@[grind ←]
theorem wordsAll_parenthesized : WordsAll P (TypeExpr.parenthesized t) := .parenthesized ht

end

@[grind ←]
theorem wordsAll_path {qualifier : List String} {name : String} {arguments : List TypeArgument}
    (hname : P name) (harguments : WordsAll P arguments) :
    WordsAll P (TypeExpr.path qualifier name arguments) := .path hname harguments

@[grind .] theorem wordsAll_otherType : WordsAll P TypeExpr.other := .other
@[grind .] theorem wordsAll_otherArgument : WordsAll P TypeArgument.other := .other

/-! ## Declarations -/

instance : Worded Attribute := ⟨fun _ _ => True⟩
instance : Worded Field := ⟨fun P f => WordsAll P f.type⟩
instance : Worded Variant := ⟨fun _ _ => True⟩

instance : Worded Definition where
  WordsAll P
    | .record fields => WordsAll P fields
    | .tuple types => WordsAll P types
    | .unit => True
    | .enumeration _ => True
    | .synonym target => WordsAll P target

instance : Worded Declaration := ⟨fun P d => WordsAll P d.definition⟩

@[grind .] theorem wordsAll_attribute (a : Attribute) : WordsAll P a := trivial
@[grind .] theorem wordsAll_variant (v : Variant) : WordsAll P v := trivial
@[grind norm] theorem wordsAll_field (f : Field) : WordsAll P f ↔ WordsAll P f.type := .rfl

@[grind norm] theorem wordsAll_record (fields : List Field) :
    WordsAll P (Definition.record fields) ↔ WordsAll P fields := .rfl

@[grind norm] theorem wordsAll_tuple (types : List TypeExpr) :
    WordsAll P (Definition.tuple types) ↔ WordsAll P types := .rfl

@[grind norm] theorem wordsAll_synonym (t : TypeExpr) :
    WordsAll P (Definition.synonym t) ↔ WordsAll P t := .rfl

@[grind .] theorem wordsAll_unitDefinition : WordsAll P Definition.unit := trivial

@[grind .] theorem wordsAll_enumeration (variants : List Variant) :
    WordsAll P (Definition.enumeration variants) := trivial

@[grind norm] theorem wordsAll_declaration (name : String) (definition : Definition) :
    WordsAll P (Declaration.mk name definition) ↔ WordsAll P definition := .rfl

/-! ## Trees -/

/-- The words of a node are those of the declaration that it records. -/
instance : Worded Form := ⟨fun P form => WordsAll P form.declaration?⟩

/-- Every path in a declaration at a node of a tree ends with a name that has a property. -/
inductive Tree.WordsAll (P : String → Prop) : Tree → Prop
  | mk {form : Form} {parts : List Tree} :
    Code.WordsAll P form → (∀ t ∈ parts, t.WordsAll P) → WordsAll P ⟨form, parts⟩

instance : Worded Tree := ⟨Tree.WordsAll⟩

attribute [grind unfold] Form.declaration?

@[grind norm] theorem wordsAll_form (form : Form) :
    WordsAll P form ↔ WordsAll P form.declaration? := .rfl

@[grind norm]
theorem wordsAll_tree (form : Form) (parts : List Tree) :
    WordsAll P (Tree.mk form parts) ↔ WordsAll P form ∧ WordsAll P parts :=
  ⟨fun | .mk hform hparts => ⟨hform, hparts⟩, fun h => .mk h.1 h.2⟩

@[grind ←]
theorem wordsAll_attributedTree {attributes : List Tree} {t : Tree}
    (hattributes : WordsAll P attributes) (ht : WordsAll P t) :
    WordsAll P (t.attributed attributes) := by
  obtain ⟨form, parts⟩ := t
  unfold Tree.attributed
  grind

/-! ## Results of productions -/

instance : Worded TypeFound := ⟨fun P t => WordsAll P t.type ∧ WordsAll P t.tree⟩
instance : Worded BoundFound := ⟨fun P b => WordsAll P b.tree⟩
instance : Worded PatternFound := ⟨fun P p => WordsAll P p.tree⟩
instance : Worded ExprFound := ⟨fun P e => WordsAll P e.tree⟩

instance : Worded PathFound where
  WordsAll P p := p.names ≠ [] ∧ WordsAll P p.names ∧ WordsAll P p.arguments ∧ WordsAll P p.parts

@[grind ←]
theorem wordsAll_typeFound {t : TypeExpr} {form : TypeForm} {tree : Tree} (ht : WordsAll P t)
    (htree : WordsAll P tree) : WordsAll P (TypeFound.mk t form tree) := ⟨ht, htree⟩

@[grind →]
theorem wordsAll_ofTypeFound {t : TypeFound} (h : WordsAll P t) :
    WordsAll P t.type ∧ WordsAll P t.tree := h

@[grind ←]
theorem wordsAll_boundFound {isTrait : Bool} {tree : Tree} (h : WordsAll P tree) :
    WordsAll P (BoundFound.mk isTrait tree) := h

@[grind →]
theorem wordsAll_ofBoundFound {b : BoundFound} (h : WordsAll P b) : WordsAll P b.tree := h

@[grind ←]
theorem wordsAll_patternFound {form : PatternForm} {tree : Tree} (h : WordsAll P tree) :
    WordsAll P (PatternFound.mk form tree) := h

@[grind →]
theorem wordsAll_ofPatternFound {p : PatternFound} (h : WordsAll P p) : WordsAll P p.tree := h

@[grind ←]
theorem wordsAll_exprFound {form : ExprForm} {tree : Tree} {hides : Bool}
    (h : WordsAll P tree) : WordsAll P (ExprFound.mk form tree hides) := h

@[grind →]
theorem wordsAll_ofExprFound {e : ExprFound} (h : WordsAll P e) : WordsAll P e.tree := h

@[grind →]
theorem wordsAll_ofTypes {types : List TypeFound} (h : WordsAll P types) :
    WordsAll P (types.map TypeFound.tree) :=
  wordsAll_map (fun _ ht => (wordsAll_ofTypeFound ht).2) h

@[grind →]
theorem wordsAll_ofBounds {bounds : List BoundFound} (h : WordsAll P bounds) :
    WordsAll P (bounds.map BoundFound.tree) :=
  wordsAll_map (fun _ hb => wordsAll_ofBoundFound hb) h

@[grind →]
theorem wordsAll_ofPatterns {patterns : List PatternFound} (h : WordsAll P patterns) :
    WordsAll P (patterns.map PatternFound.tree) :=
  wordsAll_map (fun _ hp => wordsAll_ofPatternFound hp) h

@[grind →]
theorem wordsAll_ofPathFound {p : PathFound} (h : WordsAll P p) :
    p.names ≠ [] ∧ WordsAll P p.names ∧ WordsAll P p.arguments ∧ WordsAll P p.parts := h

/-! ## The recursive parts -/

/-- Each part of a grammar keeps to the law of readings. Parts that go on from what was read before
them do so where that does. -/
structure Grammar.Keeps (P : String → Prop) (g : Grammar) : Prop where
  type (allowPlus : Bool) : Reading.Keeps P (g.type allowPlus)
  bound (rules : BoundRules) : Reading.Keeps P (g.bound rules)
  pattern : Reading.Keeps P g.pattern
  unary (allowStruct : Bool) : Reading.Keeps P (g.unary allowStruct)
  operators (allowStruct : Bool) (base : Precedence) {e : ExprFound} :
    WordsAll P e → Reading.Keeps P (g.operators allowStruct base e)
  conditional : Reading.Keeps P g.conditional
  leading : Reading.Keeps P g.leading
  statements : Reading.Keeps P g.statements
  item {attributes : List Tree} : WordsAll P attributes → Reading.Keeps P (g.item attributes)
  importTree (allowRoot : Bool) : Reading.Keeps P (g.importTree allowRoot)

attribute [grind ←] Grammar.Keeps.type Grammar.Keeps.bound Grammar.Keeps.pattern
  Grammar.Keeps.unary Grammar.Keeps.operators Grammar.Keeps.conditional Grammar.Keeps.leading
  Grammar.Keeps.statements Grammar.Keeps.item Grammar.Keeps.importTree

namespace Grammar.Keeps

variable {g : Grammar} (h : g.Keeps P)
include h

@[grind ←]
theorem expression (allowStruct : Bool) : Reading.Keeps P (g.expression allowStruct) := by
  unfold Grammar.expression
  grind

@[grind ←]
theorem value : Reading.Keeps P g.value := by
  unfold Grammar.value
  grind

@[grind ←]
theorem initializer : Reading.Keeps P g.initializer := by
  unfold Grammar.initializer
  grind

@[grind ←]
theorem block : Reading.Keeps P g.block := by
  unfold Grammar.block
  grind

end Grammar.Keeps

end ApiNotes.Code
