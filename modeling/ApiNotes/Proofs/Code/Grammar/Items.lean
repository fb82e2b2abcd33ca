/-
Items keep to the law of readings, and so does the grammar of every level. A structure holds the
types of its fields, and a synonym the type that it stands for.
-/
import ApiNotes.Proofs.Code.Grammar.Expressions
import ApiNotes.Code.Grammar.Levels

namespace ApiNotes.Code

open Reading

variable {P : String → Prop} {g : Grammar}

section

variable (h : g.Keeps P)
include h

/-! ## Constants, statics and type synonyms -/

@[grind ←]
theorem keeps_constant (keepValueless : Bool) : Keeps P (constant g keepValueless) := by
  unfold constant
  refine (keeps_word _).next <| keeps_nameOrBlank.next <| (keeps_generics h).bind fun head _ =>
    (keeps_mark ':').next <| (h.type true).bind fun t ht =>
      (keeps_mark? '=').bind fun valued _ => ?_
  extract_lets afterValue
  have hafter (value) (hvalue : WordsAll P value) : Keeps P (afterValue value) := by grind
  clear_value afterValue
  grind

@[grind ←]
theorem keeps_staticItem : Keeps P (staticItem g) := by
  unfold staticItem
  refine (keeps_word _).next <| (keeps_word? _).next <| keeps_name.next <|
    (keeps_mark? '=').bind fun valued _ => keeps_ite (by grind) ?_
  refine (keeps_mark ':').next <| (h.type true).bind fun t ht => ?_
  grind

@[grind ←]
theorem keeps_foreignStatic : Keeps P (foreignStatic g) := by
  unfold foreignStatic
  refine (keeps_word? _).bind fun isUnsafe _ => ?_
  extract_lets afterSafety
  have hafter (told) : Keeps P (afterSafety told) := by
    refine (keeps_word _).next <| (keeps_word? _).next <| keeps_name.next <|
      (keeps_mark ':').next <| (h.type true).bind fun t ht =>
        (keeps_mark? '=').bind fun valued _ => ?_
    grind
  clear_value afterSafety
  grind

omit h in
instance : Worded TypeNamed where
  WordsAll P t := WordsAll P t.head ∧ WordsAll P t.bounds ∧ WordsAll P t.value

omit h in
@[grind ←]
theorem wordsAll_typeNamed {name : String} {head : List Tree} {bounds : Option (List Tree)}
    {value : Option TypeFound} (hhead : WordsAll P head) (hbounds : WordsAll P bounds)
    (hvalue : WordsAll P value) : WordsAll P (TypeNamed.mk name head bounds value) :=
  ⟨hhead, hbounds, hvalue⟩

omit h in
@[grind →]
theorem wordsAll_ofTypeNamed {t : TypeNamed} (ht : WordsAll P t) :
    WordsAll P t.head ∧ WordsAll P t.bounds ∧ WordsAll P t.value := ht

@[grind ←]
theorem keeps_typeNamed (place : RequirementsPlace) : Keeps P (typeNamed g place) := by
  unfold typeNamed
  refine (keeps_word _).next <| keeps_name.bind fun n _ =>
    (keeps_generics h).bind fun ⟨_, parameters⟩ hp => (keeps_mark? ':').bind fun bounded _ => ?_
  extract_lets afterBounds
  have hbounds (bounds) (hb : WordsAll P bounds) : Keeps P (afterBounds bounds) := by
    unfold afterBounds
    extract_lets afterBefore
    have hbefore (before) (hbefore : WordsAll P before) : Keeps P (afterBefore before) := by
      refine (keeps_mark? '=').bind fun valued _ => ?_
      extract_lets afterValue
      have hvalue (value) (hv : WordsAll P value) : Keeps P (afterValue value) := by grind
      clear_value afterValue
      grind
    clear_value afterBefore
    grind
  clear_value afterBounds
  grind

@[grind ←]
theorem keeps_synonym : Keeps P (synonym g) := by
  unfold synonym
  refine (keeps_typeNamed h _).bind fun t ht => ?_
  split
  · rename_i value hbounds hvalue
    have hfound : WordsAll P value := (wordsAll_some value).1 (hvalue ▸ ht.2.2)
    grind
  · grind

/-! ## Structures, enumerations and unions -/

@[grind ←]
theorem keeps_positionalField : Keeps P (positionalField g) := by
  unfold positionalField
  grind

@[grind ←]
theorem keeps_positionalFields : Keeps P (positionalFields g) := by
  unfold positionalFields
  grind

theorem keeps_fieldsInside (fuel : Nat) : Keeps P (fieldsInside g fuel) := by
  induction fuel with
  | zero => exact keeps_failure
  | succ fuel ih =>
    unfold fieldsInside
    refine keeps_inside _ ((keeps_commaList ?_).next <| keeps_pure trivial)
    refine (keeps_skipAttributes h).next <| keeps_visibility.next <|
      keeps_nameOrBlank.bind fun n _ => ?_
    grind

@[grind ←]
theorem keeps_namedField : Keeps P (namedField g) := by
  unfold namedField
  refine (keeps_outerAttributes h).bind fun attributes ha => keeps_visibility.next <|
    keeps_nameOrBlank.bind fun n _ => (keeps_mark ':').next <| keeps_get.bind fun ts _ => ?_
  grind [keeps_fieldsInside]

@[grind ←]
theorem keeps_namedFields : Keeps P (namedFields g) := by
  unfold namedFields
  grind

@[grind ←]
theorem keeps_structureItem : Keeps P (structureItem g) := by
  unfold structureItem
  refine (keeps_word _).next <| keeps_name.bind fun n _ => (keeps_generics h).bind fun head hhead =>
    (keeps_requirements h).bind fun required hrequired => keeps_get.bind fun ts _ => ?_
  grind

@[grind ←]
theorem keeps_variant : Keeps P (variant g) := by
  unfold variant
  refine (keeps_outerAttributes h).bind fun attributes ha => keeps_visibility.next <|
    keeps_name.bind fun n _ => keeps_get.bind fun ts _ => ?_
  grind

@[grind ←]
theorem keeps_enumerationItem : Keeps P (enumerationItem g) := by
  unfold enumerationItem
  refine (keeps_word _).next <| keeps_name.bind fun n _ => (keeps_generics h).bind fun head hhead =>
    (keeps_requirements h).bind fun required hrequired => ?_
  grind

@[grind ←]
theorem keeps_unionItem : Keeps P (unionItem g) := by
  unfold unionItem
  grind

/-! ## Imports and macros -/

omit h in
@[grind ←]
theorem wordsAll_withAttributes {attributes : List Tree} {item : Option Tree}
    (ha : WordsAll P attributes) (hitem : WordsAll P item) :
    WordsAll P (withAttributes attributes item) := by
  unfold withAttributes
  cases item with
  | some t => grind
  | none => grind

omit h in
@[grind .]
theorem keeps_newName? : Keeps P newName? := by
  unfold newName?
  grind

@[grind ←]
theorem keeps_importTree (allowRoot : Bool) : Keeps P (importTree g allowRoot) := by
  unfold importTree
  refine keeps_get.bind fun ts _ => keeps_ite (by grind) (keeps_ite (by grind) ?_)
  refine (keeps_inside _ (keeps_commaList ?_)).bind fun rooted _ => keeps_pure (wordsAll_bool _)
  grind

@[grind ←]
theorem keeps_imports : Keeps P (imports g) := by
  unfold imports
  grind

omit h in
@[grind .]
theorem keeps_libraryImport : Keeps P libraryImport := by
  unfold libraryImport
  refine (keeps_word _).next <| (keeps_word _).next <| (keeps_check _).next <|
    (keeps_skip 1).next ?_
  grind

omit h in
@[grind .]
theorem keeps_macroCall (named : Bool) : Keeps P (macroCall named) := by
  unfold macroCall
  refine keeps_plainPath_bind fun _ => (keeps_mark '!').next ?_
  grind

omit h in
@[grind .]
theorem keeps_macroDefinition : Keeps P macroDefinition := by
  unfold macroDefinition
  grind

/-! ## Modules and foreign items -/

@[grind ←]
theorem keeps_attributedItem : Keeps P (attributedItem g) := by
  unfold attributedItem
  grind

@[grind ←]
theorem keeps_moduleItem : Keeps P (moduleItem g) := by
  unfold moduleItem
  refine (keeps_word? _).next <| (keeps_word _).next <| (keeps_check _).next <|
    (keeps_skip 1).next ?_
  grind

@[grind ←]
theorem keeps_foreignType : Keeps P (foreignType g) := by
  unfold foreignType
  grind

@[grind ←]
theorem keeps_foreignItem : Keeps P (foreignItem g) := by
  unfold foreignItem
  grind

@[grind ←]
theorem keeps_foreignBlock : Keeps P (foreignBlock g) := by
  unfold foreignBlock
  refine (keeps_word? _).next <| (keeps_check _).next <| keeps_foreignLanguage?.next <| ?_
  grind

/-! ## Traits and implementations -/

@[grind ←]
theorem keeps_traitItem : Keeps P (traitItem g) := by
  unfold traitItem
  refine (keeps_skipAttributes h).bind fun attributes ha => keeps_visibility.bind fun visible _ =>
    (keeps_word? _).bind fun isDefault _ => keeps_get.bind fun ts _ => ?_
  extract_lets afterItem
  have hafter (item) (hitem : WordsAll P item) : Keeps P (afterItem item) := by grind
  clear_value afterItem
  grind

theorem keeps_supertraits (fuel : Nat) : Keeps P (supertraits g fuel) := by
  induction fuel with
  | zero => exact keeps_failure
  | succ fuel ih =>
    unfold supertraits
    grind

theorem keeps_traitAliasBounds (fuel : Nat) : Keeps P (traitAliasBounds g fuel) := by
  induction fuel with
  | zero => exact keeps_failure
  | succ fuel ih =>
    unfold traitAliasBounds
    grind

@[grind ←]
theorem keeps_traitDeclaration : Keeps P (traitDeclaration g) := by
  unfold traitDeclaration
  refine (keeps_ahead _).bind fun qualified _ => (keeps_word? _).next <| (keeps_word? _).next <|
    (keeps_word _).next <| keeps_name.next <| (keeps_generics h).bind fun ⟨_, parameters⟩ hp => ?_
  dsimp -zeta only
  extract_lets afterBounds afterEquals
  have hbounds (bounds) (hb : WordsAll P bounds) : Keeps P (afterBounds bounds) := by
    refine (keeps_requirements h).bind fun ⟨_, required⟩ hr =>
      (keeps_attributedBody h (keeps_traitItem h)).bind fun ⟨attributes, items⟩ hi => ?_
    grind
  clear_value afterBounds
  have hequals (standsForBounds) : Keeps P (afterEquals standsForBounds) := by
    refine keeps_ite
      (keeps_get.bind fun ts _ => (keeps_traitAliasBounds h _).bind fun bounds hb => ?_)
      ((keeps_mark? ':').bind fun bounded _ => ?_)
    · grind
    · grind [keeps_supertraits]
  clear_value afterEquals
  grind

@[grind ←]
theorem keeps_implementationItem : Keeps P (implementationItem g) := by
  unfold implementationItem
  refine (keeps_skipAttributes h).bind fun attributes ha => keeps_visibility.bind fun visible _ =>
    (keeps_ahead _).bind fun isDefault _ => ?_
  extract_lets afterItem afterDefault
  have hitem (item) (hitem : WordsAll P item) : Keeps P (afterItem item) := by grind
  clear_value afterItem
  have hdefault (u) : Keeps P (afterDefault u) := by
    refine keeps_get.bind fun ts _ => ?_
    refine keeps_ite (by grind) (keeps_ite (by grind) (keeps_ite ?_ (by grind)))
    refine (keeps_typeNamed h _).bind fun t ht => ?_
    split
    · rename_i value hbounds hvalue
      have hfound : WordsAll P value := (wordsAll_some value).1 (hvalue ▸ ht.2.2)
      grind
    · grind
  clear_value afterDefault
  grind

@[grind ←]
theorem keeps_implementation (visible : Bool) : Keeps P (implementation g visible) := by
  unfold implementation
  refine (keeps_word? _).next <| (keeps_word? _).next <| (keeps_word _).next <|
    (keeps_ahead _).bind fun isGeneric _ => ?_
  extract_lets afterParameters
  have hparameters (parameters) (hp : WordsAll P parameters) :
      Keeps P (afterParameters parameters) := by
    refine (keeps_ahead _).bind fun isConstant _ => ?_
    extract_lets afterTypes afterConst
    have htypes (types) (ht : WordsAll P types) : Keeps P (afterTypes types) := by
      refine (keeps_requirements h).bind fun ⟨_, required⟩ hr =>
        (keeps_attributedBody h (keeps_implementationItem h)).bind fun ⟨attributes, items⟩ hi => ?_
      grind
    clear_value afterTypes
    have hconst (u) : Keeps P (afterConst u) := by
      refine (keeps_ahead _).bind fun negative _ => ?_
      extract_lets afterMark
      have hmark (u) : Keeps P (afterMark u) := by
        refine (h.type true).bind fun first hfirst => (keeps_word? _).bind fun ofTrait _ => ?_
        grind
      clear_value afterMark
      grind
    clear_value afterConst
    grind
  clear_value afterParameters
  grind

/-! ## Items -/

theorem keeps_itemBody (visible : Bool) : Keeps P (itemBody g visible) := by
  unfold itemBody
  refine keeps_get.bind fun ts _ => ?_
  extract_lets next
  refine keeps_ite (keeps_function h _) ?_
  refine keeps_ite (keeps_ite keeps_libraryImport
    (keeps_ite keeps_failure (keeps_foreignBlock h))) ?_
  refine keeps_ite (keeps_imports h) ?_
  refine keeps_ite (keeps_staticItem h) ?_
  refine keeps_ite (keeps_constant h _) ?_
  refine keeps_ite (keeps_ite (keeps_traitDeclaration h) (keeps_ite (keeps_implementation h _)
    (keeps_ite (keeps_ite keeps_failure (keeps_foreignBlock h)) (keeps_moduleItem h)))) ?_
  refine keeps_ite (keeps_moduleItem h) ?_
  refine keeps_ite (keeps_synonym h) ?_
  refine keeps_ite (by grind) (keeps_ite (by grind) (keeps_ite (by grind) ?_))
  refine keeps_ite (keeps_traitDeclaration h) ?_
  refine keeps_ite (keeps_implementation h _) ?_
  refine keeps_ite keeps_macroDefinition ?_
  exact keeps_ite (keeps_macroCall _) keeps_failure

theorem keeps_item {attributes : List Tree} (ha : WordsAll P attributes) :
    Keeps P (item g attributes) := by
  unfold item
  grind [keeps_itemBody]

end

/-! ## Levels -/

/-- The grammar of every level keeps to the law of readings. -/
theorem keeps_upTo (n : Nat) : (Grammar.upTo n).Keeps P := by
  induction n with
  | zero =>
    exact ⟨fun _ => keeps_failure, fun _ => keeps_failure, keeps_failure, fun _ => keeps_failure,
      fun _ _ _ _ => keeps_failure, keeps_failure, keeps_failure, keeps_failure,
      fun _ => keeps_failure, fun _ => keeps_failure⟩
  | succ n ih =>
    exact ⟨keeps_type ih, keeps_bound ih, keeps_pattern ih, keeps_unary ih,
      fun _ _ _ he => keeps_operators ih _ _ he, keeps_conditional ih, keeps_leading ih,
      keeps_statements ih, fun ha => keeps_item ih ha, keeps_importTree ih⟩

theorem keeps_forTokens (ts : List Token) : (Grammar.forTokens ts).Keeps P :=
  keeps_upTo _

end ApiNotes.Code
