/-
Bounds, types and functions keep to the law of readings. A type gets its names from paths: the name
of a path as a type is the last name along it.
-/
import ApiNotes.Proofs.Code.Grammar.Paths
import ApiNotes.Code.Grammar.Function

namespace ApiNotes.Code

open Reading

variable {P : String → Prop} {g : Grammar}

section

variable (h : g.Keeps P)
include h

/-! ## Bounds -/

@[grind ←]
theorem keeps_parenthesizedArguments : Keeps P (parenthesizedArguments g) := by
  unfold parenthesizedArguments
  grind

omit h in
@[grind .]
theorem keeps_constness? : Keeps P constness? := by
  unfold constness?
  grind

@[grind ←]
theorem keeps_traitBound (rules : BoundRules) : Keeps P (traitBound g rules) := by
  unfold traitBound
  refine (keeps_binder? h).bind fun bound hbound =>
    keeps_constness?.bind fun constant _ => ?_
  extract_lets afterMark afterCheck afterConstness
  have hmark (u) : Keeps P (afterMark u) := by
    refine (keeps_path h false).bind fun p hp => ?_
    grind
  have hcheck (u) : Keeps P (afterCheck u) := (keeps_check _).bind fun u _ => hmark u
  clear_value afterMark afterCheck
  grind

omit h in
@[grind .]
theorem keeps_capturedParameters : Keeps P capturedParameters := by
  unfold capturedParameters
  grind

@[grind ←]
theorem keeps_bound (rules : BoundRules) : Keeps P (bound g rules) := by
  unfold bound
  grind

theorem keeps_boundsLoop (rules : BoundRules) (allowPlus : Bool) (fuel : Nat) :
    Keeps P (boundsLoop g rules allowPlus fuel) := by
  induction fuel with
  | zero => exact keeps_failure
  | succ fuel ih =>
    unfold boundsLoop
    grind

@[grind ←]
theorem keeps_bounds (rules : BoundRules) (allowPlus : Bool) :
    Keeps P (bounds g rules allowPlus) :=
  keeps_get.bind fun _ _ => keeps_boundsLoop h rules allowPlus _

@[grind ←]
theorem keeps_typeBounds (rules : BoundRules) (allowPlus : Bool) :
    Keeps P (typeBounds g rules allowPlus) := by
  unfold typeBounds
  grind

/-! ## Types -/

omit h in
@[grind ←]
theorem wordsAll_opaqueType {parts : List Tree} (hparts : WordsAll P parts) :
    WordsAll P (opaqueType parts) := by
  unfold opaqueType
  grind

omit h in
@[grind .]
theorem wordsAll_verbatimType : WordsAll P verbatimType := by
  unfold verbatimType
  grind

omit h in
@[grind .]
theorem keeps_foreignLanguage? : Keeps P foreignLanguage? := by
  unfold foreignLanguage?
  grind

@[grind ←]
theorem keeps_functionTypeInput (isFirst : Bool) : Keeps P (functionTypeInput g isFirst) := by
  unfold functionTypeInput
  grind

theorem keeps_functionTypeInputs (fuel : Nat) (isFirst : Bool) :
    Keeps P (functionTypeInputs g fuel isFirst) := by
  induction fuel generalizing isFirst with
  | zero => exact keeps_failure
  | succ fuel ih =>
    unfold functionTypeInputs
    refine (keeps_ahead _).bind fun isEnd _ => ?_
    split
    · grind
    · refine (keeps_skipAttributes h).bind fun attributes ha => keeps_get.bind fun ts _ => ?_
      extract_lets named
      refine keeps_ite (by grind) ((keeps_functionTypeInput h isFirst).bind fun t ht => ?_)
      grind

@[grind ←]
theorem keeps_functionType : Keeps P (functionType g) := by
  unfold functionType
  grind [keeps_functionTypeInputs]

@[grind ←]
theorem keeps_moreBounds : Keeps P (moreBounds g) := by
  unfold moreBounds
  grind

@[grind ←]
theorem keeps_parenthesizedContent : Keeps P (parenthesizedContent g) := by
  unfold parenthesizedContent
  refine keeps_get.bind fun ts _ => ?_
  split
  · grind
  · split
    · grind
    · split
      · grind
      · refine (h.type true).bind fun first hfirst => ?_
        grind

@[grind ←]
theorem keeps_parenthesizedType (allowPlus : Bool) : Keeps P (parenthesizedType g allowPlus) := by
  unfold parenthesizedType
  refine (keeps_inside _ (keeps_parenthesizedContent h)).bind
    fun ⟨single, parts, isTrait⟩ ⟨hsingle, hparts, _⟩ => ?_
  cases single with
  | none => grind
  | some first => grind

/-- The name of a path as a type is the last name along it. -/
@[grind ←]
theorem keeps_pathType {bound : Option (List Tree)} (hbound : WordsAll P bound) (allowPlus : Bool) :
    Keeps P (pathType g bound allowPlus) := by
  unfold pathType
  refine (keeps_qualifiedPath h false).bind fun p hp => ?_
  obtain ⟨hne, hnames, harguments, hparts⟩ := hp
  have hname : P (p.names.getLast?.getD "") := by
    rw [List.getLast?_eq_some_getLast hne]
    exact hnames _ (List.getLast_mem hne)
  extract_lets type parts isName
  have htype : WordsAll P type := wordsAll_path hname (wordsAll_getD harguments wordsAll_nil)
  have hall : WordsAll P parts :=
    (wordsAll_append ..).2 ⟨wordsAll_getD hbound wordsAll_nil, hparts⟩
  clear_value type parts
  split
  · grind
  · refine keeps_get.bind fun ts _ => ?_
    split
    · grind
    · split
      · refine (keeps_skip 1).next <| ?_
        grind
      · grind

omit h in
@[grind .]
theorem keeps_builtIn : Keeps P builtIn := by
  unfold builtIn
  grind

/-- One case for each form of type, in the order in which they are tried. -/
theorem keeps_type (allowPlus : Bool) : Keeps P (type g allowPlus) := by
  unfold type
  refine (keeps_binder? h).bind fun bound hbound => keeps_get.bind fun ts _ => ?_
  extract_lets startsPath startsFunction afterCheck
  have hcheck (u) : Keeps P (afterCheck u) := by
    -- the forms stand one below the other, so each test passes on to the next
    refine keeps_ite (keeps_parenthesizedType h allowPlus) ?_
    refine keeps_ite (by grind) ?_
    refine keeps_ite (by grind) ?_
    refine keeps_ite (keeps_pathType h hbound allowPlus) ?_
    refine keeps_ite (by grind) ?_
    refine keeps_ite (keeps_inside _ ((h.type true).bind fun element he => ?_)) ?_
    · grind
    refine keeps_ite ((keeps_skip 1).next <| ?_) ?_
    · grind
    refine keeps_ite ((keeps_skip 1).next <| ?_) ?_
    · grind
    grind
  clear_value afterCheck
  grind

/-! ## Functions -/

instance : Worded InputForm := ⟨fun _ _ => True⟩

omit h in
@[grind .] theorem wordsAll_inputForm (form : InputForm) : WordsAll P form := trivial

@[grind ←]
theorem keeps_receiver : Keeps P (receiver g) := by
  unfold receiver
  grind

@[grind ←]
theorem keeps_functionInput : Keeps P (functionInput g) := by
  unfold functionInput
  refine (keeps_skipAttributes h).bind fun attributes ha =>
    (keeps_op? "...").bind fun isDots _ => ?_
  split
  · grind
  · refine keeps_get.bind fun ts _ => ?_
    split
    · grind
    · split
      · grind
      · refine h.pattern.bind fun p hp => (keeps_mark ':').next <| ?_
        grind

theorem keeps_functionInputs (fuel : Nat) (isFirst : Bool) :
    Keeps P (functionInputs g fuel isFirst) := by
  induction fuel generalizing isFirst with
  | zero => exact keeps_failure
  | succ fuel ih =>
    unfold functionInputs
    refine (keeps_ahead _).bind fun isEnd _ => ?_
    split
    · grind
    · refine (keeps_functionInput h).bind fun input hinput => ?_
      grind

@[grind ←]
theorem keeps_signature (allowSafe : Bool) : Keeps P (signature g allowSafe) := by
  unfold signature
  refine (keeps_word? _).next <| (keeps_word? _).next <| ?_
  extract_lets afterSafety afterWords
  have hwords (u) : Keeps P (afterSafety u) := by
    refine keeps_foreignLanguage?.next <| (keeps_word _).next <|
      keeps_name.next <| (keeps_generics h).bind fun parameters hp =>
        Keeps.bind (by grind [keeps_functionInputs]) fun inputs hi =>
          (keeps_returnType h true).bind fun output ho =>
            (keeps_requirements h).bind fun required hr => ?_
    grind
  clear_value afterSafety
  grind

@[grind ←]
theorem keeps_function (keepBodiless : Bool) : Keeps P (function g keepBodiless) := by
  unfold function
  grind

@[grind ←]
theorem keeps_foreignFunction : Keeps P (foreignFunction g) := by
  unfold foreignFunction
  grind

end

end ApiNotes.Code
