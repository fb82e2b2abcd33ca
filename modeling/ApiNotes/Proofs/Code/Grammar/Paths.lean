/-
Attributes, paths and generic parameters keep to the law of readings. A path has at least one name,
and each of its names is a word that was read.
-/
import ApiNotes.Proofs.Code.Grammar.Basic
import ApiNotes.Code.Grammar.Generics

namespace ApiNotes.Code

open Reading

variable {P : String → Prop} {g : Grammar}

/-! ## Attributes and visibility -/

@[grind .]
theorem keeps_plainSegment : Keeps P plainSegment := by
  unfold plainSegment
  grind

/-- A path from the root starts with an empty name, which is no word. So nothing is said of the
names of a plain path; it merely leaves an end of the tokens. -/
theorem suffix_of_plainPath {ts rest : List Token} {names : List String}
    (h : plainPath.run ts = some (names, rest)) : rest <:+ ts := by
  have hkeeps : Keeps (fun _ => True) plainPath := by
    unfold plainPath
    grind
  exact (hkeeps (fun t _ => t.wordsAll_of_forall fun _ => trivial) h).1

@[grind ←]
theorem keeps_plainPath_bind {α : Type} [Worded α] {f : List String → Reading α}
    (hf : ∀ names, Keeps P (f names)) : Keeps P (plainPath >>= f) := by
  intro ts hts a rest h
  rw [StateT.run_bind] at h
  obtain ⟨⟨names, middle⟩, hpath, h⟩ := Option.bind_eq_some_iff.1 h
  have hmiddle := suffix_of_plainPath hpath
  obtain ⟨hrest, ha⟩ := hf names (wordsAll_of_suffix hmiddle hts) h
  exact ⟨hrest.trans hmiddle, ha⟩

/-- Of a group in a visibility only a scope is taken. -/
@[grind .]
theorem keeps_visibility : Keeps P visibility := by
  unfold visibility
  refine (keeps_word? _).bind fun found _ => ?_
  split
  · refine keeps_get_bind fun ts hts visible rest h => ?_
    split at h
    · split at h
      · cases h
        exact ⟨List.suffix_cons .., trivial⟩
      · cases h
        exact ⟨List.suffix_refl _, trivial⟩
    · split at h
      · cases h
        exact ⟨List.suffix_cons .., trivial⟩
      · cases h
    · cases h
      exact ⟨List.suffix_refl _, trivial⟩
  · grind

section

variable (h : g.Keeps P)
include h

/-- The arguments of an attribute are kept as they stand; its value is a reading of its own. -/
@[grind ←]
theorem keeps_attributeBody : Keeps P (attributeBody g) := by
  unfold attributeBody
  refine (keeps_ahead _).bind fun named _ => ?_
  extract_lets afterPath
  have hafter (path : List String) : Keeps P (afterPath path) := by
    refine keeps_get_bind fun ts hts read rest hread => ?_
    split at hread
    · cases hread
      exact ⟨List.suffix_cons .., trivial, by grind⟩
    · have hvalue : Keeps P (if atMark '=' ts = true then do
          mark '='
          check fun ts => !(atMark '#' ts && atGroup .bracket (ts.drop 1))
          return (Attribute.mk path none, (⟨.attribute, [← g.value]⟩ : Tree))
        else return (⟨path, none⟩, ⟨.attribute, []⟩)) := by grind
      exact hvalue hts hread
  clear_value afterPath
  grind

@[grind ←]
theorem keeps_outerAttributes : Keeps P (outerAttributes g) := by
  unfold outerAttributes
  grind

@[grind ←]
theorem keeps_skipAttributes : Keeps P (skipAttributes g) := by
  unfold skipAttributes
  grind

@[grind ←]
theorem keeps_innerAttributes : Keeps P (innerAttributes g) := by
  unfold innerAttributes
  grind

@[grind ←]
theorem keeps_attributedBlock : Keeps P (attributedBlock g) := by
  unfold attributedBlock
  grind

/-- The body of a match, a trait or an implementation: attributes of its own, then its parts. -/
theorem keeps_attributedBody {p : Reading Tree} (hp : Keeps P p) :
    Keeps P (inside .brace do
      let attributes ← innerAttributes g
      return (attributes, ← untilEnd p)) := by
  refine keeps_inside _ ?_
  grind

/-! ## Paths -/

@[grind ←]
theorem keeps_constArgument : Keeps P (constArgument g) := by
  unfold constArgument
  grind

@[grind ←]
theorem keeps_genericArgument : Keeps P (genericArgument g) := by
  unfold genericArgument
  refine keeps_get.bind fun ts _ => ?_
  split
  · grind
  · split
    · grind
    · refine (h.type true).bind fun t ht => ?_
      grind

@[grind ←]
theorem keeps_angleArguments : Keeps P (angleArguments g) := by
  unfold angleArguments
  grind

@[grind ←]
theorem keeps_returnType (allowPlus : Bool) : Keeps P (returnType g allowPlus) := by
  unfold returnType
  grind

@[grind ←]
theorem keeps_pathSegment (inExpression : Bool) : Keeps P (pathSegment g inExpression) := by
  unfold pathSegment
  refine (keeps_ahead _).bind fun isScope _ => ?_
  grind

omit h in
/-- A path has as many names as segments, and the last of them is a word that was read. -/
@[grind ←]
theorem wordsAll_pathOfSegments (hasSelfType rooted : Bool) {before : List Tree}
    {segments : List (String × SegmentArguments × List Tree)} (hne : segments ≠ [])
    (hbefore : WordsAll P before) (hsegments : WordsAll P segments) :
    WordsAll P (pathOfSegments hasSelfType rooted before segments) := by
  refine ⟨?_, ?_, ?_, ?_⟩
  · simpa [pathOfSegments] using hne
  · unfold pathOfSegments
    grind
  · show WordsAll P ((segments.getLast?.map fun s => s.2.1).getD none)
    rw [List.getLast?_eq_some_getLast hne]
    exact (hsegments _ (List.getLast_mem hne)).2.1
  · unfold pathOfSegments
    grind

@[grind ←]
theorem keeps_path (inExpression : Bool) : Keeps P (path g inExpression) := by
  unfold path
  grind

@[grind ←]
theorem keeps_qualifiedPath (inExpression : Bool) : Keeps P (qualifiedPath g inExpression) := by
  unfold qualifiedPath
  refine (keeps_mark? '<').bind fun hasSelfType _ => ?_
  split
  · refine (h.type true).bind fun self hself => (keeps_word? "as").bind fun named _ => ?_
    extract_lets afterTrait
    have hafter (trait) (htrait : WordsAll P trait) : Keeps P (afterTrait trait) := by
      refine (keeps_mark '>').next <| (keeps_op "::").next <|
        (keeps_pathSegment h inExpression).bind fun first hfirst =>
          Keeps.bind (by grind) fun others hothers => keeps_pure ?_
      exact wordsAll_pathOfSegments _ _ (by simp) (by grind) (by grind)
    clear_value afterTrait
    grind
  · exact keeps_path h inExpression

/-! ## Generic parameters -/

omit h in
@[grind .]
theorem keeps_lifetimeBounds (stop : List Token → Bool) : Keeps P (lifetimeBounds stop) := by
  unfold lifetimeBounds
  grind

@[grind ←]
theorem keeps_genericParameter (allowBlank : Bool) : Keeps P (genericParameter g allowBlank) := by
  unfold genericParameter
  refine (keeps_skipAttributes h).bind fun attributes ha => keeps_get.bind fun ts _ => ?_
  split
  · grind
  · split
    · refine (keeps_skip 1).next <| (keeps_mark? ':').bind fun bounded _ => ?_
      extract_lets afterBounds
      have hafter (bounds) (hbounds : WordsAll P bounds) : Keeps P (afterBounds bounds) := by grind
      clear_value afterBounds
      grind
    · split
      · refine (keeps_skip 1).next <| keeps_name.next <|
          (keeps_mark ':').next <| (h.type true).bind fun t ht => ?_
        grind
      · grind

@[grind ←]
theorem keeps_parameterList (allowBlank : Bool) : Keeps P (parameterList g allowBlank) := by
  unfold parameterList
  grind

@[grind ←]
theorem keeps_generics : Keeps P (generics g) := by
  unfold generics
  grind

@[grind ←]
theorem keeps_binder? : Keeps P (binder? g) := by
  unfold binder?
  grind

@[grind ←]
theorem keeps_requirement : Keeps P (requirement g) := by
  unfold requirement
  refine keeps_get.bind fun ts _ => ?_
  split
  · grind
  · refine (keeps_binder? h).bind fun bound hbound => ?_
    grind

theorem keeps_requirementsLoop (fuel : Nat) : Keeps P (requirementsLoop g fuel) := by
  induction fuel with
  | zero => exact keeps_failure
  | succ fuel ih =>
    unfold requirementsLoop
    grind

@[grind ←]
theorem keeps_requirements : Keeps P (requirements g) := by
  unfold requirements
  grind [keeps_requirementsLoop]

end

end ApiNotes.Code
