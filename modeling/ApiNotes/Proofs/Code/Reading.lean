/-
What a reading keeps. A reading takes tokens off the front of a list and makes its result of the
words among them. So what it leaves is an end of what it was given, and a property that all words
of the tokens have is one of the words in the result. `Keeps` says both at once; it holds of each
reading of a single token and passes through every way in which readings are put together.
-/
import ApiNotes.Code.Reading

namespace ApiNotes.Code

variable {P : String → Prop} {α β : Type}

/-! ## Words -/

/-- Every word in a token has a property, those in groups included. -/
inductive Token.WordsAll (P : String → Prop) : Token → Prop
  | word {w : String} : P w → WordsAll P (.word w)
  | mark (c : Char) (joint : Bool) : WordsAll P (.mark c joint)
  | lifetime (name : String) : WordsAll P (.lifetime name)
  | literal (l : Literal) : WordsAll P (.literal l)
  | group {d : Delimiter} {content : List Token} :
    (∀ t ∈ content, WordsAll P t) → WordsAll P (.group d content)

/-- Results of readings, with the words that matter in them. -/
class Worded (α : Type) where
  /-- Every word that matters in a result has a property. -/
  WordsAll : (String → Prop) → α → Prop

export Worded (WordsAll)

instance : Worded Unit := ⟨fun _ _ => True⟩
instance : Worded Bool := ⟨fun _ _ => True⟩
instance : Worded Delimiter := ⟨fun _ _ => True⟩
instance : Worded String := ⟨fun P w => P w⟩
instance : Worded Token := ⟨Token.WordsAll⟩
instance [Worded α] : Worded (List α) := ⟨fun P l => ∀ a ∈ l, WordsAll P a⟩
instance [Worded α] : Worded (Option α) := ⟨fun P o => ∀ a ∈ o, WordsAll P a⟩
instance [Worded α] [Worded β] : Worded (α × β) := ⟨fun P p => WordsAll P p.1 ∧ WordsAll P p.2⟩

section
variable [Worded α] [Worded β]

@[grind .] theorem wordsAll_unit (u : Unit) : WordsAll P u := trivial
@[grind .] theorem wordsAll_bool (b : Bool) : WordsAll P b := trivial
@[grind .] theorem wordsAll_delimiter (d : Delimiter) : WordsAll P d := trivial
@[grind norm] theorem wordsAll_string (w : String) : WordsAll P w ↔ P w := .rfl

@[grind norm] theorem wordsAll_pair (a : α) (b : β) :
    WordsAll P (a, b) ↔ WordsAll P a ∧ WordsAll P b := .rfl

@[grind →] theorem wordsAll_fst {p : α × β} (h : WordsAll P p) : WordsAll P p.1 := h.1
@[grind →] theorem wordsAll_snd {p : α × β} (h : WordsAll P p) : WordsAll P p.2 := h.2

@[grind norm]
theorem wordsAll_ite (c : Prop) [Decidable c] (a b : α) :
    WordsAll P (if c then a else b) ↔ (c → WordsAll P a) ∧ (¬ c → WordsAll P b) := by
  split <;> simp [*]

@[grind .] theorem wordsAll_none : WordsAll P (none : Option α) := nofun

@[grind norm] theorem wordsAll_some (a : α) : WordsAll P (some a) ↔ WordsAll P a := by
  simp only [WordsAll, Option.mem_some_iff, forall_eq']

@[grind →]
theorem wordsAll_of_eq_some {o : Option α} {a : α} (ho : WordsAll P o) (h : o = some a) :
    WordsAll P a :=
  ho a h

@[grind ←]
theorem wordsAll_getD {o : Option α} {a : α} (ho : WordsAll P o) (ha : WordsAll P a) :
    WordsAll P (o.getD a) := by
  cases o with
  | none => exact ha
  | some b => exact (wordsAll_some b).1 ho

@[grind ←]
theorem wordsAll_optionMap {f : α → β} {o : Option α} (hf : ∀ a, WordsAll P a → WordsAll P (f a))
    (ho : WordsAll P o) : WordsAll P (o.map f) := by
  cases o with
  | none => exact wordsAll_none
  | some a => exact (wordsAll_some _).2 (hf a ((wordsAll_some a).1 ho))

@[grind .] theorem wordsAll_nil : WordsAll P ([] : List α) := nofun

@[grind norm] theorem wordsAll_cons (a : α) (l : List α) :
    WordsAll P (a :: l) ↔ WordsAll P a ∧ WordsAll P l := List.forall_mem_cons

@[grind norm] theorem wordsAll_toList (o : Option α) :
    WordsAll P o.toList ↔ WordsAll P o := by
  simp [WordsAll]

@[grind norm] theorem wordsAll_append (l l' : List α) :
    WordsAll P (l ++ l') ↔ WordsAll P l ∧ WordsAll P l' := List.forall_mem_append

@[grind norm] theorem wordsAll_flatten (l : List (List α)) :
    WordsAll P l.flatten ↔ WordsAll P l := by
  simp only [WordsAll, List.mem_flatten]
  grind

@[grind ←]
theorem wordsAll_map {f : α → β} {l : List α} (hf : ∀ a, WordsAll P a → WordsAll P (f a))
    (hl : WordsAll P l) : WordsAll P (l.map f) :=
  List.forall_mem_map.2 fun a ha => hf a (hl a ha)

@[grind ←]
theorem wordsAll_flatMap {f : α → List β} {l : List α}
    (hf : ∀ a, WordsAll P a → WordsAll P (f a)) (hl : WordsAll P l) : WordsAll P (l.flatMap f) := by
  rw [List.flatMap_def, wordsAll_flatten]
  exact wordsAll_map hf hl

theorem wordsAll_of_suffix {l l' : List α} (h : l' <:+ l) (hl : WordsAll P l) : WordsAll P l' :=
  fun a ha => hl a (h.mem ha)

end

/-- A property of all words is one of the words in any token. -/
theorem Token.wordsAll_of_forall (h : ∀ w, P w) : (t : Token) → t.WordsAll P
  | .word w => .word (h w)
  | .mark c joint => .mark c joint
  | .lifetime name => .lifetime name
  | .literal l => .literal l
  | .group _ content => .group fun t _ => wordsAll_of_forall h t

namespace Reading

variable [Worded α] [Worded β]

/-! ## The law and how it passes on -/

/-- A reading leaves an end of the tokens it is given, and the words in its result are from them:
what all their words have in common, they have as well. -/
def Keeps (P : String → Prop) (p : Reading α) : Prop :=
  ∀ ⦃ts : List Token⦄, WordsAll P ts →
    ∀ ⦃a rest⦄, p.run ts = some (a, rest) → rest <:+ ts ∧ WordsAll P a

@[grind ←]
theorem keeps_pure {a : α} (ha : WordsAll P a) : Keeps P (pure a : Reading α) := by
  rintro ts - _ _ ⟨⟩
  exact ⟨List.suffix_refl _, ha⟩

@[grind .]
theorem keeps_failure : Keeps P (failure : Reading α) :=
  nofun

/-- What comes after a reading may rely on the words in its result. -/
@[grind ←]
theorem Keeps.bind {p : Reading α} {f : α → Reading β} (hp : Keeps P p)
    (hf : ∀ a, WordsAll P a → Keeps P (f a)) : Keeps P (p >>= f) := by
  intro ts hts b rest h
  rw [StateT.run_bind] at h
  obtain ⟨⟨a, middle⟩, ha, h⟩ := Option.bind_eq_some_iff.1 h
  obtain ⟨hmiddle, ha⟩ := hp hts ha
  obtain ⟨hrest, hb⟩ := hf a ha (wordsAll_of_suffix hmiddle hts) h
  exact ⟨hrest.trans hmiddle, hb⟩

theorem Keeps.next {p : Reading α} {q : Reading β} (hp : Keeps P p) (hq : Keeps P q) :
    Keeps P (p >>= fun _ => q) :=
  hp.bind fun _ _ => hq

@[grind ←]
theorem keeps_map {p : Reading α} {f : α → β} (hp : Keeps P p)
    (hf : ∀ a, WordsAll P a → WordsAll P (f a)) : Keeps P (f <$> p) := by
  rw [map_eq_pure_bind]
  exact hp.bind fun a ha => keeps_pure (hf a ha)

theorem keeps_ite {c : Prop} [Decidable c] {p q : Reading α} (hp : Keeps P p) (hq : Keeps P q) :
    Keeps P (if c then p else q) := by
  split
  · exact hp
  · exact hq

@[grind .]
theorem keeps_get : Keeps P (get : Reading (List Token)) := by
  rintro ts hts _ _ ⟨⟩
  exact ⟨List.suffix_refl _, hts⟩

/-- A reading that decides by the tokens ahead keeps to the law if it does so on each list. -/
theorem keeps_get_bind {f : List Token → Reading β}
    (hf : ∀ ⦃ts⦄, WordsAll P ts → ∀ ⦃b rest⦄, (f ts).run ts = some (b, rest) →
      rest <:+ ts ∧ WordsAll P b) : Keeps P (get >>= f) :=
  fun _ hts _ _ h => hf hts h

/-- So does one that goes on with an end of the tokens ahead. -/
theorem keeps_set_bind {f : Unit → Reading β} {ts rest rest' : List Token} {b : β}
    (hf : Keeps P (f ())) (hend : rest <:+ ts) (hts : WordsAll P ts)
    (h : (set rest >>= f : Reading β).run ts = some (b, rest')) : rest' <:+ ts ∧ WordsAll P b := by
  obtain ⟨hrest, hb⟩ := hf (wordsAll_of_suffix hend hts) h
  exact ⟨hrest.trans hend, hb⟩

/-! ## Single tokens -/

@[grind .]
theorem keeps_skip (n : Nat) : Keeps P (skip n) := by
  rintro ts - _ _ ⟨⟩
  exact ⟨List.drop_suffix .., trivial⟩

@[grind .]
theorem keeps_ahead (test : List Token → Bool) : Keeps P (ahead test) := by
  unfold ahead
  grind

@[grind .]
theorem keeps_check (test : List Token → Bool) : Keeps P (check test) := by
  unfold check
  grind

@[grind .]
theorem keeps_word (w : String) : Keeps P (word w) := by
  unfold word
  grind

@[grind .]
theorem keeps_word? (w : String) : Keeps P (word? w) := by
  unfold word?
  grind

@[grind .]
theorem keeps_mark (c : Char) : Keeps P (mark c) := by
  unfold mark
  grind

@[grind .]
theorem keeps_mark? (c : Char) : Keeps P (mark? c) := by
  unfold mark?
  grind

@[grind .]
theorem keeps_op (operator : String) : Keeps P (op operator) := by
  unfold op
  grind

@[grind .]
theorem keeps_op? (operator : String) : Keeps P (op? operator) := by
  unfold op?
  grind

/-- The one reading whose result is a word. -/
@[grind .]
theorem keeps_anyWord : Keeps P anyWord := by
  refine keeps_get_bind fun ts hts w rest h => ?_
  split at h
  · rename_i w' rest'
    cases h
    cases hts _ List.mem_cons_self with
    | word hw => exact ⟨List.suffix_cons .., hw⟩
  · cases h

@[grind .]
theorem keeps_name : Keeps P name := by
  unfold name
  grind

@[grind .]
theorem keeps_nameOrBlank : Keeps P nameOrBlank := by
  unfold nameOrBlank
  grind

@[grind .]
theorem keeps_lifetime : Keeps P lifetime := by
  unfold lifetime
  grind

@[grind .]
theorem keeps_lifetime? : Keeps P lifetime? := by
  unfold lifetime?
  grind

@[grind .]
theorem keeps_literal : Keeps P literal := by
  unfold literal
  grind

/-! ## Groups -/

/-- The words in the content of a group are words of the tokens that the group stands in. -/
@[grind .]
theorem keeps_content (d : Delimiter) : Keeps P (content d) := by
  refine keeps_get_bind fun ts hts inner rest h => ?_
  split at h
  · rename_i d' inner' rest'
    split at h
    · cases h
      cases hts _ List.mem_cons_self with
      | group hinner => exact ⟨List.suffix_cons .., hinner⟩
    · cases h
  · cases h

@[grind .]
theorem keeps_anyGroup : Keeps P anyGroup := by
  refine keeps_get_bind fun ts hts d rest h => ?_
  split at h
  · cases h
    cases hts _ List.mem_cons_self with
    | group hinner => exact ⟨List.suffix_cons .., trivial, hinner⟩
  · cases h

theorem wordsAll_of_whole {p : Reading α} (hp : Keeps P p) {ts : List Token} (hts : WordsAll P ts)
    {a : α} (h : whole p ts = some a) : WordsAll P a := by
  rw [whole] at h
  split at h
  · rename_i a' hrun
    cases h
    exact (hp hts hrun).2
  · cases h

@[grind ←]
theorem keeps_inside (d : Delimiter) {p : Reading α} (hp : Keeps P p) : Keeps P (inside d p) := by
  refine (keeps_content d).bind fun inner hinner => ?_
  cases h : whole p inner with
  | none => exact keeps_failure
  | some a => exact keeps_pure (wordsAll_of_whole hp hinner h)

/-! ## Lists -/

section
variable {p : Reading α} (hp : Keeps P p) (stop : List Token → Bool)
include hp

theorem keeps_untilLoop (fuel : Nat) : Keeps P (untilLoop stop p fuel) := by
  induction fuel with
  | zero => exact keeps_failure
  | succ fuel ih =>
    unfold untilLoop
    grind

@[grind ←]
theorem keeps_untilStop : Keeps P (untilStop stop p) := by
  unfold untilStop
  grind [keeps_untilLoop]

@[grind ←]
theorem keeps_untilEnd : Keeps P (untilEnd p) :=
  keeps_untilStop hp _

theorem keeps_separatedLoop {separator : Reading Unit} (hs : Keeps P separator) (fuel : Nat) :
    Keeps P (separatedLoop stop separator p fuel) := by
  induction fuel with
  | zero => exact keeps_failure
  | succ fuel ih =>
    unfold separatedLoop
    grind

@[grind ←]
theorem keeps_separated {separator : Reading Unit} (hs : Keeps P separator) :
    Keeps P (separated stop separator p) :=
  keeps_get.bind fun _ _ => keeps_separatedLoop hp stop hs _

@[grind ←]
theorem keeps_commaList : Keeps P (commaList p) :=
  keeps_separated hp _ (keeps_mark ',')

theorem keeps_plusLoop (fuel : Nat) : Keeps P (plusLoop stop p fuel) := by
  induction fuel with
  | zero => exact keeps_failure
  | succ fuel ih =>
    unfold plusLoop
    grind

@[grind ←]
theorem keeps_plusList : Keeps P (plusList stop p) :=
  keeps_get.bind fun _ _ => keeps_plusLoop hp stop _

end

end Reading

end ApiNotes.Code
