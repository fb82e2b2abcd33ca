/-
The words of a source. Every word among the tokens of a text is a word when it is read by itself,
and the readings of the grammar keep to the words they are given; so every path in a declaration of
a source ends with a word.
-/
import ApiNotes.Proofs.Code.Grammar.Items
import ApiNotes.Proofs.Symbol.Layers
import ApiNotes.Code.SourceUnit
import Mathlib.Data.List.TakeWhile

namespace ApiNotes.Code

open Reading

variable {P : String → Prop}

/-! ## Words of a text -/

/-- Reading a name again gives the name and leaves nothing. -/
theorem plainName?_of_plainName? {text name rest : List Char}
    (h : plainName? text = some (name, rest)) : plainName? name = some (name, []) := by
  cases text with
  | nil => cases h
  | cons c text =>
    rw [plainName?] at h
    split at h
    · rename_i hstart
      cases h
      rw [plainName?, if_pos hstart, List.takeWhile_idem,
        List.dropWhile_eq_nil_iff.2 fun d hd => List.mem_takeWhile_imp hd]
    · cases h

/-- A name is not raw: no hash stands in it. -/
theorem ne_raw_of_plainName? {text name rest : List Char}
    (h : plainName? text = some (name, rest)) (more : List Char) : name ≠ 'r' :: '#' :: more := by
  rintro rfl
  have hself := plainName?_of_plainName? h
  rw [plainName?] at hself
  split at hself
  · have hhash : Text.isIdentifierContinue '#' = false := by decide +kernel
    simp only [List.takeWhile_cons, hhash] at hself
    cases hself
  · cases hself

theorem word?_of_plainName? {name : List Char} (h : plainName? name = some (name, [])) :
    word? name = some (.ofList name, []) := by
  rw [word?]
  · rw [h]
    rfl
  · exact ne_raw_of_plainName? h

/-- What is read as a word is a word by itself. -/
theorem isWord_of_word? {text rest : List Char} {w : String} (h : word? text = some (w, rest)) :
    IsWord w := by
  rw [word?.eq_def] at h
  split at h
  · rename_i raw
    split at h
    · rename_i name rest' hname
      split at h
      · cases h
      · rename_i hraw
        cases h
        have hlist : ("r#" ++ String.ofList name).toList = 'r' :: '#' :: name := by simp
        rw [IsWord, hlist, word?, plainName?_of_plainName? hname]
        exact if_neg hraw
    · cases h
  · obtain ⟨⟨name, rest'⟩, hname, hw⟩ := Option.map_eq_some_iff.1 h
    cases hw
    rw [IsWord, String.toList_ofList]
    exact word?_of_plainName? (plainName?_of_plainName? hname)

/-! ## Words of lexemes and tokens -/

instance : Worded Lexeme where
  WordsAll P
    | .token t => WordsAll P t
    | .opening _ => True
    | .closing _ => True

theorem wordsAll_of_lifetime? {text rest : List Char} {t : Token}
    (h : lifetime? text = some (t, rest)) : WordsAll P t := by
  rw [lifetime?.eq_def] at h
  split at h
  · split at h
    · cases h
      exact .mark _ _
    · cases h
      exact .lifetime _
  · cases h

theorem wordsAll_of_token? {text rest : List Char} {t : Token}
    (h : token? text = some (t, rest)) : WordsAll IsWord t := by
  rw [token?.eq_def] at h
  split at h
  · cases h
    exact .literal _
  split at h
  · cases h
    exact .literal _
  split at h
  · split at h
    · exact wordsAll_of_lifetime? h
    · cases h
      exact .mark _ _
    · cases h
  split at h
  · cases h
  · obtain ⟨⟨w, rest'⟩, hw, ht⟩ := Option.map_eq_some_iff.1 h
    cases ht
    exact .word (isWord_of_word? hw)

/-- The attribute of a documenting comment has one word of its own. -/
theorem wordsAll_docAttribute (hdoc : P "doc") (text : List Char) (inner : Bool) :
    WordsAll P (docAttribute text inner) := by
  have hmark (c : Char) (joint : Bool) : WordsAll P (Token.mark c joint) := .mark c joint
  have hgroup : WordsAll P (Token.group .bracket
      [.word "doc", .mark '=' false, .literal (.text (.ofList text))]) := by
    refine .group fun t ht => ?_
    simp only [List.mem_cons, List.not_mem_nil, or_false] at ht
    rcases ht with rfl | rfl | rfl
    · exact .word hdoc
    · exact .mark _ _
    · exact .literal _
  unfold docAttribute
  refine wordsAll_map (fun t ht => ht) ?_
  cases inner <;> grind

theorem wordsAll_of_bracket? {c : Char} {l : Lexeme} (h : bracket? c = some l) : WordsAll P l := by
  rw [bracket?.eq_def] at h
  split at h <;> cases h <;> trivial

theorem wordsAll_of_lexeme? {text rest : List Char} {ls : List Lexeme}
    (h : lexeme? text = some (ls, rest)) : WordsAll IsWord ls := by
  rw [lexeme?.eq_def] at h
  split at h
  · split at h
    · cases h
    · cases h
      exact wordsAll_docAttribute (by decide +kernel) _ _
  split at h
  · cases h
    exact (wordsAll_cons ..).2 ⟨.literal _, wordsAll_nil⟩
  split at h
  · cases h
  split at h
  · rename_i hbracket
    cases h
    exact (wordsAll_cons ..).2 ⟨wordsAll_of_bracket? hbracket, wordsAll_nil⟩
  · obtain ⟨⟨t, rest'⟩, ht, hls⟩ := Option.map_eq_some_iff.1 h
    cases hls
    exact (wordsAll_cons ..).2 ⟨wordsAll_of_token? ht, wordsAll_nil⟩

theorem wordsAll_of_lexemesOf {fuel : Nat} {text : List Char} {ls : List Lexeme}
    (h : lexemesOf fuel text = some ls) : WordsAll IsWord ls := by
  induction fuel generalizing text ls with
  | zero => cases h
  | succ fuel ih =>
    rw [lexemesOf] at h
    split at h
    · cases h
      exact wordsAll_nil
    · split at h
      · rename_i first rest hfirst
        obtain ⟨others, hothers, hls⟩ := Option.map_eq_some_iff.1 h
        cases hls
        exact (wordsAll_append ..).2 ⟨wordsAll_of_lexeme? hfirst, ih hothers⟩
      · cases h

/-- Matching brackets makes groups of the tokens and takes none away: what is open and what is done
so far holds words of the kind, and so does the result. -/
theorem wordsAll_of_matchBrackets {ls : List Lexeme} {outer : List (Delimiter × List Token)}
    {done ts : List Token} (hls : WordsAll P ls) (houter : WordsAll P outer)
    (hdone : WordsAll P done) (h : matchBrackets outer done ls = some ts) : WordsAll P ts := by
  have hreverse {done : List Token} (hdone : WordsAll P done) : WordsAll P done.reverse :=
    fun t ht => hdone t (List.mem_reverse.1 ht)
  induction ls generalizing outer done with
  | nil =>
    rw [matchBrackets] at h
    split at h
    · cases h
      exact hreverse hdone
    · cases h
  | cons l rest ih =>
    obtain ⟨hl, hrest⟩ := (wordsAll_cons ..).1 hls
    cases l with
    | token t => exact ih hrest houter ((wordsAll_cons ..).2 ⟨hl, hdone⟩) h
    | opening d =>
      exact ih hrest ((wordsAll_cons ..).2 ⟨⟨trivial, hdone⟩, houter⟩) wordsAll_nil h
    | closing d =>
      rw [matchBrackets.eq_def] at h
      cases outer with
      | nil => cases h
      | cons group outer =>
        obtain ⟨hgroup, houter⟩ := (wordsAll_cons ..).1 houter
        dsimp only at h
        split at h
        · have hclosed : WordsAll P (Token.group d done.reverse) := .group (hreverse hdone)
          exact ih hrest houter ((wordsAll_cons ..).2 ⟨hclosed, hgroup.2⟩) h
        · cases h

theorem wordsAll_of_tokensOf {text : List Char} {ts : List Token} (h : tokensOf text = some ts) :
    WordsAll IsWord ts := by
  obtain ⟨ls, hls, hts⟩ := Option.bind_eq_some_iff.1 h
  exact wordsAll_of_matchBrackets (wordsAll_of_lexemesOf hls) wordsAll_nil wordsAll_nil hts

/-! ## Words of declarations -/

instance : Worded SourceUnit where
  WordsAll P source := WordsAll P source.attributes ∧ WordsAll P source.items

theorem keeps_sourceUnit {g : Grammar} (h : g.Keeps P) : Keeps P (sourceUnit g) := by
  unfold sourceUnit
  refine (keeps_innerAttributes h).bind fun attributes ha =>
    Keeps.bind (by grind) fun items hi => ?_
  exact keeps_pure ⟨ha, hi⟩

/-- What a walk of a tree records has the words of the tree. -/
theorem wordsAll_declarations {t : Tree} (h : WordsAll P t) : WordsAll P t.declarations := by
  induction h with
  | mk hform hparts ih =>
    rw [Tree.declarations, declarationsOf_eq_flatMap, wordsAll_append, wordsAll_toList]
    refine ⟨hform, fun d hd => ?_⟩
    obtain ⟨t, ht, hd⟩ := List.mem_flatMap.1 hd
    exact ih t ht d hd

/-- Every path in a declaration of a source ends with a word. -/
theorem wordsAll_of_ofText? {text : String} {source : SourceUnit}
    (h : SourceUnit.ofText? text = some source) :
    ∀ d ∈ source.declarations, WordsAll IsWord d.definition := by
  rw [SourceUnit.ofText?] at h
  split at h
  · rename_i ts hts
    obtain ⟨hattributes, hitems⟩ :=
      wordsAll_of_whole (keeps_sourceUnit (keeps_forTokens ts)) (wordsAll_of_tokensOf hts) h
    rw [SourceUnit.declarations, declarationsOf_eq_flatMap]
    exact wordsAll_flatMap (fun _ ht => wordsAll_declarations ht)
      ((wordsAll_append ..).2 ⟨hattributes, hitems⟩)
  · cases h

/-- Every path in a type that a text spells ends with a word. -/
theorem wordsAll_of_typeText {text : String} {t : TypeExpr} (h : TypeExpr.ofText? text = some t) :
    WordsAll IsWord t := by
  rw [TypeExpr.ofText?] at h
  split at h
  · rename_i ts hts
    obtain ⟨found, hfound, rfl⟩ := Option.map_eq_some_iff.1 h
    have hread : WordsAll IsWord found :=
      wordsAll_of_whole ((keeps_forTokens ts).type true) (wordsAll_of_tokensOf hts) hfound
    exact hread.1
  · cases h

end ApiNotes.Code
