/-
The path that an item of an attribute starts with. Words stand in a path with double colons between
them; keywords count as words. `PathAt` says so of the tokens alone, and the reader of paths finds
exactly the path that is there.
-/
import ApiNotes.Symbol.Exposure

namespace ApiNotes.Code

/-! ## Paths and the tokens they are made of -/

/-- Further words of a path, each behind a double colon, up to where no double colon follows. -/
inductive WordsAt : List Token → List String → List Token → Prop
  | stop {ts : List Token} : atColons ts = false → WordsAt ts [] ts
  | next {joint : Bool} {w : String} {ts rest : List Token} {words : List String} :
    WordsAt ts words rest →
      WordsAt (.mark ':' true :: .mark ':' joint :: .word w :: ts) (w :: words) rest

/-- A path at the front of tokens. One that starts with a double colon is not a single word. -/
inductive PathAt : List Token → List String → List Token → Prop
  | plain {w : String} {ts rest : List Token} {words : List String} :
    WordsAt ts words rest → PathAt (.word w :: ts) (w :: words) rest
  | rooted {joint : Bool} {w : String} {ts rest : List Token} {words : List String} :
    WordsAt ts words rest →
      PathAt (.mark ':' true :: .mark ':' joint :: .word w :: ts) ("" :: w :: words) rest

theorem WordsAt.length_le {ts rest : List Token} {words : List String} (h : WordsAt ts words rest) :
    rest.length ≤ ts.length := by
  induction h with
  | stop => exact Nat.le_refl _
  | next h ih => simp only [List.length_cons]; omega

/-- A path takes at least one token. -/
theorem PathAt.length_lt {ts rest : List Token} {path : List String} (h : PathAt ts path rest) :
    rest.length < ts.length := by
  cases h with
  | plain h | rooted h =>
    have := h.length_le
    simp only [List.length_cons]
    omega

theorem atMark_iff {c : Char} {ts : List Token} :
    atMark c ts = true ↔ ∃ joint rest, ts = .mark c joint :: rest := by
  constructor
  · intro h
    match ts with
    | .mark d joint :: rest => exact ⟨joint, rest, by rw [beq_iff_eq.1 h]⟩
  · rintro ⟨joint, rest, rfl⟩
    exact beq_self_eq_true c

theorem atColons_iff {ts : List Token} :
    atColons ts = true ↔ ∃ joint rest, ts = .mark ':' true :: .mark ':' joint :: rest := by
  rw [atColons, atOp, show "::".toList = [':', ':'] from by decide]
  constructor
  · intro h
    match ts with
    | .mark c joined :: ts =>
      cases joined with
      | false => cases h
      | true =>
        obtain ⟨hc, h⟩ := Bool.and_eq_true_iff.1 h
        match ts with
        | .mark d joint :: rest => exact ⟨joint, rest, by rw [← beq_iff_eq.1 hc, ← beq_iff_eq.1 h]⟩
  · rintro ⟨joint, rest, rfl⟩
    rfl

namespace Reading

variable {α : Type} {p : Reading α} {stop : List Token → Bool}

theorem run_op (operator : String) (ts : List Token) :
    (op operator).run ts =
      if atOp operator ts then some ((), ts.drop operator.length) else none := by
  unfold op check
  rw [StateT.run_bind, StateT.run_bind, StateT.run_get]
  show ((if atOp operator ts then pure () else failure : Reading Unit).run ts >>= _) = _
  split <;> rfl

theorem run_op? (operator : String) (ts : List Token) :
    (op? operator).run ts =
      some (if atOp operator ts then (true, ts.drop operator.length) else (false, ts)) := by
  unfold op? ahead
  rw [StateT.run_bind]
  show (if atOp operator ts then (do skip operator.length; return true) else return false :
    Reading Bool).run ts = _
  split <;> rfl

theorem run_anyWord_iff {ts rest : List Token} {w : String} :
    anyWord.run ts = some (w, rest) ↔ ts = .word w :: rest := by
  constructor
  · intro h
    match ts with
    | .word w' :: rest' =>
      cases h
      rfl
  · rintro rfl
    rfl

theorem run_untilLoop_succ (fuel : Nat) (ts : List Token) :
    (untilLoop stop p (fuel + 1)).run ts =
      if stop ts then some ([], ts)
      else (p.run ts).bind fun first => ((untilLoop stop p fuel).run first.2).bind
        fun others => some (first.1 :: others.1, others.2) := by
  rw [untilLoop, ahead, StateT.run_bind]
  show (if stop ts then return [] else do
    let a ← p
    let rest ← untilLoop stop p fuel
    return a :: rest : Reading (List α)).run ts = _
  split
  · rfl
  · simp only [StateT.run_bind, StateT.run_pure, Option.bind_eq_bind, Option.pure_def]

theorem run_untilStop (ts : List Token) :
    (untilStop stop p).run ts = (untilLoop stop p (ts.length + 1)).run ts := by
  rw [untilStop, StateT.run_bind]
  show (if stop ts then return [] else untilLoop stop p (ts.length + 1) :
    Reading (List α)).run ts = _
  split
  · rw [run_untilLoop_succ, if_pos ‹_›]
    rfl
  · rfl

end Reading

open Reading

/-- The reading of a further word of a path. -/
theorem run_nextWord_iff {ts rest : List Token} {w : String} :
    (do op "::"; anyWord : Reading String).run ts = some (w, rest) ↔
      ∃ joint, ts = .mark ':' true :: .mark ':' joint :: .word w :: rest := by
  rw [StateT.run_bind, run_op]
  constructor
  · intro h
    by_cases hcolons : atOp "::" ts = true
    · obtain ⟨joint, after, rfl⟩ := atColons_iff.1 hcolons
      exact ⟨joint, congrArg _ (congrArg _ (run_anyWord_iff.1 h))⟩
    · rw [if_neg hcolons] at h
      cases h
  · rintro ⟨joint, rfl⟩
    rfl

theorem run_nextWords_iff {ts rest : List Token} {words : List String} {fuel : Nat}
    (hfuel : ts.length < fuel) :
    (untilLoop (fun ts => !atColons ts) (do op "::"; anyWord : Reading String) fuel).run ts =
      some (words, rest) ↔ WordsAt ts words rest := by
  induction fuel generalizing ts words with
  | zero => omega
  | succ fuel ih =>
    rw [run_untilLoop_succ]
    cases hcolons : atColons ts with
    | false =>
      constructor
      · rintro ⟨⟩
        exact .stop hcolons
      · rintro (- | h)
        · rfl
        · cases hcolons
    | true =>
      simp only [Bool.not_true, Bool.false_eq_true, if_false, Option.bind_eq_some_iff]
      constructor
      · rintro ⟨⟨w, after⟩, hw, ⟨others, rest'⟩, hothers, heq⟩
        cases heq
        obtain ⟨joint, rfl⟩ := run_nextWord_iff.1 hw
        simp only [List.length_cons] at hfuel
        exact .next ((ih (by omega)).1 hothers)
      · rintro (hstop | ⟨hmore⟩)
        · rw [hcolons] at hstop
          cases hstop
        · rename_i joint w after words
          simp only [List.length_cons] at hfuel
          have hmore := (ih (show after.length < fuel by omega)).2 hmore
          exact ⟨(w, after), run_nextWord_iff.2 ⟨joint, rfl⟩, (words, rest), hmore, rfl⟩

theorem itemPath_iff {ts rest : List Token} {path : List String} :
    itemPath.run ts = some (path, rest) ↔ PathAt ts path rest := by
  simp only [itemPath, StateT.run_bind, StateT.run_pure, run_op?, run_untilStop,
    Option.bind_eq_bind, Option.pure_def, Option.bind_some]
  constructor
  · intro h
    obtain ⟨⟨w, after⟩, hw, h⟩ := Option.bind_eq_some_iff.1 h
    obtain ⟨⟨words, rest'⟩, hwords, h⟩ := Option.bind_eq_some_iff.1 h
    have hwords := (run_nextWords_iff (Nat.lt_succ_self _)).1 hwords
    have hw := run_anyWord_iff.1 hw
    cases h
    by_cases hcolons : atOp "::" ts = true
    · obtain ⟨joint, inner, rfl⟩ := atColons_iff.1 hcolons
      obtain rfl : inner = .word w :: after := hw
      exact .rooted hwords
    · rw [if_neg hcolons] at hw ⊢
      obtain rfl : ts = .word w :: after := hw
      exact .plain hwords
  · rintro (hwords | hwords)
    · exact Option.bind_eq_some_iff.2 ⟨_, rfl, Option.bind_eq_some_iff.2
        ⟨_, (run_nextWords_iff (Nat.lt_succ_self _)).2 hwords, rfl⟩⟩
    · exact Option.bind_eq_some_iff.2 ⟨_, rfl, Option.bind_eq_some_iff.2
        ⟨_, (run_nextWords_iff (Nat.lt_succ_self _)).2 hwords, rfl⟩⟩

end ApiNotes.Code
