/-
Commands that are tried on a draft. A command is carried out in steps that write to the draft, and
some steps that can still fail come after one that has written: a type is recorded before the open
handler is looked up, and an `end` takes the handler out before it compares the ids. A command that
fails leaves the draft exactly as it was all the same, because the place of a command is checked
first and a handler is put back. So each edit is compared with the pure function that gives a new
draft or a fault: it ends in that draft, or in that fault and the draft it began with.
-/
import ApiNotes.Api.Edit
import ApiNotes.Proofs.Api.Step

namespace ApiNotes

namespace Edit

/-! ## Steps in sequence -/

section Sequence

variable {α β : Type} {x : Edit α} {f : α → Edit β} {a : α} {fault : Fault} {d d' : Draft}

theorem run_bind_of_ok (hx : x.run d = .ok a d') : (x >>= f).run d = (f a).run d' := by
  show EStateM.bind x f d = _
  unfold EStateM.bind
  rw [show x d = .ok a d' from hx]
  rfl

theorem run_bind_of_error (hx : x.run d = .error fault d') :
    (x >>= f).run d = .error fault d' := by
  show EStateM.bind x f d = _
  unfold EStateM.bind
  rw [show x d = .error fault d' from hx]

theorem run_get_bind (f : Draft → Edit β) (d : Draft) : (get >>= f).run d = (f d).run d :=
  rfl

end Sequence

/-- The end of an edit that replaces the draft, or fails and leaves the draft as it was. -/
def settled {α : Type} (d : Draft) : Except Fault (Draft × α) → EStateM.Result Fault Draft α
  | .ok (d', a) => .ok a d'
  | .error fault => .error fault d

variable {d : Draft} {c : Command} {h : Handler} {t : Option TypeRef} {fault : Fault}

/-- An edit that has nothing to say, as one with a list of warnings. -/
theorem run_bind_silent {γ : Type} {x : Edit Unit} {y : Except Fault γ} {f : γ → Draft}
    (hx : x.run d = settled d (y.map fun r => (f r, ()))) :
    (x >>= fun _ => pure ([] : List Warning)).run d = settled d (y.map fun r => (f r, [])) := by
  cases y with
  | ok r => exact run_bind_of_ok hx
  | error fault => exact run_bind_of_error hx

/-! ## Places -/

section Place

variable {kind : Kind}

theorem run_checkPlace_of_delimiter (d : Draft)
    (hk : kind = .beginHandler ∨ kind = .endHandler) : (checkPlace kind).run d = .ok () d := by
  rcases hk with rfl | rfl <;> rfl

theorem run_checkPlace_of_topLevel (d : Draft) (hk : kind.isTopLevel = true) :
    (checkPlace kind).run d = match d.current with
      | none => .ok () d
      | some h => .error (.notAllowedInHandler kind h.id) d := by
  unfold checkPlace
  rw [run_get_bind]
  cases kind <;> cases hk <;> cases d.current <;> rfl

theorem run_checkPlace_of_handlerField (d : Draft) (hk : kind.isHandlerField = true) :
    (checkPlace kind).run d = match d.current with
      | none => .error (.noOpenHandler kind) d
      | some _ => .ok () d := by
  unfold checkPlace
  rw [run_get_bind]
  cases kind <;> cases hk <;> cases d.current <;> rfl

end Place

/-! ## Types and responses -/

theorem run_schemaOfToken_ok {kind : Kind} {token : String} {t : TypeRef}
    (ht : typeOfToken kind token = .ok t) :
    (schemaOfToken kind token).run d = .ok (.ofTypeRef t) (d.mention (some t)) := by
  unfold schemaOfToken
  rw [ht]
  rfl

theorem run_schemaOfToken_error {kind : Kind} {token : String}
    (ht : typeOfToken kind token = .error fault) :
    (schemaOfToken kind token).run d = .error fault d := by
  unfold schemaOfToken
  rw [ht]
  rfl

theorem run_responseOf (d : Draft) (c : Command) (type : Option String) :
    (responseOf c type).run d =
      settled d ((c.responseOf type).map fun (r, t) => (d.mention t, r)) := by
  unfold responseOf
  fun_cases Command.responseOf c type with
  | case1 token hb t ht =>
    simp only [if_pos hb]
    rw [run_bind_of_ok (run_schemaOfToken_ok ht)]
    rfl
  | case2 token hb fault ht =>
    simp only [if_pos hb]
    rw [run_bind_of_error (run_schemaOfToken_error ht)]
    rfl
  | case3 token hb =>
    simp only [if_neg hb]
    rfl
  | case4 => rfl

theorem run_responseOf_ok {type : Option String} {r : Response}
    (hr : c.responseOf type = .ok (r, t)) :
    (responseOf c type).run d = .ok r (d.mention t) := by
  rw [run_responseOf, hr]
  rfl

theorem run_responseOf_error {type : Option String} (hr : c.responseOf type = .error fault) :
    (responseOf c type).run d = .error fault d := by
  rw [run_responseOf, hr]
  rfl

/-! ## Describing -/

/-- A command that describes the API changes the draft, or fails and leaves it as it was. -/
theorem run_describeApi (d : Draft) (c : Command) :
    (describeApi c).run d = settled d ((d.describe c).map (·, ())) := by
  unfold describeApi
  fun_cases Draft.describe d c
  case case6 ha hk hapi =>
    simp only [hk, ha, if_pos hapi]
    rfl
  case case7 ha hk hapi =>
    simp only [hk, ha, if_neg hapi]
    rfl
  case case8 ha hk x servers hs | case9 ha hk x hs =>
    simp only [hk, ha]
    rw [run_get_bind, hs]
    rfl
  case case10 ha hk fault hr =>
    simp only [hk, ha]
    rw [run_bind_of_error (run_responseOf_error hr)]
    rfl
  case case11 ha hk response t hr =>
    simp only [hk, ha]
    rw [run_bind_of_ok (run_responseOf_ok hr)]
    rfl
  case case13 =>
    -- no arm of either function takes the arguments
    split
    case h_10 => rfl
    all_goals simp_all
  all_goals
    rename_i ha hk
    simp only [hk, ha]
    rfl

theorem run_changeHandler (hcur : d.current = some h) (kind : Kind) (f : Handler → Handler) :
    (changeHandler kind f).run d = .ok () { d with current := some (f h) } := by
  unfold changeHandler
  rw [run_get_bind, hcur]
  rfl

/-- While a handler is open, a command that describes it changes the draft, or fails and leaves it
as it was. -/
theorem run_describeHandler (hcur : d.current = some h) (c : Command) :
    (describeHandler c).run d = settled d ((h.describe c).map fun (h', t) =>
      ({ d.mention t with current := some h' }, ())) := by
  -- recording a type does not touch the open handler, so it is still there afterwards
  have hmention : ∀ t, (d.mention t).current = some h := fun t => by
    rw [Draft.mention_current, hcur]
  unfold describeHandler
  fun_cases Handler.describe h c
  case case5 ha hk fault ht | case7 ha hk fault ht =>
    simp only [hk, ha]
    rw [run_bind_of_error (run_schemaOfToken_error (hk ▸ ht))]
    rfl
  case case6 ha hk t ht body | case8 ha hk t ht parameter =>
    simp only [hk, ha]
    rw [run_bind_of_ok (run_schemaOfToken_ok (hk ▸ ht))]
    exact run_changeHandler (hmention _) _ _
  case case10 ha hk fault hr =>
    simp only [hk, ha]
    rw [run_bind_of_error (run_responseOf_error hr)]
    rfl
  case case11 ha hk response t hr =>
    simp only [hk, ha]
    rw [run_bind_of_ok (run_responseOf_ok hr)]
    exact run_changeHandler (hmention _) _ _
  case case12 =>
    -- no arm of either function takes the arguments
    split
    case h_9 => rfl
    all_goals simp_all
  all_goals
    rename_i ha hk
    simp only [hk, ha]
    exact run_changeHandler hcur _ _

/-- Without an open handler the same command fails too late: its type has been recorded. -/
example : (describeHandler ⟨.body, ["User"], none, none⟩).run (.start "") =
    .error (.noOpenHandler .body) { model := { name := "", referenced := ["User"] } } :=
  rfl

/-! ## Opening and closing -/

theorem run_openHandler (d : Draft) (c : Command) :
    (openHandler c).run d = settled d ((d.openHandler c).map (·, ())) := by
  unfold openHandler Draft.openHandler
  rcases c.args with _ | ⟨id, _ | ⟨x, xs⟩⟩
  · rfl
  · dsimp only
    rw [run_get_bind]
    cases d.current <;> rfl
  · rfl

theorem run_takeHandler (hcur : d.current = some h) :
    takeHandler.run d = .ok h { d with current := none } := by
  unfold takeHandler
  rw [run_get_bind, hcur]
  rfl

theorem run_takeHandler_none (hcur : d.current = none) :
    takeHandler.run d = .error .unmatchedEnd d := by
  unfold takeHandler
  rw [run_get_bind, hcur]
  rfl

/-- A handler that is taken out and put back is where it was. -/
theorem putBack_current (hcur : d.current = some h) :
    { ({ d with current := none } : Draft) with current := some h } = d := by
  rw [← hcur]

/-- An `end` closes the open handler, or fails and leaves the draft as it was. -/
theorem run_closeHandler (d : Draft) (c : Command) :
    (closeHandler c).run d = settled d (d.closeHandler c) := by
  unfold closeHandler Draft.closeHandler
  rcases c.args with _ | ⟨id, _ | ⟨x, xs⟩⟩
  · cases hcur : d.current with
    | none => exact run_bind_of_error (run_takeHandler_none hcur)
    | some h => exact (run_bind_of_ok (run_takeHandler hcur)).trans rfl
  · cases hcur : d.current with
    | none => exact run_bind_of_error (run_takeHandler_none hcur)
    | some h =>
      refine (run_bind_of_ok (run_takeHandler hcur)).trans ?_
      by_cases hid : id = h.id
      · simp only [if_pos hid]
        rfl
      · simp only [if_neg hid]
        exact congrArg (EStateM.Result.error (Fault.endMismatch h.id id)) (putBack_current hcur)
  · rfl

/-! ## Carrying out a command -/

theorem carryOut_of_topLevel (hk : c.kind.isTopLevel = true) :
    carryOut c = do checkPlace c.kind; describeApi c; return [] := by
  unfold carryOut
  cases hc : c.kind <;> rw [hc] at hk <;> cases hk <;> rfl

theorem carryOut_of_handlerField (hk : c.kind.isHandlerField = true) :
    carryOut c = do checkPlace c.kind; describeHandler c; return [] := by
  unfold carryOut
  cases hc : c.kind <;> rw [hc] at hk <;> cases hk <;> rfl

/-- Carrying out a command takes the step of the command, or fails with its fault and leaves the
draft as it was. -/
theorem run_carryOut (d : Draft) (c : Command) :
    (carryOut c).run d = settled d (d.step c) := by
  cases hk : c.kind.isKnown with
  | false =>
    rw [Draft.step_unknown hk]
    unfold carryOut
    cases hc : c.kind <;> rw [hc] at hk <;> cases hk
    rfl
  | true =>
    rcases Kind.known_cases hk with hc | hc | hc | hc
    · have hplace := run_checkPlace_of_delimiter d (.inl hc)
      rw [Draft.step_beginHandler hc]
      unfold carryOut
      simp only [hc] at hplace ⊢
      rw [run_bind_of_ok hplace]
      exact run_bind_silent (run_openHandler d c)
    · have hplace := run_checkPlace_of_delimiter d (.inr hc)
      rw [Draft.step_endHandler hc]
      unfold carryOut
      simp only [hc] at hplace ⊢
      rw [run_bind_of_ok hplace]
      exact run_closeHandler d c
    · have hplace := run_checkPlace_of_topLevel d hc
      rw [Draft.step_topLevel hc, carryOut_of_topLevel hc]
      cases hcur : d.current with
      | none =>
        rw [hcur] at hplace
        rw [run_bind_of_ok hplace]
        exact run_bind_silent (run_describeApi d c)
      | some h =>
        rw [hcur] at hplace
        exact run_bind_of_error hplace
    · have hplace := run_checkPlace_of_handlerField d hc
      rw [Draft.step_handlerField hc, carryOut_of_handlerField hc]
      cases hcur : d.current with
      | none =>
        rw [hcur] at hplace
        exact run_bind_of_error hplace
      | some h =>
        rw [hcur] at hplace
        rw [run_bind_of_ok hplace]
        exact run_bind_silent (run_describeHandler hcur c)

end Edit

namespace Draft

/-! ## Commands that fail are passed over -/

/-- The commands of a list that succeed when they are tried one after the other. -/
def accepted (d : Draft) : List Command → List Command
  | [] => []
  | c :: rest =>
    match d.attempt c with
    | (.ok _, d') => c :: d'.accepted rest
    | (.error _, d') => d'.accepted rest

variable {d d' : Draft} {c : Command} {cs : List Command}

theorem attemptAll_cons (d : Draft) (c : Command) (cs : List Command) :
    d.attemptAll (c :: cs) = (d.attempt c).2.attemptAll cs :=
  rfl

/-- Trying a command is applying it, and a command that cannot be applied changes nothing. -/
theorem attempt_eq (d : Draft) (c : Command) :
    d.attempt c = match d.apply c with
      | .ok (d', warnings) => (.ok warnings, d')
      | .error e => (.error e, d) := by
  unfold attempt apply
  rw [Edit.run_carryOut]
  cases d.step c <;> rfl

theorem attempt_of_ok {w : List Warning} (h : d.apply c = .ok (d', w)) :
    d.attempt c = (.ok w, d') := by
  rw [attempt_eq, h]

theorem attempt_of_error {e : StructuralError} (h : d.apply c = .error e) :
    d.attempt c = (.error e, d) := by
  rw [attempt_eq, h]

theorem attempt_eq_error {e : StructuralError} (h : (d.attempt c).1 = .error e) :
    d.apply c = .error e := by
  rw [attempt_eq] at h
  cases ha : d.apply c with
  | ok r => rw [ha] at h; cases h
  | error e' => rw [ha] at h; cases h; rfl

/-- The commands that succeed can be applied in a row, and lead to the same draft. -/
theorem applyAll_accepted (d : Draft) (cs : List Command) :
    d.applyAll (d.accepted cs) = .ok (d.attemptAll cs) := by
  induction cs generalizing d with
  | nil => rfl
  | cons c rest ih =>
    cases ha : d.apply c with
    | ok r =>
      obtain ⟨d', w⟩ := r
      rw [attemptAll_cons, accepted, attempt_of_ok ha]
      simp only [applyAll, ha]
      exact ih d'
    | error e =>
      rw [attemptAll_cons, accepted, attempt_of_error ha]
      exact ih d

/-- Of commands that can be applied in a row none is passed over. -/
theorem attemptAll_of_applyAll (h : d.applyAll cs = .ok d') :
    d.attemptAll cs = d' ∧ d.accepted cs = cs := by
  induction cs generalizing d with
  | nil => cases h; exact ⟨rfl, rfl⟩
  | cons c rest ih =>
    obtain ⟨d₁, w, hs, hrest⟩ := applyAll_cons_eq_ok_iff.1 h
    have ha := attempt_of_ok (apply_eq_ok_iff.2 hs)
    obtain ⟨hall, haccepted⟩ := ih hrest
    refine ⟨?_, ?_⟩
    · rw [attemptAll_cons, ha]
      exact hall
    · rw [accepted, ha]
      exact congrArg (c :: ·) haccepted

/-- A command that fails leaves the draft exactly as it was, whatever the draft and the command. So
commands that are tried one after the other, where those that fail are passed over, lead to the
same draft and the same document as the commands that succeed lead to without the others, and of
these none fails then. -/
theorem attempts_atomic :
    (∀ (d : Draft) (c : Command) (e : StructuralError),
      (d.attempt c).1 = .error e → (d.attempt c).2 = d) ∧
    ∀ (api : String) (cs : List Command),
      let kept := (start api).accepted cs
      (start api).attemptAll kept = (start api).attemptAll cs ∧
      (start api).accepted kept = kept ∧
      ((start api).attemptAll kept).finish = ((start api).attemptAll cs).finish ∧
      ApiModel.ofCommands api kept = ((start api).attemptAll cs).finish.map Prod.fst := by
  refine ⟨fun d c e h => ?_, fun api cs => ?_⟩
  · rw [attempt_of_error (attempt_eq_error h)]
  · have hrun := applyAll_accepted (start api) cs
    obtain ⟨hall, hkept⟩ := attemptAll_of_applyAll hrun
    refine ⟨hall, hkept, congrArg finish hall, ?_⟩
    rw [ApiModel.ofCommands, hrun]

/-- A handler with commands in it, before it and after it that fail: a body outside of a handler, a
response without a type, a `begin` in a handler, an `end` for another one, and a variable without a
server. -/
def strayCommands : List Command :=
  [⟨.body, ["User"], none, none⟩,
   ⟨.beginHandler, ["list"], none, none⟩,
   ⟨.response, ["404", "\x7b[]\x7d"], none, none⟩,
   ⟨.response, ["200", "\x7bPet\x7d"], none, none⟩,
   ⟨.beginHandler, ["other"], none, none⟩,
   ⟨.endHandler, ["other"], none, none⟩,
   ⟨.method, ["GET"], none, none⟩,
   ⟨.endHandler, ["list"], none, none⟩,
   ⟨.urlVariable, ["host", "pets.example"], none, none⟩,
   ⟨.route, ["/pets", "list"], none, none⟩]

/-- The `end` for another handler leaves the handler open, and the five commands that succeed make
the document by themselves. -/
theorem attempts_atomic_stray :
    (let d := (start "").attemptAll (strayCommands.take 5)
     (d.attempt ⟨.endHandler, ["other"], none, none⟩).1 =
        .error ⟨"", none, .endMismatch "list" "other"⟩ ∧
      (d.attempt ⟨.endHandler, ["other"], none, none⟩).2 = d) ∧
    (start "").attemptAll
        [⟨.beginHandler, ["list"], none, none⟩, ⟨.response, ["200", "\x7bPet\x7d"], none, none⟩,
         ⟨.method, ["GET"], none, none⟩, ⟨.endHandler, ["list"], none, none⟩,
         ⟨.route, ["/pets", "list"], none, none⟩] =
      (start "").attemptAll strayCommands := by
  have hfail : (((start "").attemptAll (strayCommands.take 5)).attempt
      ⟨.endHandler, ["other"], none, none⟩).1 =
        .error ⟨"", none, .endMismatch "list" "other"⟩ := rfl
  exact ⟨⟨hfail, attempts_atomic.1 _ _ _ hfail⟩, (attempts_atomic.2 "" strayCommands).1⟩

end Draft

end ApiNotes
