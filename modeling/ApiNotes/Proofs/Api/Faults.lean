/-
Faults are final. If interpreting a stream stops at a command, then interpreting any longer stream
stops there or before, whatever the other commands are. They may name further APIs, and may take the
place of the API without a name; but some API still receives the commands up to the fault: the one
that was at fault, or, if no command so far addresses an API, any one of them, since a draft takes
the same commands under every name.
-/
import ApiNotes.Proofs.Api.Isolation

namespace ApiNotes

/-! ## Drafts under another name -/

namespace Draft

/-- The draft under another name. -/
def rename (d : Draft) (name : String) : Draft :=
  { d with model := { d.model with name } }

variable {d d' : Draft} {c : Command} (name : String)

theorem rename_rename (other : String) : (d.rename other).rename name = d.rename name :=
  rfl

theorem rename_self : d.rename d.model.name = d :=
  rfl

theorem mention_rename (t : Option TypeRef) :
    (d.rename name).mention t = (d.mention t).rename name := by
  unfold mention ApiModel.refer rename
  split <;> [split <;> rfl; rfl]

theorem Describes.rename (h : d.Describes c d') : (d.rename name).Describes c (d'.rename name) := by
  cases h with
  | title hk ha => exact .title hk ha
  | description hk ha => exact .description hk ha
  | version version hk ha => exact .version version hk ha
  | filename filename hk ha => exact .filename filename hk ha
  | url url hk ha => exact .url url hk ha
  | urlVariable x value rest servers hk ha hs => exact .urlVariable x value rest servers hk ha hs
  | code code rest response t hk ha hr =>
    have h := Describes.code (d := d.rename name) code rest response t hk ha hr
    rwa [mention_rename] at h
  | route path handler hk ha => exact .route path handler hk ha

/-- A draft takes the same commands under every name. -/
theorem Takes.rename {w : List Warning} (h : d.Takes c d' w) :
    ∃ w', (d.rename name).Takes c (d'.rename name) w' := by
  cases h with
  | opens id hk ha hcur => exact ⟨_, .opens id hk ha hcur⟩
  | closes h hk ha hcur => exact ⟨_, .closes h hk ha hcur⟩
  | describes _ hk hcur hd =>
    exact ⟨_, .describes _ hk hcur (describe_eq_ok_iff.2 ((describe_eq_ok_iff.1 hd).rename name))⟩
  | details h h' t hk hcur hd =>
    have ht := Takes.details (d := d.rename name) h h' t hk hcur hd
    rw [mention_rename] at ht
    exact ⟨_, ht⟩

theorem step_rename {w : List Warning} (h : d.step c = .ok (d', w)) :
    ∃ w', (d.rename name).step c = .ok (d'.rename name, w') := by
  cases hk : c.kind.isKnown with
  | true =>
    obtain ⟨w', ht⟩ := ((step_eq_ok_iff hk).1 h).rename name
    exact ⟨w', (step_eq_ok_iff hk).2 ht⟩
  | false =>
    rw [step_unknown hk] at h
    cases h
    exact ⟨[], step_unknown hk⟩

theorem applyAll_rename {cs : List Command} (h : d.applyAll cs = .ok d') :
    (d.rename name).applyAll cs = .ok (d'.rename name) := by
  induction cs generalizing d with
  | nil => cases h; rfl
  | cons c rest ih =>
    obtain ⟨d₁, w, hs, hrest⟩ := applyAll_cons_eq_ok_iff.1 h
    obtain ⟨w', hs'⟩ := step_rename name hs
    exact applyAll_cons_eq_ok_iff.2 ⟨_, w', hs', ih hrest⟩

/-- A command that a draft refuses is refused under every name. -/
theorem apply_rename_error {e : StructuralError} (h : d.apply c = .error e) :
    ∃ e', (d.rename name).apply c = .error e' := by
  cases ha : (d.rename name).apply c with
  | error e' => exact ⟨e', rfl⟩
  | ok x =>
    obtain ⟨d', w⟩ := x
    obtain ⟨w', hs⟩ := step_rename d.model.name (apply_eq_ok_iff.1 ha)
    rw [rename_rename, rename_self, ← apply_eq_ok_iff, h] at hs
    cases hs

end Draft

/-! ## Faults of one API -/

variable {cs ds : List Command} {i : Nat} {e : StructuralError}

theorem commandsFor_of_target_eq_none {api : String} (h : ∀ c ∈ cs, c.target = none) :
    commandsFor api cs = cs.filter (·.kind.isKnown) := by
  refine List.filter_congr fun c hc => ?_
  simp [Command.reaches, Command.addresses, h c hc]

/-- Where no command addresses an API, all APIs are at fault together. -/
theorem FailsAt.of_target_eq_none {api : String} (other : String)
    (h : ∀ c ∈ cs, c.target = none) (hf : FailsAt api cs i e) : ∃ e', FailsAt other cs i e' := by
  obtain ⟨d, c, hd, hc, hr, he⟩ := hf
  obtain ⟨e', he'⟩ := Draft.apply_rename_error other he
  have htake : ∀ c ∈ cs.take i, c.target = none := fun c hm => h c (List.mem_of_mem_take hm)
  refine ⟨e', d.rename other, c, ?_, hc, ?_, he'⟩
  · have hrun : (Draft.start api).applyAll (commandsFor api (cs.take i)) = .ok d := hd
    show (Draft.start other).applyAll (commandsFor other (cs.take i)) = _
    rw [commandsFor_of_target_eq_none htake] at hrun ⊢
    exact Draft.applyAll_rename other hrun
  · have hnone : c.target = none := h c (List.mem_of_getElem? hc)
    simpa [Command.reaches, Command.addresses, hnone] using hr

theorem FailsAt.lt_length {api : String} (h : FailsAt api cs i e) : i < cs.length := by
  obtain ⟨_, c, _, hc, _⟩ := h
  exact (List.getElem?_eq_some_iff.1 hc).1

/-- Commands after the fault of an API do not matter for it. -/
theorem FailsAt.append {api : String} (h : FailsAt api cs i e) (ds : List Command) :
    FailsAt api (cs ++ ds) i e := by
  have hlt : i < cs.length := h.lt_length
  obtain ⟨d, c, hd, hc, hr⟩ := h
  refine ⟨d, c, ?_, ?_, hr⟩
  · rwa [List.take_append_of_le_length (Nat.le_of_lt hlt)]
  · rwa [List.getElem?_append_left hlt]

/-! ## The APIs of a longer stream -/

theorem apisOf_of_targets (h : cs.filterMap Command.target ≠ []) :
    apisOf cs = firstOccurrences (cs.filterMap Command.target) := by
  unfold apisOf
  dsimp only
  rw [if_neg]
  simpa [firstOccurrences_eq_nil_iff] using h

/-- Every API of a stream is one of a longer stream, unless no command of the stream addresses
one. -/
theorem apisOf_subset_append (ds : List Command) (h : cs.filterMap Command.target ≠ []) :
    apisOf cs ⊆ apisOf (cs ++ ds) := by
  intro api hapi
  rw [apisOf_of_targets h, mem_firstOccurrences] at hapi
  refine targets_subset_apisOf _ ?_
  rw [List.filterMap_append]
  exact List.mem_append_left _ hapi

/-! ## Where a stream stops -/

/-- Interpreting a stream stops at the command of number `i`: all drafts take the commands before
it, and one of them refuses it with this fault. -/
def StopsAt (cs : List Command) (i : Nat) (e : StructuralError) : Prop :=
  (∃ drafts, (draftAll ((apisOf cs).map Draft.start) (cs.take i)).result = .ok drafts) ∧
    (draftAll ((apisOf cs).map Draft.start) (cs.take (i + 1))).result = .error e

theorem firstFault_iff_draftAll {drafts : List Draft} :
    FirstFault (fun d => d.FailsAt cs) drafts i e ↔
      (∃ drafts', (draftAll drafts (cs.take i)).result = .ok drafts') ∧
        (draftAll drafts (cs.take (i + 1))).result = .error e := by
  induction cs generalizing drafts i with
  | nil =>
    refine iff_of_false (fun h => ?_) (by simp [draftAll])
    obtain ⟨_, _, _, -, hf, -⟩ := h.first
    exact Draft.failsAt_nil hf
  | cons c rest ih =>
    cases i with
    | zero =>
      rw [firstFault_zero_iff, List.take_zero, List.take_succ_cons, List.take_zero,
        result_draftAll_cons, bind_eq_error_iff]
      simp [draftAll]
    | succ i =>
      rw [firstFault_succ_iff, List.take_succ_cons, List.take_succ_cons, result_draftAll_cons,
        result_draftAll_cons]
      simp only [ih, bind_eq_ok_iff, bind_eq_error_iff]
      constructor
      · rintro ⟨drafts₁, hc, ⟨drafts', hi⟩, he⟩
        exact ⟨⟨drafts', drafts₁, hc, hi⟩, .inr ⟨drafts₁, hc, he⟩⟩
      · rintro ⟨⟨drafts', drafts₁, hc, hi⟩, he | ⟨drafts₂, hc', he⟩⟩
        · rw [hc] at he; cases he
        · rw [hc] at hc'
          cases hc'
          exact ⟨drafts₁, hc, ⟨drafts', hi⟩, he⟩

/-- A stream stops at the first fault of its APIs. -/
theorem stopsAt_iff : StopsAt cs i e ↔ FirstFault (fun api => FailsAt api cs) (apisOf cs) i e := by
  rw [StopsAt, ← firstFault_iff_draftAll, firstFault_start_iff]

theorem StopsAt.exists_failsAt (h : StopsAt cs i e) : ∃ api ∈ apisOf cs, FailsAt api cs i e := by
  obtain ⟨before, api, after, hapis, hf, -⟩ := (stopsAt_iff.1 h).first
  exact ⟨api, by simp [hapis], hf⟩

/-- If an API is at fault, the stream stops there or before. -/
theorem FailsAt.exists_stopsAt {api : String} (hapi : api ∈ apisOf cs) (hf : FailsAt api cs i e) :
    ∃ j, j ≤ i ∧ ∃ e', StopsAt cs j e' := by
  cases hr : (draftAll ((apisOf cs).map Draft.start) cs).result with
  | ok drafts =>
    obtain ⟨d, hd⟩ := mapM_isOk_iff.1 ⟨drafts, mapM_eq_ok_iff.2 (drafts_eq_ok_iff.1 hr)⟩ api hapi
    exact absurd hf (Draft.follow_isOk_iff.1 ⟨d, hd⟩ i e)
  | error e' =>
    obtain ⟨j, hj⟩ := drafts_eq_error_iff.1 hr
    exact ⟨j, hj.least api hapi i e hf, e', stopsAt_iff.2 hj⟩

theorem StopsAt.interpret_eq_error (h : StopsAt cs i e) : (interpret cs).result = .error e :=
  interpret_eq_error_iff.2 (.inl ⟨i, stopsAt_iff.1 h⟩)

/-- If interpreting a stream stops at a command, then whatever follows the stream, interpreting all
of it fails, at that command or one before it. -/
theorem interpret_append_stopsAt (cs ds : List Command) (i : Nat) (e : StructuralError)
    (h : StopsAt cs i e) :
    (interpret cs).result = .error e ∧ i < cs.length ∧
      ∃ j, j ≤ i ∧ ∃ e', StopsAt (cs ++ ds) j e' ∧ (interpret (cs ++ ds)).result = .error e' := by
  obtain ⟨api, hapi, hf⟩ := h.exists_failsAt
  obtain ⟨api', hapi', e₁, hf'⟩ : ∃ api' ∈ apisOf (cs ++ ds), ∃ e₁, FailsAt api' cs i e₁ := by
    by_cases hnone : cs.filterMap Command.target = []
    · -- the API without a name may be gone, but any other one is at fault as well
      obtain ⟨other, hother⟩ := List.exists_mem_of_ne_nil _ (apisOf_ne_nil (cs ++ ds))
      exact ⟨other, hother, hf.of_target_eq_none other (List.filterMap_eq_nil_iff.1 hnone)⟩
    · exact ⟨api, apisOf_subset_append ds hnone hapi, e, hf⟩
  obtain ⟨j, hj, e', hs⟩ := (hf'.append ds).exists_stopsAt hapi'
  exact ⟨h.interpret_eq_error, hf.lt_length, j, hj, e', hs, hs.interpret_eq_error⟩

/-- One API closes a handler twice. -/
def closedTwice : List Command :=
  [⟨.beginHandler, ["list"], some "pets", none⟩, ⟨.summary, ["All", "pets"], none, none⟩,
   ⟨.endHandler, [], none, none⟩, ⟨.endHandler, [], none, none⟩]

/-- A further API receives the commands for all of them, so with it the stream stops earlier. -/
theorem interpret_append_stopsAt_closedTwice :
    StopsAt closedTwice 3 ⟨"pets", none, .unmatchedEnd⟩ ∧
    ∃ j, j ≤ 3 ∧ ∃ e', StopsAt (closedTwice ++ [⟨.title, ["Shop"], some "shop", none⟩]) j e' ∧
      (interpret (closedTwice ++ [⟨.title, ["Shop"], some "shop", none⟩])).result = .error e' := by
  have h : StopsAt closedTwice 3 ⟨"pets", none, .unmatchedEnd⟩ := ⟨⟨_, by rfl⟩, by rfl⟩
  exact ⟨h, (interpret_append_stopsAt closedTwice
    [⟨.title, ["Shop"], some "shop", none⟩] 3 _ h).2.2⟩

end ApiNotes
