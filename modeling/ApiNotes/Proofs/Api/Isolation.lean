/-
Each API by itself. The interpreter takes all drafts through a stream side by side and stops at the
first fault; here a stream is given to one API alone, which receives the known commands that address
it or none. The documents of a stream are those of the APIs by themselves, and its failure is the
first of theirs: at the smallest number of a command, then of the first API; faults in finishing
count only if no command is at fault.

A run side by side is a fold of `List.mapM`, and its laws are inductions on the stream in which the
drafts of one step are paired with those of the next.
-/
import ApiNotes.Api.Interpret
import ApiNotes.Proofs.Api.Step
import ApiNotes.Proofs.Document.Occurrences

namespace ApiNotes

/-! ## One API of a stream -/

/-- Whether a command reaches an API: it is known, and it addresses the API or none. -/
def Command.reaches (api : String) (c : Command) : Bool :=
  c.kind.isKnown && c.addresses api

/-- The commands of a stream that reach an API. -/
def commandsFor (api : String) (cs : List Command) : List Command :=
  cs.filter (Command.reaches api)

/-- The document that a stream gives an API by itself. -/
def solo (api : String) (cs : List Command) : Except StructuralError ApiModel :=
  ApiModel.ofCommands api (commandsFor api cs)

namespace Draft

/-- The draft after those commands of a stream that reach it. -/
def follow (d : Draft) (cs : List Command) : Except StructuralError Draft :=
  d.applyAll (commandsFor d.model.name cs)

/-- A draft that follows a stream fails at the command of number `i`. -/
def FailsAt (d : Draft) (cs : List Command) (i : Nat) (e : StructuralError) : Prop :=
  ∃ d' c, d.follow (cs.take i) = .ok d' ∧ cs[i]? = some c ∧
    c.reaches d.model.name = true ∧ d'.apply c = .error e

end Draft

/-- An API by itself fails at the command of number `i` of a stream. -/
def FailsAt (api : String) (cs : List Command) (i : Nat) (e : StructuralError) : Prop :=
  (Draft.start api).FailsAt cs i e

/-- The first of the faults of several runs: no run is at fault at a smaller number, and no run
before it at this one. -/
structure FirstFault {α : Type} (fails : α → Nat → StructuralError → Prop) (runs : List α)
    (i : Nat) (e : StructuralError) : Prop where
  least : ∀ a ∈ runs, ∀ j e', fails a j e' → i ≤ j
  first : ∃ before a after, runs = before ++ a :: after ∧ fails a i e ∧
    ∀ b ∈ before, ∀ e', ¬ fails b i e'

/-- Runs that are paired, with the faults of one side `k` commands later than those of the other,
have the same first fault, `k` commands later. -/
theorem firstFault_shift {α β : Type} {R : α → β → Prop} {runs : List α} {runs' : List β}
    {fails : α → Nat → StructuralError → Prop} {fails' : β → Nat → StructuralError → Prop}
    {k i : Nat} {e : StructuralError} (h : List.Forall₂ R runs runs')
    (hlater : ∀ a b, R a b → ∀ j e', fails a (j + k) e' ↔ fails' b j e')
    (hnone : ∀ a b, R a b → ∀ j < k, ∀ e', ¬ fails a j e') :
    FirstFault fails runs (i + k) e ↔ FirstFault fails' runs' i e := by
  have hleast : (∀ a ∈ runs, ∀ j e', fails a j e' → i + k ≤ j) ↔
      ∀ b ∈ runs', ∀ j e', fails' b j e' → i ≤ j := by
    refine forall_mem_congr h fun a b hab => ⟨fun ha j e' hj => ?_, fun hb j e' hj => ?_⟩
    · have hle := ha (j + k) e' ((hlater a b hab j e').2 hj)
      omega
    · -- a fault of the left side before number `k` is none
      rcases Nat.lt_or_ge j k with hlt | hge
      · exact absurd hj (hnone a b hab j hlt e')
      · obtain ⟨j, rfl⟩ := Nat.exists_eq_add_of_le' hge
        have hle := hb j e' ((hlater a b hab j e').1 hj)
        omega
  have hfirst := exists_first_congr h (fun a b hab => hlater a b hab i e)
    fun a b hab => forall_congr' fun e' => not_congr (hlater a b hab i e')
  exact ⟨fun h => ⟨hleast.1 h.least, hfirst.1 h.first⟩,
    fun h => ⟨hleast.2 h.least, hfirst.2 h.first⟩⟩

/-! ## One draft -/

namespace Draft

variable {d d' : Draft} {c : Command} {cs rest : List Command} {e : StructuralError} {i : Nat}

/-- The draft after a command of a stream, which may not reach it. -/
def hear (d : Draft) (c : Command) : Except StructuralError Draft :=
  if c.reaches d.model.name then (d.apply c).map Prod.fst else .ok d

theorem hear_name (h : d.hear c = .ok d') : d'.model.name = d.model.name := by
  unfold hear at h
  split at h
  · obtain ⟨⟨d₁, w⟩, ha, rfl⟩ := map_eq_ok_iff.1 h
    exact apply_name ha
  · cases h; rfl

theorem follow_nil (d : Draft) : d.follow [] = .ok d :=
  rfl

theorem follow_cons : d.follow (c :: rest) = d.hear c >>= fun d' => d'.follow rest := by
  unfold follow hear commandsFor
  rw [List.filter_cons]
  split
  · rw [applyAll]
    cases ha : d.apply c with
    | error e => rfl
    | ok x =>
      obtain ⟨d', w⟩ := x
      show d'.applyAll _ = d'.applyAll _
      rw [apply_name ha]
  · rfl

theorem failsAt_nil : ¬ d.FailsAt [] i e := by
  rintro ⟨d', c, -, hc, -⟩
  simp at hc

theorem failsAt_zero : d.FailsAt (c :: rest) 0 e ↔ d.hear c = .error e := by
  unfold FailsAt hear
  simp only [List.take_zero, follow_nil, List.getElem?_cons_zero, Option.some.injEq,
    Except.ok.injEq]
  constructor
  · rintro ⟨_, _, rfl, rfl, hr, he⟩
    rw [if_pos hr, he]
    rfl
  · intro h
    split at h
    · rename_i hr
      exact ⟨d, c, rfl, rfl, hr, map_eq_error_iff.1 h⟩
    · cases h

theorem failsAt_succ :
    d.FailsAt (c :: rest) (i + 1) e ↔ ∃ d', d.hear c = .ok d' ∧ d'.FailsAt rest i e := by
  unfold FailsAt
  simp only [List.take_succ_cons, follow_cons, bind_eq_ok_iff, List.getElem?_cons_succ]
  constructor
  · rintro ⟨d₂, x, ⟨d₁, h₁, h₂⟩, hx, hr, he⟩
    exact ⟨d₁, h₁, d₂, x, h₂, hx, by rwa [hear_name h₁], he⟩
  · rintro ⟨d₁, h₁, d₂, x, h₂, hx, hr, he⟩
    exact ⟨d₂, x, ⟨d₁, h₁, h₂⟩, hx, by rwa [hear_name h₁] at hr, he⟩

/-- A draft fails to follow a stream with the fault of one of its commands. -/
theorem follow_eq_error_iff : d.follow cs = .error e ↔ ∃ i, d.FailsAt cs i e := by
  induction cs generalizing d with
  | nil => simp [follow_nil, failsAt_nil]
  | cons c rest ih =>
    rw [follow_cons, bind_eq_error_iff]
    constructor
    · rintro (h | ⟨d', h, hrest⟩)
      · exact ⟨0, failsAt_zero.2 h⟩
      · obtain ⟨i, hi⟩ := ih.1 hrest
        exact ⟨i + 1, failsAt_succ.2 ⟨d', h, hi⟩⟩
    · rintro ⟨i, hi⟩
      cases i with
      | zero => exact .inl (failsAt_zero.1 hi)
      | succ i =>
        obtain ⟨d', h, hi⟩ := failsAt_succ.1 hi
        exact .inr ⟨d', h, ih.2 ⟨i, hi⟩⟩

theorem follow_isOk_iff : (∃ d', d.follow cs = .ok d') ↔ ∀ i e, ¬ d.FailsAt cs i e := by
  cases h : d.follow cs with
  | ok d' =>
    refine iff_of_true ⟨d', rfl⟩ fun i e hi => ?_
    rw [follow_eq_error_iff.2 ⟨i, hi⟩] at h
    cases h
  | error e =>
    obtain ⟨i, hi⟩ := follow_eq_error_iff.1 h
    exact iff_of_false (by simp) fun hno => hno i e hi

end Draft

/-! ## All drafts side by side -/

theorem result_receive {d : Draft} {c : Command} (hk : c.kind.isKnown = true) :
    (d.receive c).result = d.hear c := by
  unfold Draft.receive Draft.hear Command.reaches
  rw [hk, Bool.true_and]
  split
  · cases d.apply c with
    | error e => rfl
    | ok x => rfl
  · rfl

theorem result_receiveAll {c : Command} (hk : c.kind.isKnown = true) (ds : List Draft) :
    (receiveAll c ds).result = ds.mapM (Draft.hear · c) := by
  induction ds with
  | nil => rfl
  | cons d rest ih =>
    rw [receiveAll, Logged.result_bind, result_receive hk, List.mapM_cons]
    simp only [Logged.result_bind, ih, Logged.result_pure]
    rfl

theorem hear_of_not_known {d : Draft} {c : Command} (hk : c.kind.isKnown = false) :
    d.hear c = .ok d := by
  unfold Draft.hear Command.reaches
  rw [hk]
  rfl

/-- The drafts side by side take the commands of a stream one after the other. -/
theorem result_draftAll_cons (ds : List Draft) (c : Command) (rest : List Command) :
    (draftAll ds (c :: rest)).result =
      ds.mapM (Draft.hear · c) >>= fun ds' => (draftAll ds' rest).result := by
  cases hk : c.kind.isKnown with
  | true =>
    cases hc : c.kind with
    | unknown keyword => rw [hc] at hk; cases hk
    | _ => simp only [draftAll, hc, Logged.result_bind, result_receiveAll hk]
  | false =>
    have hall : ds.mapM (Draft.hear · c) = .ok ds :=
      mapM_eq_ok_iff.2 (List.forall₂_same.2 fun d _ => hear_of_not_known hk)
    rw [hall]
    cases hc : c.kind with
    | unknown keyword =>
      simp only [draftAll, hc, Logged.result_bind, Logged.result_warn]
      rfl
    | _ => rw [hc] at hk; cases hk

/-- The drafts get through a stream side by side if each of them does. -/
theorem draftAll_eq_ok_iff {ds ds' : List Draft} {cs : List Command} :
    (draftAll ds cs).result = .ok ds' ↔ List.Forall₂ (fun d d' => d.follow cs = .ok d') ds ds' := by
  induction cs generalizing ds with
  | nil =>
    show Except.ok ds = Except.ok ds' ↔ _
    simp [Draft.follow_nil, List.forall₂_eq_eq_eq]
  | cons c rest ih =>
    rw [result_draftAll_cons, bind_eq_ok_iff]
    simp only [mapM_eq_ok_iff, ih, forall₂_comp, Draft.follow_cons, bind_eq_ok_iff]

theorem firstFault_zero_iff {ds : List Draft} {c : Command} {rest : List Command}
    {e : StructuralError} : FirstFault (fun d => d.FailsAt (c :: rest)) ds 0 e ↔
      ds.mapM (Draft.hear · c) = .error e := by
  have hfirst : (∃ before d after, ds = before ++ d :: after ∧ d.FailsAt (c :: rest) 0 e ∧
      ∀ b ∈ before, ∀ e', ¬ b.FailsAt (c :: rest) 0 e') ↔ ds.mapM (Draft.hear · c) = .error e := by
    rw [mapM_eq_error_iff]
    simp only [Draft.failsAt_zero]
    refine exists_first_congr (R := Eq) (by simp) (fun d _ h => by rw [h]) (fun d _ h => ?_)
    subst h
    cases d.hear c <;> simp
  exact ⟨fun h => hfirst.1 h.first, fun h => ⟨fun _ _ _ _ _ => Nat.zero_le _, hfirst.2 h⟩⟩

theorem firstFault_succ_iff {ds : List Draft} {c : Command} {rest : List Command} {i : Nat}
    {e : StructuralError} : FirstFault (fun d => d.FailsAt (c :: rest)) ds (i + 1) e ↔
      ∃ ds', ds.mapM (Draft.hear · c) = .ok ds' ∧ FirstFault (fun d => d.FailsAt rest) ds' i e := by
  -- once all drafts have taken the command, their faults are those of the next drafts, one later
  have hshift : ∀ ds', ds.mapM (Draft.hear · c) = .ok ds' →
      (FirstFault (fun d => d.FailsAt (c :: rest)) ds (i + 1) e ↔
        FirstFault (fun d => d.FailsAt rest) ds' i e) := by
    intro ds' hds
    refine firstFault_shift (mapM_eq_ok_iff.1 hds) (fun d d' h j e' => ?_) fun d d' h j hj e' => ?_
    · simp only [Draft.failsAt_succ, h, Except.ok.injEq, exists_eq_left']
    · obtain rfl : j = 0 := by omega
      simp [Draft.failsAt_zero, h]
  constructor
  · intro h
    have hall : ∀ d ∈ ds, ∃ d', d.hear c = .ok d' := by
      intro d hd
      cases hh : d.hear c with
      | ok d' => exact ⟨d', rfl⟩
      | error e' =>
        have hle := h.least d hd 0 e' (Draft.failsAt_zero.2 hh)
        omega
    obtain ⟨ds', hds⟩ := mapM_isOk_iff.2 hall
    exact ⟨ds', hds, (hshift ds' hds).1 h⟩
  · rintro ⟨ds', hds, h⟩
    exact (hshift ds' hds).2 h

theorem draftAll_eq_error_iff {ds : List Draft} {cs : List Command} {e : StructuralError} :
    (draftAll ds cs).result = .error e ↔ ∃ i, FirstFault (fun d => d.FailsAt cs) ds i e := by
  induction cs generalizing ds with
  | nil =>
    refine iff_of_false (by simp [draftAll]) ?_
    rintro ⟨i, h⟩
    obtain ⟨_, _, _, -, hd, -⟩ := h.first
    exact Draft.failsAt_nil hd
  | cons c rest ih =>
    rw [result_draftAll_cons, bind_eq_error_iff]
    constructor
    · rintro (h | ⟨ds', h, hrest⟩)
      · exact ⟨0, firstFault_zero_iff.2 h⟩
      · obtain ⟨i, hi⟩ := ih.1 hrest
        exact ⟨i + 1, firstFault_succ_iff.2 ⟨ds', h, hi⟩⟩
    · rintro ⟨i, hi⟩
      cases i with
      | zero => exact .inl (firstFault_zero_iff.1 hi)
      | succ i =>
        obtain ⟨ds', h, hi⟩ := firstFault_succ_iff.1 hi
        exact .inr ⟨ds', h, ih.2 ⟨i, hi⟩⟩

/-! ## The documents of a stream -/

theorem result_finishAll (ds : List Draft) :
    (finishAll ds).result = ds.mapM fun d => d.finish.map Prod.fst := by
  induction ds with
  | nil => rfl
  | cons d rest ih =>
    rw [finishAll, List.mapM_cons]
    cases d.finish <;> simp only [Logged.result_bind, ih, Logged.result_pure] <;> rfl

/-- A draft of an API and the API by itself come to the same end. -/
theorem solo_of_follow {api : String} {cs : List Command} {d : Draft}
    (h : (Draft.start api).follow cs = .ok d) : solo api cs = d.finish.map Prod.fst := by
  have hrun : (Draft.start api).applyAll (commandsFor api cs) = .ok d := h
  unfold solo ApiModel.ofCommands
  rw [hrun]

theorem follow_of_solo {api : String} {cs : List Command} {m : ApiModel}
    (h : solo api cs = .ok m) : ∃ d, (Draft.start api).follow cs = .ok d := by
  obtain ⟨d, hd, -⟩ := ofCommands_eq_ok_iff.1 h
  exact ⟨d, hd⟩

theorem drafts_eq_ok_iff {apis : List String} {cs : List Command} {ds : List Draft} :
    (draftAll (apis.map Draft.start) cs).result = .ok ds ↔
      List.Forall₂ (fun api d => (Draft.start api).follow cs = .ok d) apis ds := by
  rw [draftAll_eq_ok_iff, List.forall₂_map_left_iff]

theorem result_interpret (cs : List Command) : (interpret cs).result =
    (draftAll ((apisOf cs).map Draft.start) cs).result >>= fun ds => (finishAll ds).result := by
  unfold interpret
  rw [Logged.result_bind]

/-- A stream gives documents exactly if each API by itself has one, and then it gives those. -/
theorem interpret_eq_ok_iff {cs : List Command} {ms : List ApiModel} :
    (interpret cs).result = .ok ms ↔
      List.Forall₂ (fun api m => solo api cs = .ok m) (apisOf cs) ms := by
  rw [result_interpret, bind_eq_ok_iff]
  simp only [drafts_eq_ok_iff, result_finishAll, mapM_eq_ok_iff, forall₂_comp]
  -- following the stream and finishing what came of it is what an API does by itself
  have hsolo : ∀ api m, (∃ d, (Draft.start api).follow cs = .ok d ∧
      d.finish.map Prod.fst = .ok m) ↔ solo api cs = .ok m := by
    intro api m
    constructor
    · rintro ⟨d, hd, hm⟩
      rw [solo_of_follow hd, hm]
    · intro h
      obtain ⟨d, hd⟩ := follow_of_solo h
      exact ⟨d, hd, by rw [← solo_of_follow hd, h]⟩
  simp only [hsolo]

/-- The faults of an API are those of the draft that nothing has been said about. -/
theorem firstFault_start_iff {apis : List String} {cs : List Command} {i : Nat}
    {e : StructuralError} : FirstFault (fun d => d.FailsAt cs) (apis.map Draft.start) i e ↔
      FirstFault (fun api => FailsAt api cs) apis i e := by
  refine firstFault_shift (k := 0) (R := fun d api => d = Draft.start api)
    ?_ (fun d api h j e' => by rw [h]; rfl) fun _ _ _ j hj => absurd hj (Nat.not_lt_zero j)
  rw [List.forall₂_map_left_iff]
  exact List.forall₂_same.2 fun _ _ => rfl

/-- A fault of the drafts side by side is the first of the faults of the APIs by themselves. -/
theorem drafts_eq_error_iff {cs : List Command} {e : StructuralError} :
    (draftAll ((apisOf cs).map Draft.start) cs).result = .error e ↔
      ∃ i, FirstFault (fun api => FailsAt api cs) (apisOf cs) i e := by
  simp only [draftAll_eq_error_iff, firstFault_start_iff]

/-- If no command is at fault, a stream fails at the first API that fails to finish. -/
theorem finish_eq_error_iff {cs : List Command} {ds : List Draft} {e : StructuralError}
    (h : List.Forall₂ (fun api d => (Draft.start api).follow cs = .ok d) (apisOf cs) ds) :
    (finishAll ds).result = .error e ↔
      ∃ before api after, apisOf cs = before ++ api :: after ∧ solo api cs = .error e ∧
        ∀ b ∈ before, ∃ m, solo b cs = .ok m := by
  rw [result_finishAll, mapM_eq_error_iff]
  exact (exists_first_congr h (fun api d hd => by rw [solo_of_follow hd])
    fun api d hd => by rw [solo_of_follow hd]).symm

theorem interpret_eq_error_iff {cs : List Command} {e : StructuralError} :
    (interpret cs).result = .error e ↔
      (∃ i, FirstFault (fun api => FailsAt api cs) (apisOf cs) i e) ∨
      (∀ api ∈ apisOf cs, ∀ i e', ¬ FailsAt api cs i e') ∧
        ∃ before api after, apisOf cs = before ++ api :: after ∧ solo api cs = .error e ∧
          ∀ b ∈ before, ∃ m, solo b cs = .ok m := by
  rw [result_interpret, bind_eq_error_iff, drafts_eq_error_iff]
  refine or_congr Iff.rfl ?_
  simp only [drafts_eq_ok_iff]
  constructor
  · rintro ⟨ds, hds, he⟩
    refine ⟨?_, (finish_eq_error_iff hds).1 he⟩
    intro api hapi
    have hall := mapM_isOk_iff.1 ⟨ds, mapM_eq_ok_iff.2 hds⟩
    exact Draft.follow_isOk_iff.1 (hall api hapi)
  · rintro ⟨hnone, hfirst⟩
    obtain ⟨ds, hds⟩ := mapM_isOk_iff.2 fun api hapi => Draft.follow_isOk_iff.2 (hnone api hapi)
    exact ⟨ds, mapM_eq_ok_iff.1 hds, (finish_eq_error_iff (mapM_eq_ok_iff.1 hds)).2 hfirst⟩

/-- A failure is that of one of the APIs by itself. -/
theorem exists_solo_of_interpret_eq_error {cs : List Command} {e : StructuralError}
    (h : (interpret cs).result = .error e) : ∃ api ∈ apisOf cs, solo api cs = .error e := by
  rcases interpret_eq_error_iff.1 h with ⟨i, hfault⟩ | ⟨-, before, api, after, hapis, hsolo, -⟩
  · obtain ⟨before, api, after, hapis, hfails, -⟩ := hfault.first
    have hfollow : (Draft.start api).follow cs = .error e :=
      Draft.follow_eq_error_iff.2 ⟨i, hfails⟩
    have hrun : (Draft.start api).applyAll (commandsFor api cs) = .error e := hfollow
    refine ⟨api, by simp [hapis], ?_⟩
    unfold solo ApiModel.ofCommands
    rw [hrun]
  · exact ⟨api, by simp [hapis], hsolo⟩

/-! ## The APIs of a stream -/

theorem apisOf_ne_nil (cs : List Command) : apisOf cs ≠ [] := by
  unfold apisOf
  dsimp only
  split
  · simp
  · rename_i h
    simpa using h

theorem nodup_apisOf (cs : List Command) : (apisOf cs).Nodup := by
  unfold apisOf
  dsimp only
  split
  · exact List.pairwise_singleton _ _
  · exact nodup_firstOccurrences _

theorem targets_subset_apisOf (cs : List Command) : cs.filterMap Command.target ⊆ apisOf cs := by
  intro api h
  unfold apisOf
  dsimp only
  split
  · rename_i hnil
    rw [List.isEmpty_iff, firstOccurrences_eq_nil_iff] at hnil
    rw [hnil] at h
    cases h
  · exact mem_firstOccurrences.2 h

/-- Interpreting a stream is interpreting it for each of its APIs by itself. The APIs are at least
one, each listed once, and all that commands address. The documents are those of the APIs in
order; a failure is the first of their faults or, if no command is at fault, that of the first API
that cannot be finished. -/
theorem interpret_isolated (cs : List Command) :
    apisOf cs ≠ [] ∧ (apisOf cs).Nodup ∧ cs.filterMap Command.target ⊆ apisOf cs ∧
    ((∃ ms, (interpret cs).result = .ok ms) ↔ ∀ api ∈ apisOf cs, ∃ m, solo api cs = .ok m) ∧
    (∀ ms, (interpret cs).result = .ok ms ↔
      List.Forall₂ (fun api m => solo api cs = .ok m) (apisOf cs) ms) ∧
    (∀ e, (interpret cs).result = .error e ↔
      (∃ i, FirstFault (fun api => FailsAt api cs) (apisOf cs) i e) ∨
      (∀ api ∈ apisOf cs, ∀ i e', ¬ FailsAt api cs i e') ∧
        ∃ before api after, apisOf cs = before ++ api :: after ∧ solo api cs = .error e ∧
          ∀ b ∈ before, ∃ m, solo b cs = .ok m) := by
  refine ⟨apisOf_ne_nil cs, nodup_apisOf cs, targets_subset_apisOf cs, ?_,
    fun ms => interpret_eq_ok_iff, fun e => interpret_eq_error_iff⟩
  simp only [interpret_eq_ok_iff, ← mapM_eq_ok_iff, mapM_isOk_iff]

/-- Of two APIs that never close a handler, the one that is mentioned first is reported. -/
example : (interpret
    [⟨.beginHandler, ["list"], some "b", none⟩, ⟨.beginHandler, ["make"], some "a", none⟩]).result =
      .error ⟨"b", none, .unclosedHandler "list"⟩ := by rfl

end ApiNotes
