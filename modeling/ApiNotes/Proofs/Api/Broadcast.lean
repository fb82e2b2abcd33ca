/-
Commands for all APIs. A command that names no API does to every draft what a copy of it does that
names the API of the draft, and with its copies in the place of such a command a stream has the same
APIs in the same order. So the copies, one for each API in order, give the same documents, the same
failure and the same reports.

The copies are delivered one after the other where the command is delivered to all drafts at once;
the induction is on the drafts that still wait for their copy.
-/
import ApiNotes.Proofs.Api.Faults
import ApiNotes.Proofs.Api.Known

namespace ApiNotes

/-- A known command that is meant for all APIs: it names none, neither in front nor, as a `url` with
two arguments does, in the first of them. -/
structure Command.IsBroadcast (c : Command) : Prop where
  api : c.api = none
  known : c.kind.isKnown = true
  url : ¬ (c.kind = .url ∧ c.args.length = 2)

/-- The command, meant for one API. -/
def Command.addressedTo (c : Command) (api : String) : Command :=
  { c with api := some api }

section Copies

variable {c : Command} {d : Draft} {ds done todo : List Draft} {rest : List Command}

/-! ## A copy and its command -/

theorem Command.IsBroadcast.target (h : c.IsBroadcast) : c.target = none := by
  unfold Command.target
  split
  · rename_i hapi
    rw [h.api] at hapi
    cases hapi
  · rename_i hk ha
    exact absurd ⟨hk, by rw [ha]; rfl⟩ h.url
  · rfl

theorem describe_addressedTo (h : c.IsBroadcast) (api : String) :
    d.describe (c.addressedTo api) = d.describe c := by
  -- only `url` asks whether an API is named, and that only with two arguments
  obtain ⟨kind, args, _, location⟩ := c
  unfold Draft.describe
  dsimp only [Command.addressedTo]
  split
  case h_6 => exact absurd ⟨rfl, rfl⟩ h.url
  all_goals rfl

/-- A draft takes a copy of a command as it takes the command. -/
theorem step_addressedTo (h : c.IsBroadcast) (api : String) :
    d.step (c.addressedTo api) = d.step c := by
  unfold Draft.step
  rw [describe_addressedTo h]
  rfl

theorem receive_addressedTo (h : c.IsBroadcast) :
    d.receive (c.addressedTo d.model.name) = d.receive c := by
  have hcopy : (c.addressedTo d.model.name).addresses d.model.name = true := by
    simp [Command.addresses, Command.target, Command.addressedTo]
  have hall : c.addresses d.model.name = true := by
    simp [Command.addresses, h.target]
  unfold Draft.receive Draft.apply
  rw [if_pos hcopy, if_pos hall, step_addressedTo h]
  rfl

theorem receive_of_name_ne {api : String} (h : d.model.name ≠ api) :
    d.receive (c.addressedTo api) = pure d := by
  unfold Draft.receive
  rw [if_neg]
  simp [Command.addresses, Command.target, Command.addressedTo, Ne.symm h]

/-! ## Delivering the copies -/

theorem receiveAll_of_names_ne {api : String} (h : ∀ d ∈ ds, d.model.name ≠ api) :
    receiveAll (c.addressedTo api) ds = pure ds := by
  induction ds with
  | nil => rfl
  | cons d ds ih =>
    obtain ⟨hd, hds⟩ := List.forall_mem_cons.1 h
    rw [receiveAll, receive_of_name_ne hd, ih hds]
    rfl

/-- A copy reaches the one draft it is meant for. -/
theorem receiveAll_addressedTo (h : c.IsBroadcast)
    (hnames : ((done ++ d :: todo).map (·.model.name)).Nodup) :
    receiveAll (c.addressedTo d.model.name) (done ++ d :: todo) =
      d.receive c >>= fun d' => pure (done ++ d' :: todo) := by
  rw [List.map_append, List.map_cons, List.nodup_append] at hnames
  obtain ⟨-, htodo, hdone⟩ := hnames
  induction done with
  | nil =>
    have hne : ∀ d' ∈ todo, d'.model.name ≠ d.model.name := fun d' hd' heq =>
      (List.nodup_cons.1 htodo).1 (heq ▸ List.mem_map_of_mem hd')
    rw [List.nil_append, receiveAll, receive_addressedTo h, receiveAll_of_names_ne hne]
    simp only [pure_bind, List.nil_append]
  | cons a done ih =>
    have hne : a.model.name ≠ d.model.name :=
      hdone _ (List.mem_cons_self ..) _ (List.mem_cons_self ..)
    rw [List.cons_append, receiveAll, receive_of_name_ne hne,
      ih fun x hx => hdone x (List.mem_cons_of_mem _ hx)]
    simp only [pure_bind, bind_assoc, List.cons_append]

theorem receive_name {d' : Draft} (hk : c.kind.isKnown = true)
    (h : (d.receive c).result = .ok d') : d'.model.name = d.model.name :=
  Draft.hear_name ((result_receive hk).symm.trans h)

theorem draftAll_cons_of_known (hk : c.kind.isKnown = true) (ds : List Draft)
    (rest : List Command) :
    draftAll ds (c :: rest) = receiveAll c ds >>= fun ds' => draftAll ds' rest := by
  rw [draftAll]
  split
  · rename_i hc
    rw [hc] at hk
    cases hk
  · rfl

/-- Drafts of different APIs that take the copies of a command one after the other take the
command. -/
theorem draftAll_copies (h : c.IsBroadcast)
    (hnames : ((done ++ todo).map (·.model.name)).Nodup) :
    draftAll (done ++ todo) ((todo.map (·.model.name)).map c.addressedTo ++ rest) =
      receiveAll c todo >>= fun todo' => draftAll (done ++ todo') rest := by
  induction todo generalizing done with
  | nil => rfl
  | cons d todo ih =>
    have hcopy : (c.addressedTo d.model.name).kind.isKnown = true := h.known
    have hrest : ∀ d', (d.receive c).result = .ok d' →
        draftAll (done ++ d' :: todo) ((todo.map (·.model.name)).map c.addressedTo ++ rest) =
          receiveAll c todo >>= fun todo' => draftAll (done ++ d' :: todo') rest := by
      intro d' hd'
      have hsame : ((done ++ [d'] ++ todo).map (·.model.name)).Nodup := by
        simpa [receive_name h.known hd'] using hnames
      simpa only [List.append_assoc, List.singleton_append] using ih hsame
    rw [List.map_cons, List.map_cons, List.cons_append, draftAll_cons_of_known hcopy,
      receiveAll_addressedTo h hnames, receiveAll]
    simp only [bind_assoc, pure_bind]
    exact Logged.bind_congr_of_result hrest

/-! ## Streams in two parts -/

theorem draftAll_append (ds : List Draft) (before after : List Command) :
    draftAll ds (before ++ after) = draftAll ds before >>= fun ds' => draftAll ds' after := by
  induction before generalizing ds with
  | nil => rfl
  | cons c rest ih =>
    rw [List.cons_append, draftAll, draftAll]
    split <;> simp only [ih, bind_assoc]

theorem names_of_draftAll {ds' : List Draft} {cs : List Command}
    (h : (draftAll ds cs).result = .ok ds') :
    ds'.map (·.model.name) = ds.map (·.model.name) := by
  have hall := draftAll_eq_ok_iff.1 h
  clear h
  induction hall with
  | nil => rfl
  | cons hd _ ih => rw [List.map_cons, List.map_cons, ih, applyAll_name hd]

end Copies

/-! ## The APIs of a stream with copies -/

theorem targets_copies (c : Command) (apis : List String) :
    (apis.map c.addressedTo).filterMap Command.target = apis := by
  rw [List.filterMap_map]
  exact List.filterMap_some

theorem targets_append (before middle after : List Command) :
    (before ++ middle ++ after).filterMap Command.target =
      before.filterMap Command.target ++ middle.filterMap Command.target ++
        after.filterMap Command.target := by
  rw [List.filterMap_append, List.filterMap_append]

/-- The copies mention every API, but none before its turn. -/
theorem apisOf_copies {before after : List Command} {c : Command} (ht : c.target = none) :
    apisOf (before ++ (apisOf (before ++ c :: after)).map c.addressedTo ++ after) =
      apisOf (before ++ c :: after) := by
  have hcs : (before ++ c :: after).filterMap Command.target =
      before.filterMap Command.target ++ after.filterMap Command.target := by simp [ht]
  by_cases hnone : (before ++ c :: after).filterMap Command.target = []
  · -- the API without a name is now called by its name
    have hapis : apisOf (before ++ c :: after) = [""] := by rw [apisOf, hnone]; rfl
    obtain ⟨hbefore, hafter⟩ := List.append_eq_nil_iff.1 (hcs.symm.trans hnone)
    rw [hapis, apisOf, targets_append, targets_copies, hbefore, hafter]
    rfl
  · have hapis := apisOf_of_targets hnone
    rw [hcs] at hapis
    have htargets : (before ++ (apisOf (before ++ c :: after)).map c.addressedTo ++ after).filterMap
        Command.target ≠ [] := by
      rw [targets_append, targets_copies]
      simp [apisOf_ne_nil]
    rw [apisOf_of_targets htargets, targets_append, targets_copies, hapis, firstOccurrences_insert]

/-! ## Streams with copies -/

/-- A command for all APIs is the same as a copy for each of them in order: the stream with the
copies has the same APIs, and it has the same documents or fails alike, with the same reports. -/
theorem interpret_broadcast (before after : List Command) (c : Command) (h : c.IsBroadcast) :
    let cs := before ++ c :: after
    let copies := (apisOf cs).map fun api => { c with api := some api }
    apisOf (before ++ copies ++ after) = apisOf cs ∧
      interpret (before ++ copies ++ after) = interpret cs := by
  intro cs copies
  have hapis : apisOf (before ++ copies ++ after) = apisOf cs :=
    apisOf_copies h.target
  refine ⟨hapis, ?_⟩
  suffices draftAll ((apisOf cs).map Draft.start) (before ++ copies ++ after) =
      draftAll ((apisOf cs).map Draft.start) cs by
    rw [interpret, interpret, hapis, this]
  rw [List.append_assoc, draftAll_append, draftAll_append]
  refine Logged.bind_congr_of_result fun drafts hdrafts => ?_
  -- the drafts still bear the names of the APIs, so each copy has its draft
  have hnames : drafts.map (·.model.name) = apisOf cs := by
    rw [names_of_draftAll hdrafts, List.map_map]
    exact List.map_id _
  have hnodup : ((([] : List Draft) ++ drafts).map (·.model.name)).Nodup := by
    rw [List.nil_append, hnames]
    exact nodup_apisOf cs
  have hcopies : copies = (drafts.map (·.model.name)).map c.addressedTo := by
    rw [hnames]
    rfl
  rw [draftAll_cons_of_known h.known, hcopies]
  exact draftAll_copies h hnodup

/-- A summary for all APIs, while one of them has an open handler and the other has none: with a
copy for each of them the stream fails at the same place, in the API without a handler. -/
theorem interpret_broadcast_summary :
    let opened : Command := ⟨.beginHandler, ["list"], some "b", none⟩
    let summary : Command := ⟨.summary, ["All"], none, some ⟨"api.rs", 2⟩⟩
    let title : Command := ⟨.title, ["A"], some "a", none⟩
    summary.IsBroadcast ∧ apisOf [opened, summary, title] = ["b", "a"] ∧
    (interpret [opened, { summary with api := some "b" }, { summary with api := some "a" },
      title]).result = .error ⟨"a", some ⟨"api.rs", 2⟩, .noOpenHandler .summary⟩ := by
  intro opened summary title
  have h : summary.IsBroadcast := ⟨rfl, rfl, by decide⟩
  have hrun : (interpret [opened, summary, title]).result =
      .error ⟨"a", some ⟨"api.rs", 2⟩, .noOpenHandler .summary⟩ := by rfl
  have hcopies := (interpret_broadcast [opened] [title] summary h).2
  exact ⟨h, rfl, (congrArg Logged.result hcopies).trans hrun⟩

end ApiNotes
