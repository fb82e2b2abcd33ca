/-
Independent annotations commute. Two neighbouring clauses of an accepted sequence that are about
different subjects may change places: the sequence is accepted still, its model differs at most in
the order of the names that it refers to, and resolving the model comes to the same end.

That a sequence of clauses is accepted depends on each clause by itself, and on the order of the
commands about servers alone.
-/
import ApiNotes.Proofs.Api.Subjects
import ApiNotes.Proofs.Resolution.Order

namespace ApiNotes

/-! ## Accepted clauses -/

theorem nested_fields_inv {id : String} {fields rest : List Command} {closing : Command}
    (hf : ∀ f ∈ fields, f.kind.isHandlerField = true) (hclosing : closing.kind = .endHandler)
    (h : Nested (some id) (fields ++ closing :: rest)) :
    (closing.args = [] ∨ closing.args = [id]) ∧ Nested none rest := by
  induction fields with
  | nil =>
    cases h with
    | field hfield => rw [hclosing] at hfield; cases hfield
    | closing _ hargs hrest => exact ⟨hargs, hrest⟩
  | cons f fields ih =>
    obtain ⟨hfield, hfields⟩ := List.forall_mem_cons.1 hf
    cases h with
    | field _ hrest => exact ih hfields hrest
    | closing hend => rw [hend] at hfield; cases hfield

/-- In nested commands each clause closes itself. -/
theorem Nested.closesItself {ks : List Clause} (hform : ∀ k ∈ ks, k.IsFormed)
    (h : Nested none (ks.flatMap Clause.commands)) : ∀ k ∈ ks, k.ClosesItself := by
  induction ks with
  | nil => simp
  | cons k rest ih =>
    obtain ⟨hk, hrest⟩ := List.forall_mem_cons.1 hform
    rw [List.flatMap_cons] at h
    cases k with
    | single c =>
      cases h with
      | single _ hnested => exact List.forall_mem_cons.2 ⟨trivial, ih hrest hnested⟩
      | opening hbegin => rw [Clause.IsFormed, hbegin] at hk; cases hk
    | handler opening fields closing =>
      obtain ⟨ho, hf, hcl⟩ := hk
      rw [Clause.commands, List.cons_append, List.cons_append, List.append_assoc,
        List.singleton_append] at h
      cases h with
      | single htop => rw [ho] at htop; cases htop
      | opening _ hid hnested =>
        obtain ⟨hargs, hnested⟩ := nested_fields_inv hf hcl hnested
        refine List.forall_mem_cons.2 ⟨fun id hargs' => ?_, ih hrest hnested⟩
        rcases hargs with hargs | hargs
        · rw [hargs] at hargs'; cases hargs'
        · rw [hid, ← hargs, hargs']

/-- Where variables stand among the servers is told by the commands about servers. -/
theorem urlsFirst_filter {served : Prop} {cs : List Command} :
    UrlsFirst served (cs.filter Command.isAboutServers) ↔ UrlsFirst served cs := by
  induction cs generalizing served with
  | nil => rfl
  | cons c rest ih =>
    rw [List.filter_cons, urlsFirst_cons]
    by_cases hc : c.isAboutServers = true
    · rw [if_pos hc, urlsFirst_cons, ih]
    · -- the command is neither a variable nor a `url`
      simp only [Command.isAboutServers, decide_eq_true_eq, not_or] at hc
      rw [if_neg (by simpa [Command.isAboutServers] using hc), ih]
      simp [hc]

theorem Clause.isKnown_of_isFormed {k : Clause} (hk : k.IsFormed) :
    ∀ c ∈ k.commands, c.kind.isKnown = true := by
  have htop : ∀ c : Command, c.kind.isTopLevel = true → c.kind.isKnown = true := by
    intro c hc
    cases hkind : c.kind <;> rw [hkind] at hc <;> first | rfl | cases hc
  have hfield : ∀ c : Command, c.kind.isHandlerField = true → c.kind.isKnown = true := by
    intro c hc
    cases hkind : c.kind <;> rw [hkind] at hc <;> first | rfl | cases hc
  cases k with
  | single c => simpa [commands] using htop c hk
  | handler opening fields closing =>
    obtain ⟨ho, hf, hcl⟩ := hk
    simp only [commands, List.cons_append, List.forall_mem_cons, List.forall_mem_append,
      List.not_mem_nil, false_implies, implies_true, and_true]
    exact ⟨by rw [ho]; rfl, fun f hm => hfield f (hf f hm), by rw [hcl]; rfl⟩

/-- Clauses are accepted exactly if each closes itself, their commands are legal, and every variable
has a server before it. -/
theorem ofCommands_isOk_clauses {api : String} {ks : List Clause} (hform : ∀ k ∈ ks, k.IsFormed) :
    (∃ m, ApiModel.ofCommands api (ks.flatMap Clause.commands) = .ok m) ↔
      (∀ k ∈ ks, k.ClosesItself) ∧
      (∀ c ∈ ks.flatMap Clause.commands, c.HasLegalArity ∧ c.NamesItsType) ∧
      UrlsFirst ((Draft.start api).model.document.servers ≠ []) (ks.flatMap Clause.commands) := by
  have hknown : ∀ c ∈ ks.flatMap Clause.commands, c.kind.isKnown = true := by
    intro c hc
    obtain ⟨k, hk, hck⟩ := List.mem_flatMap.1 hc
    exact Clause.isKnown_of_isFormed (hform k hk) c hck
  have hrun : (∃ m, ApiModel.ofCommands api (ks.flatMap Clause.commands) = .ok m) ↔
      ∃ d, (Draft.start api).applyAll (ks.flatMap Clause.commands) = .ok d ∧ d.current = none := by
    simp only [ofCommands_eq_ok_iff, ← Draft.finish_isOk_iff]
    exact ⟨fun ⟨m, d, hd, w, hf⟩ => ⟨d, hd, m, w, hf⟩, fun ⟨d, hd, m, w, hf⟩ => ⟨m, d, hd, w, hf⟩⟩
  rw [hrun, Draft.applyAll_isOk_iff _ _ hknown]
  refine and_congr_left fun ⟨hlegal, _⟩ => ⟨fun hn => hn.closesItself hform, fun hclose => ?_⟩
  exact nested_flatMap (fun k hk => ⟨hform k hk, hclose k hk⟩) fun c hc => (hlegal c hc).1

theorem Reorders.isOk {ks ks' : List Clause} (h : Reorders ks ks')
    (hform : ∀ k ∈ ks, k.IsFormed) {api : String}
    (hok : ∃ m, ApiModel.ofCommands api (ks.flatMap Clause.commands) = .ok m) :
    ∃ m', ApiModel.ofCommands api (ks'.flatMap Clause.commands) = .ok m' := by
  obtain ⟨hclose, hlegal, hurls⟩ := (ofCommands_isOk_clauses hform).1 hok
  refine (ofCommands_isOk_clauses (h.isFormed hform)).2 ⟨fun k hk => ?_, fun c hc => ?_, ?_⟩
  · exact hclose k (h.perm.mem_iff.2 hk)
  · exact hlegal c (h.commands_perm.mem_iff.2 hc)
  · rw [← urlsFirst_filter, ← h.servers hform, urlsFirst_filter]
    exact hurls

/-- Reordered clauses are accepted with the same model, up to the order of the names that it refers
to. -/
theorem Reorders.ofCommands {ks ks' : List Clause} (h : Reorders ks ks')
    (hform : ∀ k ∈ ks, k.IsFormed) {api : String} {m : ApiModel}
    (hm : ApiModel.ofCommands api (ks.flatMap Clause.commands) = .ok m) :
    ∃ m', ApiModel.ofCommands api (ks'.flatMap Clause.commands) = .ok m' ∧
      m' = { m with referenced := m'.referenced } ∧ m.referenced.Perm m'.referenced := by
  obtain ⟨m', hm'⟩ := h.isOk hform ⟨m, hm⟩
  refine ⟨m', hm', ?_⟩
  obtain rfl := ofCommands_eq_told hm
  obtain rfl := ofCommands_eq_told hm'
  exact ⟨h.told hform api, h.referenced api⟩

/-- Two neighbouring clauses of an accepted sequence that are about different subjects may change
places: the sequence is accepted, its model differs at most in the order of the names that it refers
to, and with every table and cap the two models are given the same document and come to the same
outcome. -/
theorem ofCommands_exchange (api : String) (before after : List Clause) (k₁ k₂ : Clause)
    (m : ApiModel) (hform : ∀ k ∈ before ++ k₁ :: k₂ :: after, k.IsFormed)
    (hsubject : k₁.subject ≠ k₂.subject)
    (h : ApiModel.ofCommands api ((before ++ k₁ :: k₂ :: after).flatMap Clause.commands) = .ok m) :
    ∃ m', ApiModel.ofCommands api ((before ++ k₂ :: k₁ :: after).flatMap Clause.commands) = .ok m' ∧
      m' = { m with referenced := m'.referenced } ∧ m.referenced.Perm m'.referenced ∧
      ∀ table cap, (m.resolve table cap).1.document = (m'.resolve table cap).1.document ∧
        Resolution.SameOutcome (m.resolve table cap).2.result (m'.resolve table cap).2.result := by
  obtain ⟨m', hm', hsame, hperm⟩ := (Reorders.swap before after hsubject).ofCommands hform h
  have hnames : Resolution.SameNames m m' := ⟨by rw [hsame], by rw [hsame], hperm⟩
  exact ⟨m', hm', hsame, hperm, fun table cap =>
    ⟨hnames.document_resolve table cap, hnames.outcome table cap⟩⟩

/-- A handler that answers with a shared response. -/
def listPets : Clause :=
  .handler ⟨.beginHandler, ["listPets"], none, none⟩
    [⟨.method, ["GET"], none, none⟩,
     ⟨.response, ["200", "{[]Pet}", "All", "pets"], none, none⟩,
     ⟨.response, ["404"], none, none⟩]
    ⟨.endHandler, [], none, none⟩

/-- The response that `listPets` waits for. -/
def notFound : Clause :=
  .single ⟨.code, ["404", "{Problem}", "Not", "found"], none, none⟩

/-- The route to `listPets`. -/
def petsRoute : Clause :=
  .single ⟨.route, ["/pets", "listPets"], none, none⟩

/-- The handler and the response change places, and with them the types that they mention. -/
theorem ofCommands_exchange_notFound : ∃ m m',
    ApiModel.ofCommands "" ([petsRoute, listPets, notFound].flatMap Clause.commands) = .ok m ∧
    ApiModel.ofCommands "" ([petsRoute, notFound, listPets].flatMap Clause.commands) = .ok m' ∧
    m.referenced = ["Pet", "Problem"] ∧ m'.referenced = ["Problem", "Pet"] ∧
    ∀ table cap, (m.resolve table cap).1.document = (m'.resolve table cap).1.document ∧
      Resolution.SameOutcome (m.resolve table cap).2.result (m'.resolve table cap).2.result := by
  obtain ⟨m, hm, hreferenced⟩ : ∃ m,
      ApiModel.ofCommands "" ([petsRoute, listPets, notFound].flatMap Clause.commands) = .ok m ∧
      m.referenced = ["Pet", "Problem"] := ⟨_, by rfl, by rfl⟩
  have hform : ∀ k ∈ [petsRoute] ++ listPets :: notFound :: [], k.IsFormed := by
    simp [petsRoute, listPets, notFound, Clause.IsFormed, Kind.isTopLevel, Kind.isHandlerField]
  obtain ⟨m', hm', -, -, hsame⟩ :=
    ofCommands_exchange "" [petsRoute] [] listPets notFound m hform (by decide) hm
  have hswapped : (ApiModel.ofCommands ""
      ([petsRoute, notFound, listPets].flatMap Clause.commands)).map ApiModel.referenced =
        .ok ["Problem", "Pet"] := by rfl
  have hm'' : ApiModel.ofCommands ""
      ([petsRoute, notFound, listPets].flatMap Clause.commands) = .ok m' := hm'
  rw [hm''] at hswapped
  exact ⟨m, m', hm, hm'', hreferenced, Except.ok.inj hswapped, hsame⟩

end ApiNotes
