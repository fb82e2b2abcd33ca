/-
What the clauses of an API are about: its title, its servers, the response of a status code, the
routes of a path, a handler, and so on. Each part of the model is told by the clauses about one
subject, so clauses about different subjects may stand in any order relative to each other; only the
order in which types are mentioned shows it.
-/
import ApiNotes.Proofs.Api.Content
import ApiNotes.Proofs.Api.Routes

namespace ApiNotes

/-- What a clause is about. -/
inductive Subject where
  | title
  | description
  | version
  | filename
  | servers
  /-- The response that is shared under a status code. -/
  | response (code : String)
  /-- The routes of a path. -/
  | routes (path : String)
  | handler (id : String)
deriving DecidableEq, Repr

/-- What a command outside of handlers, or one that opens a handler, is about. -/
def Command.subject (c : Command) : Subject :=
  match c.kind with
  | .title => .title
  | .description => .description
  | .version => .version
  | .filename => .filename
  | .url | .urlVariable => .servers
  | .code => .response (c.args.headD "")
  | .route => .routes (c.args.headD "")
  | _ => .handler (c.args.headD "")

namespace Clause

/-- What a clause is about; a handler is known by the id of its `begin`. -/
def subject : Clause → Subject
  | single c => c.subject
  | handler opening _ _ => opening.subject

/-- The block of a clause, if it is one. -/
def block? : Clause → Option Block
  | single _ => none
  | handler opening fields _ => some ⟨opening, fields⟩

end Clause

/-- The clauses about a subject, in order. -/
def clausesAbout (s : Subject) (ks : List Clause) : List Clause :=
  ks.filter (·.subject = s)

/-- The same clauses, with those about each subject in the same order. -/
structure Reorders (ks ks' : List Clause) : Prop where
  perm : ks.Perm ks'
  about : ∀ s, clausesAbout s ks = clausesAbout s ks'

/-- Neighbours about different subjects may change places. -/
theorem Reorders.swap (before after : List Clause) {k₁ k₂ : Clause}
    (h : k₁.subject ≠ k₂.subject) :
    Reorders (before ++ k₁ :: k₂ :: after) (before ++ k₂ :: k₁ :: after) := by
  refine ⟨(List.Perm.swap k₂ k₁ after).append_left before, fun s => ?_⟩
  unfold clausesAbout
  simp only [List.filter_append, List.filter_cons]
  by_cases h₁ : k₁.subject = s
  · have h₂ : k₂.subject ≠ s := fun h₂ => h (h₁.trans h₂.symm)
    simp [h₁, h₂]
  · simp [h₁]

/-! ## Commands about a subject -/

section Selection

variable {ks ks' : List Clause} {p : Command → Bool} {s : Subject}

/-- Commands outside of handlers that are about a subject stand in the clauses about it. -/
theorem filter_clausesAbout (hform : ∀ k ∈ ks, k.IsFormed)
    (hp : ∀ c, p c = true → c.kind.isTopLevel = true ∧ c.subject = s) :
    (ks.flatMap Clause.commands).filter p =
      ((clausesAbout s ks).flatMap Clause.commands).filter p := by
  unfold clausesAbout
  induction ks with
  | nil => rfl
  | cons k rest ih =>
    obtain ⟨hk, hrest⟩ := List.forall_mem_cons.1 hform
    rw [List.flatMap_cons, List.filter_append, ih hrest, List.filter_cons]
    by_cases hs : k.subject = s
    · simp [hs]
    · -- no command of the clause is selected
      have hnone : k.commands.filter p = [] := by
        refine List.filter_eq_nil_iff.2 fun c hc hpc => ?_
        obtain ⟨htop, hcs⟩ := hp c hpc
        cases k with
        | single c' =>
          cases List.mem_singleton.1 hc
          exact hs hcs
        | handler opening fields closing =>
          obtain ⟨ho, hf, hcl⟩ := hk
          simp only [Clause.commands, List.cons_append, List.mem_cons, List.mem_append,
            List.not_mem_nil, or_false] at hc
          rcases hc with rfl | hc | rfl
          · rw [ho] at htop; cases htop
          · have hfield := hf c hc
            rw [Kind.isHandlerField_of_topLevel htop] at hfield
            cases hfield
          · rw [hcl] at htop; cases htop
      simp [hs, hnone]

theorem Reorders.filter_commands (h : Reorders ks ks') (hform : ∀ k ∈ ks, k.IsFormed)
    (hp : ∀ c, p c = true → c.kind.isTopLevel = true ∧ c.subject = s) :
    (ks.flatMap Clause.commands).filter p = (ks'.flatMap Clause.commands).filter p := by
  rw [filter_clausesAbout hform hp, h.about s,
    ← filter_clausesAbout (fun k hk => hform k (h.perm.mem_iff.2 hk)) hp]

theorem Reorders.commands_perm (h : Reorders ks ks') :
    (ks.flatMap Clause.commands).Perm (ks'.flatMap Clause.commands) :=
  h.perm.flatMap_right _

end Selection

/-! ## The blocks of clauses -/

theorem closedFrom_fields {b : Block} {fields rest : List Command}
    (hf : ∀ f ∈ fields, f.kind.isHandlerField = true) :
    Block.closedFrom (some b) (fields ++ rest) =
      Block.closedFrom (some { b with fields := b.fields ++ fields }) rest := by
  induction fields generalizing b with
  | nil => simp
  | cons f fields ih =>
    obtain ⟨hfield, hfields⟩ := List.forall_mem_cons.1 hf
    have hend : f.kind ≠ .endHandler := fun he => by rw [he] at hfield; cases hfield
    rw [List.cons_append, Block.closedFrom, Draft.closed?_eq_none hend,
      Draft.next?_of_handlerField hfield, Option.map_some, ih hfields]
    simp [Block.add]

/-- The closed blocks of a sequence of clauses are those of the clauses. -/
theorem blocksOf_flatMap {ks : List Clause} (hform : ∀ k ∈ ks, k.IsFormed) :
    blocksOf (ks.flatMap Clause.commands) = ks.filterMap Clause.block? := by
  unfold blocksOf
  induction ks with
  | nil => rfl
  | cons k rest ih =>
    obtain ⟨hk, hrest⟩ := List.forall_mem_cons.1 hform
    rw [List.flatMap_cons, List.filterMap_cons, ← ih hrest]
    cases k with
    | single c =>
      have hend : c.kind ≠ .endHandler := fun he => by rw [Clause.IsFormed, he] at hk; cases hk
      rw [Clause.commands, List.singleton_append, Block.closedFrom, Draft.closed?_eq_none hend,
        Draft.next?_of_topLevel hk]
      rfl
    | handler opening fields closing =>
      obtain ⟨ho, hf, hcl⟩ := hk
      have hbegin : Block.next? none opening = some ⟨opening, []⟩ := by simp [Block.next?, ho]
      have hopen : Block.closed? none opening = none :=
        Draft.closed?_eq_none (by rw [ho]; exact Kind.noConfusion)
      rw [Clause.commands, List.cons_append, List.cons_append, List.append_assoc,
        Block.closedFrom, hopen, hbegin, closedFrom_fields hf, List.singleton_append,
        Block.closedFrom]
      simp [Block.closed?, Block.next?, hcl, Clause.block?]

/-! ## Parts of the model -/

theorem lastText?_congr {cs cs' : List Command} {kind : Kind}
    (h : cs.filter (·.kind = kind) = cs'.filter (·.kind = kind)) :
    lastText? cs kind = lastText? cs' kind := by
  rw [lastText?, h]
  rfl

/-- Whether a command adds a server or a variable to one. -/
def Command.isAboutServers (c : Command) : Bool :=
  c.kind = .url ∨ c.kind = .urlVariable

theorem foldl_serversAfter (servers : List Server) (cs : List Command) :
    cs.foldl serversAfter servers =
      (cs.filter Command.isAboutServers).foldl serversAfter servers := by
  rw [List.foldl_filter]
  congr
  funext servers c
  unfold serversAfter Command.isAboutServers
  cases c.kind <;> simp

theorem filter_routesOf (cs : List Command) (path : String) :
    (routesOf cs).filter (·.1 = path) =
      (cs.filter fun c => c.kind = .route ∧ c.args.headD "" = path).filterMap Command.route? := by
  unfold routesOf
  rw [List.filter_filterMap, List.filterMap_filter]
  congr
  funext c
  unfold Command.route?
  split
  · rename_i hk ha
    simp [hk, ha, Option.filter]
  · simp

theorem filterMap_routedOperation (handlers : OrderedMap Handler) (routes : List (String × String))
    (path method : String) :
    routes.filterMap (routedOperation handlers path method) =
      (routes.filter (·.1 = path)).filterMap (routedOperation handlers path method) := by
  rw [List.filterMap_filter]
  congr
  funext route
  unfold routedOperation
  by_cases hp : route.1 = path <;> simp [hp]

/-- An item that has an operation stands in all paths with the same operations. -/
theorem get?_of_operationUnder {paths paths' : OrderedMap PathItem} {path : String}
    {item : PathItem} (hne : item.isEmpty = false)
    (h : ∀ method, operationUnder paths path method = operationUnder paths' path method)
    (hitem : paths.get? path = some item) : paths'.get? path = some item := by
  unfold operationUnder at h
  obtain ⟨e, rest, hentries⟩ := List.exists_cons_of_ne_nil
    (List.isEmpty_eq_false_iff.1 hne : item.entries ≠ [])
  have hfirst : item.get? e.1 = some e.2 :=
    (OrderedMap.mem_entries_iff item e.1 e.2).1 (by simp [hentries])
  cases hitem' : paths'.get? path with
  | none =>
    have hnone := h e.1
    rw [hitem, hitem', Option.bind_some, hfirst] at hnone
    cases hnone
  | some item' =>
    refine congrArg some (OrderedMap.ext_get? fun method => ?_)
    simpa [hitem, hitem'] using (h method).symm

/-- Paths without empty items are equal if the same operations stand under them. -/
theorem paths_ext {paths paths' : OrderedMap PathItem}
    (hne : ∀ item ∈ paths.values, item.isEmpty = false)
    (hne' : ∀ item ∈ paths'.values, item.isEmpty = false)
    (h : ∀ path method, operationUnder paths path method = operationUnder paths' path method) :
    paths = paths' := by
  refine OrderedMap.ext_get? fun path => Option.ext fun item => ⟨fun hitem => ?_, fun hitem => ?_⟩
  · exact get?_of_operationUnder (hne item ((OrderedMap.mem_values_iff _ _).2 ⟨path, hitem⟩))
      (h path) hitem
  · exact get?_of_operationUnder (hne' item ((OrderedMap.mem_values_iff _ _).2 ⟨path, hitem⟩))
      (fun method => (h path method).symm) hitem

/-! ## The model of reordered clauses -/

section Told

variable {ks ks' : List Clause}

theorem Reorders.isFormed (h : Reorders ks ks') (hform : ∀ k ∈ ks, k.IsFormed) :
    ∀ k ∈ ks', k.IsFormed :=
  fun k hk => hform k (h.perm.mem_iff.2 hk)

theorem Reorders.handlers (h : Reorders ks ks') (hform : ∀ k ∈ ks, k.IsFormed) :
    addHandlers .empty (blocksOf (ks.flatMap Clause.commands)) =
      addHandlers .empty (blocksOf (ks'.flatMap Clause.commands)) := by
  -- the blocks of an id are those of the clauses about its handler
  have hblocks : ∀ {ks : List Clause}, (∀ k ∈ ks, k.IsFormed) → ∀ id,
      (blocksOf (ks.flatMap Clause.commands)).filter (·.id = id) =
        (clausesAbout (.handler id) ks).filterMap Clause.block? := by
    intro ks hform id
    unfold clausesAbout
    rw [blocksOf_flatMap hform, List.filter_filterMap, List.filterMap_filter]
    refine List.filterMap_congr fun k hk => ?_
    cases k with
    | single c => simp [Clause.block?]
    | handler opening fields closing =>
      have ho : opening.kind = .beginHandler := (hform _ hk).1
      simp [Clause.block?, Clause.subject, Command.subject, ho, Block.id, Option.filter]
  refine OrderedMap.ext_get? fun id => ?_
  rw [get?_addHandlers, get?_addHandlers, hblocks hform, hblocks (h.isFormed hform), h.about]

theorem Reorders.paths (h : Reorders ks ks') (hform : ∀ k ∈ ks, k.IsFormed) (api : String)
    (handlers : OrderedMap Handler) :
    (addRoutes api handlers .empty (routesOf (ks.flatMap Clause.commands))).1 =
      (addRoutes api handlers .empty (routesOf (ks'.flatMap Clause.commands))).1 := by
  have hroutes : ∀ path, (routesOf (ks.flatMap Clause.commands)).filter (·.1 = path) =
      (routesOf (ks'.flatMap Clause.commands)).filter (·.1 = path) := by
    intro path
    rw [filter_routesOf, filter_routesOf,
      h.filter_commands (s := .routes path) hform fun c hc => by
        obtain ⟨hk, hpath⟩ := of_decide_eq_true hc
        exact ⟨by rw [hk]; rfl, by rw [Command.subject, hk, hpath]⟩]
  refine paths_ext (addRoutes_nonempty (by simp)) (addRoutes_nonempty (by simp))
    fun path method => ?_
  rw [operationUnder_addRoutes, operationUnder_addRoutes, filterMap_routedOperation,
    hroutes path, ← filterMap_routedOperation]

theorem Reorders.shared (h : Reorders ks ks') (hform : ∀ k ∈ ks, k.IsFormed) :
    OrderedMap.ofList (sharedOf (ks.flatMap Clause.commands)) =
      .ofList (sharedOf (ks'.flatMap Clause.commands)) := by
  refine OrderedMap.ext_get? fun code => ?_
  rw [OrderedMap.get?_ofList, OrderedMap.get?_ofList, filter_sharedOf, filter_sharedOf,
    h.filter_commands (s := .response code) hform fun c hc => by
      obtain ⟨hk, hcode⟩ := of_decide_eq_true hc
      exact ⟨by rw [hk]; rfl, by rw [Command.subject, hk, hcode]⟩]

theorem Reorders.servers (h : Reorders ks ks') (hform : ∀ k ∈ ks, k.IsFormed) :
    (ks.flatMap Clause.commands).filter Command.isAboutServers =
      (ks'.flatMap Clause.commands).filter Command.isAboutServers :=
  h.filter_commands (s := .servers) hform fun c hc => by
    rcases of_decide_eq_true hc with hk | hk <;> simp [Command.subject, hk, Kind.isTopLevel]

/-- If the commands of a kind are about one subject, the last of them is the same. -/
theorem Reorders.lastText_eq (h : Reorders ks ks') (hform : ∀ k ∈ ks, k.IsFormed) (kind : Kind)
    (s : Subject) (htop : kind.isTopLevel = true)
    (hs : ∀ c : Command, c.kind = kind → c.subject = s) :
    lastText? (ks.flatMap Clause.commands) kind = lastText? (ks'.flatMap Clause.commands) kind :=
  lastText?_congr (h.filter_commands hform fun c hc => by
    obtain rfl := of_decide_eq_true hc
    exact ⟨htop, hs c rfl⟩)

/-- Reordered clauses tell the same model, up to the order in which types are mentioned. -/
theorem Reorders.told (h : Reorders ks ks') (hform : ∀ k ∈ ks, k.IsFormed) (api : String) :
    ApiModel.told api (ks'.flatMap Clause.commands) =
      { ApiModel.told api (ks.flatMap Clause.commands) with
        referenced := (ApiModel.told api (ks'.flatMap Clause.commands)).referenced } := by
  have htitle := h.lastText_eq hform .title .title rfl fun c hc => by rw [Command.subject, hc]
  have hdescription := h.lastText_eq hform .description .description rfl fun c hc => by
    rw [Command.subject, hc]
  have hversion := h.lastText_eq hform .version .version rfl fun c hc => by rw [Command.subject, hc]
  have hfilename := h.lastText_eq hform .filename .filename rfl fun c hc => by
    rw [Command.subject, hc]
  have hservers : (ks.flatMap Clause.commands).foldl serversAfter [] =
      (ks'.flatMap Clause.commands).foldl serversAfter [] := by
    rw [foldl_serversAfter [], h.servers hform, ← foldl_serversAfter]
  unfold ApiModel.told
  rw [htitle, hdescription, hversion, hfilename, hservers, h.handlers hform, h.paths hform,
    h.shared hform]

theorem Reorders.referenced (h : Reorders ks ks') (api : String) :
    (ApiModel.told api (ks.flatMap Clause.commands)).referenced.Perm
      (ApiModel.told api (ks'.flatMap Clause.commands)).referenced := by
  refine (List.perm_ext_iff_of_nodup (nodup_firstOccurrences _) (nodup_firstOccurrences _)).2
    fun name => ?_
  rw [mem_firstOccurrences, mem_firstOccurrences]
  exact (h.commands_perm.filterMap _).mem_iff

end Told

end ApiNotes
