/-
Nothing is dropped in silence. Each `route` gives an operation of its own or a warning, each `end`
gives a handler of its own or a warning, and each declared type gives an entry of the table or a
warning. So what comes in can be counted in what comes out and in what is said on the way.

Three structures keep the last of several things here: the operations of a path, the handlers by id
and the table of types. For each of them a step adds one to the structure or to the warnings, and
never both.
-/
import ApiNotes.Proofs.Api.Block
import ApiNotes.Proofs.Symbol.Declarations
import Mathlib.Data.List.Dedup

namespace ApiNotes

/-! ## Kinds of warning -/

namespace Warning

/-- Whether a warning says that a route was skipped. -/
def isRouteSkipped : Warning → Bool
  | handlerUnknown .. | methodMissing .. => true
  | _ => false

/-- Whether a warning says that a method of a path was documented twice. -/
def isOperationRepeated : Warning → Bool
  | operationRepeated .. => true
  | _ => false

/-- Whether a warning says that a handler was described twice. -/
def isHandlerRepeated : Warning → Bool
  | handlerRepeated .. => true
  | _ => false

/-- Whether a warning says that a type was declared more than once. -/
def isDeclarationRepeated : Warning → Bool
  | declarationRepeated .. => true
  | _ => false

end Warning

/-! ## Routes -/

/-- The number of operations of some paths. -/
def operationCount (paths : OrderedMap PathItem) : Nat :=
  (paths.values.map OrderedMap.size).sum

/-- A route adds an operation, or a warning that it was skipped or that it replaces another one. -/
theorem addRoute_accounts (api : String) (handlers : OrderedMap Handler)
    (paths : OrderedMap PathItem) (path handler : String) :
    let (paths', said) := addRoute api handlers paths path handler
    operationCount paths' + said.countP Warning.isRouteSkipped +
      said.countP Warning.isOperationRepeated = operationCount paths + 1 := by
  unfold addRoute
  cases handlers.get? handler with
  | none => rfl
  | some h =>
    cases hm : h.method with
    | none => simp [hm, Warning.isRouteSkipped, Warning.isOperationRepeated]
    | some method =>
      simp only [hm]
      have hpaths := OrderedMap.sum_values_insert OrderedMap.size paths path
        (((paths.get? path).getD .empty).insert method h.operation)
      have hitem := OrderedMap.size_insert ((paths.get? path).getD .empty) method h.operation
      have hsize : ((paths.get? path).getD .empty).size =
          ((paths.get? path).map OrderedMap.size).getD 0 := by
        cases paths.get? path <;> rfl
      unfold operationCount
      split at hitem <;> rename_i hc <;>
        simp only [hc, Bool.false_eq_true, if_true, if_false, List.countP_cons, List.countP_nil,
          Warning.isRouteSkipped, Warning.isOperationRepeated] <;>
        omega

theorem addRoutes_accounts (api : String) (handlers : OrderedMap Handler)
    (paths : OrderedMap PathItem) (routes : List (String × String)) :
    let (paths', said) := addRoutes api handlers paths routes
    operationCount paths' + said.countP Warning.isRouteSkipped +
      said.countP Warning.isOperationRepeated = operationCount paths + routes.length := by
  induction routes generalizing paths with
  | nil => rfl
  | cons route rest ih =>
    have hfirst := addRoute_accounts api handlers paths route.1 route.2
    have hothers := ih (addRoute api handlers paths route.1 route.2).1
    simp only [addRoutes, List.countP_append, List.length_cons] at hfirst hothers ⊢
    omega

/-- Linking responses keeps all operations. -/
theorem operationCount_link (doc : Document) :
    operationCount doc.link.paths = operationCount doc.paths := by
  simp [operationCount, Document.link, OrderedMap.values, OrderedMap.map, OrderedMap.size,
    Function.comp_def]

/-- What is said about responses is said about no route. -/
theorem countP_unlinkable (doc : Document) (api : String) {p : Warning → Bool}
    (hp : ∀ api method path code, p (.responseNotShared api method path code) = false) :
    (doc.unlinkable api).countP p = 0 := by
  refine List.countP_eq_zero.2 fun w hw => ?_
  unfold Document.unlinkable at hw
  simp only [List.mem_flatMap, List.mem_filterMap] at hw
  obtain ⟨⟨path, item⟩, -, ⟨method, o⟩, -, ⟨code, r⟩, -, hr⟩ := hw
  split at hr
  · cases hr
    simp [hp]
  · cases hr

namespace Draft

variable {d d' : Draft} {c : Command} {cs : List Command} {said : List Warning}

/-- Finishing a draft accounts for each of its routes. -/
theorem finish_accounts {m : ApiModel} (h : d.finish = .ok (m, said)) :
    operationCount m.document.paths + said.countP Warning.isRouteSkipped +
      said.countP Warning.isOperationRepeated =
        operationCount d.model.document.paths + d.routes.length := by
  unfold finish at h
  split at h
  · cases h
  · cases h
    have hroutes := addRoutes_accounts d.model.name d.handlers d.model.document.paths d.routes
    simp only [operationCount_link, List.countP_append] at hroutes ⊢
    rw [countP_unlinkable _ _ fun _ _ _ _ => rfl, countP_unlinkable _ _ fun _ _ _ _ => rfl]
    exact hroutes

/-! ## Commands -/

/-- The draft after a list of commands, and what there is to say on the way. -/
def report (d : Draft) : List Command → Except StructuralError (Draft × List Warning)
  | [] => .ok (d, [])
  | c :: rest => do
    let (d', first) ← d.apply c
    let (d'', others) ← d'.report rest
    return (d'', first ++ others)

theorem report_cons_eq_ok_iff {rest : List Command} {d'' : Draft} :
    d.report (c :: rest) = .ok (d'', said) ↔ ∃ d' first others, d.step c = .ok (d', first) ∧
      d'.report rest = .ok (d'', others) ∧ said = first ++ others := by
  simp only [report, bind_eq_ok_iff, ← apply_eq_ok_iff, Prod.exists]
  constructor
  · rintro ⟨d', first, hc, d₂, others, hrest, h⟩
    cases h
    exact ⟨d', first, others, hc, hrest, rfl⟩
  · rintro ⟨d', first, others, hc, hrest, rfl⟩
    exact ⟨d', first, hc, d'', others, hrest, rfl⟩

/-- Reporting on the way changes nothing about where the commands lead. -/
theorem applyAll_eq_report (d : Draft) (cs : List Command) :
    d.applyAll cs = (d.report cs).map Prod.fst := by
  induction cs generalizing d with
  | nil => rfl
  | cons c rest ih =>
    rw [applyAll, report]
    cases d.apply c with
    | error e => rfl
    | ok r =>
      obtain ⟨d', first⟩ := r
      show d'.applyAll rest = _
      rw [ih]
      show _ = Except.map _ (d'.report rest >>= _)
      cases d'.report rest <;> rfl

/-- What the draft after some commands has more than before: a route for each `route`, and for each
`end` a handler or a warning. -/
structure Accounts (d : Draft) (cs : List Command) (d' : Draft) (said : List Warning) : Prop where
  routes : d'.routes.length = d.routes.length + cs.countP (·.kind = .route)
  handlers : d'.handlers.size + said.countP Warning.isHandlerRepeated =
    d.handlers.size + cs.countP (·.kind = .endHandler)

theorem Accounts.refl (d : Draft) : d.Accounts [] d [] :=
  ⟨rfl, rfl⟩

theorem Accounts.trans {cs' : List Command} {d'' : Draft} {more : List Warning}
    (h : d.Accounts cs d' said) (h' : d'.Accounts cs' d'' more) :
    d.Accounts (cs ++ cs') d'' (said ++ more) := by
  have hroutes := h.routes
  have hhandlers := h.handlers
  have hroutes' := h'.routes
  have hhandlers' := h'.handlers
  constructor <;> rw [List.countP_append]
  · omega
  · rw [List.countP_append]
    omega

/-- Where neither routes nor closed handlers change, there is nothing to account for. -/
theorem Accounts.of_frame (hroute : c.kind ≠ .route) (hend : c.kind ≠ .endHandler)
    (hroutes : d'.routes = d.routes) (hhandlers : d'.handlers = d.handlers) :
    d.Accounts [c] d' [] := by
  constructor
  · simp [hroutes, hroute]
  · simp [hhandlers, hend]

/-- Closing a handler adds it, or replaces one and says so. -/
theorem close_accounts (d : Draft) (h : Handler) (hc : c.kind = .endHandler) :
    d.Accounts [c] (d.close h).1 (d.close h).2 := by
  constructor
  · simp [close, hc]
  · have hsize := OrderedMap.size_insert d.handlers h.id h
    unfold close
    cases hold : d.handlers.contains h.id <;> simp [hold, hc, Warning.isHandlerRepeated] at hsize ⊢
    · omega
    · omega

theorem Describes.accounts (hk : c.kind.isTopLevel = true) (hd : d.Describes c d') :
    d.Accounts [c] d' [] := by
  have hend : c.kind ≠ .endHandler := fun he => by rw [he] at hk; cases hk
  cases hd with
  | route path handler hc ha => exact ⟨by simp [hc], by simp [hc]⟩
  | code code rest response t hc =>
    exact .of_frame (by simp [hc]) hend (by simp [editDocument]) (by simp [editDocument])
  | title hc | description hc | version _ hc | filename _ hc | url _ hc | urlVariable _ _ _ _ hc =>
    exact .of_frame (by simp [hc]) hend rfl rfl

/-- A known command is accounted for. -/
theorem Takes.accounts (ht : d.Takes c d' said) : d.Accounts [c] d' said := by
  cases ht with
  | opens id hc => exact .of_frame (by simp [hc]) (by simp [hc]) rfl rfl
  | closes h hc => exact close_accounts d h hc
  | describes _ hk _ hd => exact (describe_eq_ok_iff.1 hd).accounts hk
  | details h h' t hk =>
    have hroute : c.kind ≠ .route := fun he => by rw [he] at hk; cases hk
    have hend : c.kind ≠ .endHandler := fun he => by rw [he] at hk; cases hk
    exact .of_frame hroute hend (by simp) (by simp)

theorem step_accounts (hs : d.step c = .ok (d', said)) : d.Accounts [c] d' said := by
  cases hk : c.kind.isKnown with
  | true => exact ((step_eq_ok_iff hk).1 hs).accounts
  | false =>
    rw [step_unknown hk] at hs
    cases hs
    exact .of_frame (fun he => by rw [he] at hk; cases hk) (fun he => by rw [he] at hk; cases hk)
      rfl rfl

theorem report_accounts (h : d.report cs = .ok (d', said)) : d.Accounts cs d' said := by
  induction cs generalizing d said with
  | nil => cases h; exact .refl _
  | cons c rest ih =>
    obtain ⟨d₁, first, others, hs, hrest, rfl⟩ := report_cons_eq_ok_iff.1 h
    exact (step_accounts hs).trans (ih hrest)

/-- There are as many closed handlers as there are ids of closed blocks. -/
theorem size_handlers {api : String} (hrun : (start api).applyAll cs = .ok d) :
    d.handlers.size = ((blocksOf cs).map Block.id).dedup.length := by
  have hreads : (start api).Reads (cs.foldl Block.next? none) (blocksOf cs) (routesOf cs) d :=
    applyAll_reads hrun rfl
  have hhandlers : d.handlers = addHandlers .empty (blocksOf cs) := hreads.handlers
  have hkeys : d.handlers.keys.Perm ((blocksOf cs).map Block.id).dedup := by
    have hnodup : d.handlers.keys.Nodup := OrderedMap.nodup_keys d.handlers.ordered
    refine (List.perm_ext_iff_of_nodup hnodup (List.nodup_dedup _)).2 fun id => ?_
    rw [OrderedMap.mem_keys_iff, OrderedMap.contains_iff, hhandlers, List.mem_dedup]
    simp only [get?_addHandlers, OrderedMap.get?_empty, Option.or_none, Option.map_eq_some_iff]
    constructor
    · rintro ⟨h, b, hb, -⟩
      have hmem := List.mem_filter.1 (List.mem_of_getLast? hb)
      exact List.mem_map.2 ⟨b, hmem.1, by simpa using hmem.2⟩
    · intro hid
      obtain ⟨b, hb, hid⟩ := List.mem_map.1 hid
      have hmem : b ∈ (blocksOf cs).filter (·.id = id) := List.mem_filter.2 ⟨hb, by simpa using hid⟩
      exact ⟨_, _, List.getLast?_eq_some_getLast (List.ne_nil_of_mem hmem), rfl⟩
  have hlength := hkeys.length_eq
  rwa [OrderedMap.keys, List.length_map] at hlength

end Draft

/-! ## Declarations -/

namespace SymbolTable

theorem declareAll_accounts (t : SymbolTable) (l : List (String × Symbol)) :
    (declareAll t l).1.size + (declareAll t l).2.countP Warning.isDeclarationRepeated =
      t.size + l.length := by
  induction l generalizing t with
  | nil => rfl
  | cons e rest ih =>
    obtain ⟨name, s⟩ := e
    have hothers := ih (t.insert name s)
    have hsize := OrderedMap.size_insert t name s
    have hfirst : (repeats t name s).countP Warning.isDeclarationRepeated =
        if t.contains name then 1 else 0 := by
      unfold repeats OrderedMap.contains
      cases t.get? name <;> rfl
    simp only [declareAll, declare, List.countP_append, List.length_cons] at hothers ⊢
    omega

end SymbolTable

/-! ## Everything is accounted for -/

/-- Of the commands of one API that are accepted, each `route` is an operation of the finished
document, or a warning of the finish that it was skipped or that its method of its path was
documented twice; and each `end` is an id of a closed block, or a warning that a handler was
described twice. Of the declarations of a list of sources each is an entry of the table, or a
warning that its type was declared more than once. -/
theorem accounts_of_warnings :
    (∀ (api : String) (cs : List Command) (m : ApiModel), ApiModel.ofCommands api cs = .ok m →
      ∃ d said more, (Draft.start api).report cs = .ok (d, said) ∧ d.finish = .ok (m, more) ∧
      cs.countP (·.kind = .route) = operationCount m.document.paths +
        more.countP Warning.isRouteSkipped + more.countP Warning.isOperationRepeated ∧
      cs.countP (·.kind = .endHandler) = ((blocksOf cs).map Block.id).dedup.length +
        said.countP Warning.isHandlerRepeated) ∧
    ∀ sources : List Code.SourceUnit,
      (sources.flatMap Code.SourceUnit.declarations).length =
        (SymbolTable.ofSources sources).1.size +
          (SymbolTable.ofSources sources).2.countP Warning.isDeclarationRepeated := by
  refine ⟨fun api cs m h => ?_, fun sources => ?_⟩
  · obtain ⟨d, hrun, more, hfinish⟩ := ofCommands_eq_ok_iff.1 h
    have hreads :
        (Draft.start api).Reads (cs.foldl Block.next? none) (blocksOf cs) (routesOf cs) d :=
      Draft.applyAll_reads hrun rfl
    have hpaths : d.model.document.paths = .empty := hreads.paths
    have hids := Draft.size_handlers hrun
    rw [Draft.applyAll_eq_report] at hrun
    obtain ⟨⟨_, said⟩, hreport, rfl⟩ := map_eq_ok_iff.1 hrun
    have hcommands := Draft.report_accounts hreport
    have hroutes := Draft.finish_accounts hfinish
    have hcount := hcommands.routes
    have hends := hcommands.handlers
    rw [hpaths] at hroutes
    refine ⟨_, said, more, hreport, hfinish, ?_, ?_⟩
    · simp only [Draft.start, List.length_nil, operationCount, OrderedMap.values_empty,
        List.map_nil, List.sum_nil, Nat.zero_add] at hcount hroutes ⊢
      omega
    · rw [hids] at hends
      simpa [Draft.start, OrderedMap.size, OrderedMap.empty] using hends.symm
  · have htable := SymbolTable.declareAll_accounts .empty (sources.flatMap Code.SourceUnit.symbols)
    have hlength : (sources.flatMap Code.SourceUnit.symbols).length =
        (sources.flatMap Code.SourceUnit.declarations).length := by
      simp [List.length_flatMap, Code.SourceUnit.symbols]
    rw [SymbolTable.ofSources, SymbolTable.ofDeclarations, htable, hlength]
    exact (Nat.zero_add _).symm

/-- Two blocks of one id and one without a method, and routes to both, to none, and to one of them
twice. -/
def orderCommands : List Command :=
  [⟨.route, ["/orders", "list"], none, none⟩,
   ⟨.beginHandler, ["list"], none, none⟩,
   ⟨.endHandler, [], none, none⟩,
   ⟨.route, ["/orders", "archive"], none, none⟩,
   ⟨.beginHandler, ["list"], none, none⟩,
   ⟨.method, ["GET"], none, none⟩,
   ⟨.endHandler, ["list"], none, none⟩,
   ⟨.beginHandler, ["draft"], none, none⟩,
   ⟨.endHandler, [], none, none⟩,
   ⟨.route, ["/orders/draft", "draft"], none, none⟩,
   ⟨.route, ["/orders", "list"], none, none⟩]

/-- Of four routes two were skipped and one gave way to another, and of three blocks one did. -/
theorem accounts_of_warnings_orders : ∃ m, ApiModel.ofCommands "" orderCommands = .ok m ∧
    operationCount m.document.paths = 1 ∧
    ∃ d said more, (Draft.start "").report orderCommands = .ok (d, said) ∧
      d.finish = .ok (m, more) ∧
      more = [.handlerUnknown "" "/orders" "archive", .methodMissing "" "draft" "/orders/draft",
        .operationRepeated "" "get" "/orders" "list"] ∧
      said = [.handlerRepeated "" "list"] ∧
      4 = 1 + more.countP Warning.isRouteSkipped + more.countP Warning.isOperationRepeated ∧
      3 = ((blocksOf orderCommands).map Block.id).dedup.length +
        said.countP Warning.isHandlerRepeated := by
  obtain ⟨m, hm, hone⟩ : ∃ m, ApiModel.ofCommands "" orderCommands = .ok m ∧
      operationCount m.document.paths = 1 := ⟨_, by rfl, by rfl⟩
  obtain ⟨d, said, more, hreport, hfinish, hroutes, hends⟩ :=
    accounts_of_warnings.1 "" orderCommands m hm
  rw [hone] at hroutes
  refine ⟨m, hm, hone, d, said, more, hreport, hfinish, ?_, ?_, hroutes, hends⟩
  · cases hreport
    cases hfinish
    rfl
  · cases hreport
    rfl

end ApiNotes
