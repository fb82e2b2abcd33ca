/-
The operations of a finished document. A route leads to the last block of its handler's id, and puts
the operation of that block under the method that the block states; a route to an id without a
block, or to a block without a method, leads nowhere. Of the routes that lead to one method of one
path the last counts. Where routes and blocks stand relative to each other does not matter.
-/
import ApiNotes.Proofs.Api.Block

namespace ApiNotes

/-- The operation under a method of a path. -/
def operationUnder (paths : OrderedMap PathItem) (path method : String) : Option Operation :=
  (paths.get? path).bind fun item => item.get? method

/-! ## Adding routes -/

/-- The operation that a route puts under a method of a path. -/
def routedOperation (handlers : OrderedMap Handler) (path method : String)
    (route : String × String) : Option Operation :=
  if route.1 = path then
    (handlers.get? route.2).bind fun h =>
      if h.method = some method then some h.operation else none
  else none

theorem operationUnder_addRoute (api : String) (handlers : OrderedMap Handler)
    (paths : OrderedMap PathItem) (path method : String) (route : String × String) :
    operationUnder (addRoute api handlers paths route.1 route.2).1 path method =
      (routedOperation handlers path method route).or (operationUnder paths path method) := by
  obtain ⟨path', handler⟩ := route
  unfold addRoute routedOperation
  cases hh : handlers.get? handler with
  | none => simp
  | some h =>
    cases hm : h.method with
    | none => simp [hm]
    | some method' =>
      unfold operationUnder
      simp only [OrderedMap.get?_insert, Option.bind_some, hm, Option.some.injEq]
      by_cases hp : path = path'
      · subst hp
        simp only [if_true, Option.bind_some, OrderedMap.get?_insert]
        by_cases he : method = method'
        · subst he; simp
        · -- another method of the path keeps its operation
          simp only [if_neg he, if_neg (Ne.symm he), Option.none_or]
          cases paths.get? path <;> rfl
      · simp only [if_neg hp, if_neg (Ne.symm hp), Option.none_or]

/-- The last route that leads to a method of a path decides what stands there. -/
theorem operationUnder_addRoutes (api : String) (handlers : OrderedMap Handler)
    (routes : List (String × String)) (paths : OrderedMap PathItem) (path method : String) :
    operationUnder (addRoutes api handlers paths routes).1 path method =
      ((routes.filterMap (routedOperation handlers path method)).getLast?).or
        (operationUnder paths path method) := by
  induction routes generalizing paths with
  | nil => rfl
  | cons route rest ih =>
    obtain ⟨path', handler⟩ := route
    have hfirst := operationUnder_addRoute api handlers paths path method (path', handler)
    show operationUnder (addRoutes api handlers (addRoute api handlers paths path' handler).1
      rest).1 path method = _
    rw [ih, hfirst, List.filterMap_cons]
    cases routedOperation handlers path method (path', handler) with
    | none => rfl
    | some o =>
      simp only [List.getLast?_cons, Option.some_or]
      cases (rest.filterMap (routedOperation handlers path method)).getLast? <;> rfl

theorem isEmpty_insert {α : Type} (m : OrderedMap α) (key : String) (value : α) :
    (m.insert key value).isEmpty = false := by
  have hk : (m.insert key value).get? key = some value := by simp [OrderedMap.get?_insert]
  have hmem := (OrderedMap.mem_entries_iff _ key value).2 hk
  cases he : (m.insert key value).entries with
  | nil => rw [he] at hmem; cases hmem
  | cons e rest => simp [OrderedMap.isEmpty, he]

theorem addRoute_nonempty {api path handler : String} {handlers : OrderedMap Handler}
    {paths : OrderedMap PathItem} (h : ∀ item ∈ paths.values, item.isEmpty = false) :
    ∀ item ∈ (addRoute api handlers paths path handler).1.values, item.isEmpty = false := by
  unfold addRoute
  cases handlers.get? handler with
  | none => exact h
  | some found =>
    cases hm : found.method with
    | none => simpa [hm] using h
    | some method =>
      simp only [hm]
      exact OrderedMap.forall_values_insert (isEmpty_insert ..) h

/-- Routes make no path without an operation. -/
theorem addRoutes_nonempty {api : String} {handlers : OrderedMap Handler}
    {routes : List (String × String)} {paths : OrderedMap PathItem}
    (h : ∀ item ∈ paths.values, item.isEmpty = false) :
    ∀ item ∈ (addRoutes api handlers paths routes).1.values, item.isEmpty = false := by
  induction routes generalizing paths with
  | nil => exact h
  | cons route rest ih => exact ih (addRoute_nonempty h)

/-! ## Finished documents -/

/-- A finished document has the routes of its draft, and then its responses linked. -/
theorem finish_document {d : Draft} {m : ApiModel} {w : List Warning}
    (hf : d.finish = .ok (m, w)) :
    m.document = Document.link { d.model.document with
      paths := (addRoutes d.model.name d.handlers d.model.document.paths d.routes).1 } := by
  unfold Draft.finish at hf
  split at hf
  · cases hf
  · cases hf; rfl

theorem operationUnder_link (doc : Document) (path method : String) :
    operationUnder doc.link.paths path method =
      (operationUnder doc.paths path method).map (·.link doc.components.responses) := by
  unfold operationUnder Document.link
  simp only [OrderedMap.get?_map]
  cases doc.paths.get? path with
  | none => rfl
  | some item => simp

/-- The last block of an id describes the handler, and states the method. -/
def Answers (cs : List Command) (handler method : String) (b : Block) : Prop :=
  lastBlock? cs handler = some b ∧ b.method? = some method

/-- The operation of a route is that of the last block of its id, if the block states the method. -/
theorem routedOperation_eq_some_iff {cs : List Command} {path method : String}
    {route : String × String} {o : Operation} :
    routedOperation (addHandlers .empty (blocksOf cs)) path method route = some o ↔
      route.1 = path ∧ ∃ b, Answers cs route.2 method b ∧ o = b.operation := by
  have hget : (addHandlers .empty (blocksOf cs)).get? route.2 =
      (lastBlock? cs route.2).map Block.handler := by
    rw [get?_addHandlers, OrderedMap.get?_empty, Option.or_none]
    rfl
  unfold routedOperation Answers
  rw [hget]
  by_cases hp : route.1 = path
  · cases hb : lastBlock? cs route.2 with
    | none => simp [hp]
    | some b =>
      by_cases hm : b.method? = some method
      · simp [hp, Block.handler, hm, eq_comm]
      · -- the only block there is states another method
        simp only [hp, if_true, Option.map_some, Option.bind_some, Block.handler, if_neg hm,
          reduceCtorEq, Option.some.injEq, true_and, false_iff]
        rintro ⟨_, ⟨rfl, hm'⟩, -⟩
        exact hm hm'
  · simp [hp]

/-- The operations before responses are linked: the last route to a method of a path decides. -/
theorem ofCommands_operationUnder {api : String} {cs : List Command} {m : ApiModel}
    (h : ApiModel.ofCommands api cs = .ok m) (path method : String) :
    operationUnder m.document.paths path method =
      (((routesOf cs).filterMap (routedOperation (addHandlers .empty (blocksOf cs)) path
        method)).getLast?).map (·.link m.document.components.responses) := by
  obtain ⟨d, hrun, w, hf⟩ := ofCommands_eq_ok_iff.1 h
  have hreads : (Draft.start api).Reads (cs.foldl Block.next? none) (blocksOf cs) (routesOf cs) d :=
    Draft.applyAll_reads hrun rfl
  have hdoc := finish_document hf
  have hpaths : d.model.document.paths = .empty := hreads.paths
  have hroutes : d.routes = routesOf cs := hreads.routes
  have hhandlers : d.handlers = addHandlers .empty (blocksOf cs) := hreads.handlers
  have hempty : operationUnder .empty path method = none := rfl
  rw [hdoc, operationUnder_link, operationUnder_addRoutes, hpaths, hempty, Option.or_none, hroutes,
    hhandlers]
  rfl

theorem id_of_lastBlock? {cs : List Command} {id : String} {b : Block}
    (h : lastBlock? cs id = some b) : b.id = id := by
  have hmem := List.mem_of_getLast? h
  simpa using (List.mem_filter.1 hmem).2

/-- What stands under a method of a path of a finished document: there is an operation exactly if
some route of the path leads to a handler whose last block states the method, and then it is told by
the last block of the handler of the last such route alone, up to the responses that are linked. No
path is without an operation. -/
theorem ofCommands_operations (api : String) (cs : List Command) (m : ApiModel)
    (h : ApiModel.ofCommands api cs = .ok m) :
    (∀ path method, (∃ o, operationUnder m.document.paths path method = some o) ↔
      ∃ handler, (path, handler) ∈ routesOf cs ∧ ∃ b, Answers cs handler method b) ∧
    (∀ path method before handler after b,
      routesOf cs = before ++ (path, handler) :: after → Answers cs handler method b →
      (∀ later, (path, later) ∈ after → ∀ b', ¬ Answers cs later method b') →
      operationUnder m.document.paths path method =
        some (Operation.link m.document.components.responses
          { operationId := some handler
            summary := (b.last? .summary).map (·.textFrom 0)
            description := (b.last? .handlerDescription).map (·.textFrom 0)
            tags := ((b.last? .tags).map Command.args).getD []
            parameters := (b.ofKind .query).map Command.parameter
            requestBody := (b.last? .body).map Command.requestBody
            responses :=
              .ofList ((b.ofKind .response).map fun c => (c.args.headD "", c.response)) })) ∧
    ∀ item ∈ m.document.paths.values, item.isEmpty = false := by
  refine ⟨fun path method => ?_, ?_, ?_⟩
  · rw [ofCommands_operationUnder h]
    simp only [Option.map_eq_some_iff]
    constructor
    · rintro ⟨_, o, ho, -⟩
      obtain ⟨route, hroute, hr⟩ := List.mem_filterMap.1 (List.mem_of_getLast? ho)
      obtain ⟨rfl, b, hb, -⟩ := routedOperation_eq_some_iff.1 hr
      exact ⟨route.2, hroute, b, hb⟩
    · rintro ⟨handler, hroute, b, hb⟩
      have hr : routedOperation (addHandlers .empty (blocksOf cs)) path method (path, handler) =
          some b.operation := routedOperation_eq_some_iff.2 ⟨rfl, b, hb, rfl⟩
      have hmem := List.mem_filterMap.2 ⟨(path, handler), hroute, hr⟩
      exact ⟨_, _, List.getLast?_eq_some_getLast (List.ne_nil_of_mem hmem), rfl⟩
  · intro path method before handler after b hroutes hb hlater
    have hr : routedOperation (addHandlers .empty (blocksOf cs)) path method (path, handler) =
        some b.operation := routedOperation_eq_some_iff.2 ⟨rfl, b, hb, rfl⟩
    -- no route after this one leads to the method
    have hnone : after.filterMap
        (routedOperation (addHandlers .empty (blocksOf cs)) path method) = [] := by
      refine List.filterMap_eq_nil_iff.2 fun route hroute => ?_
      refine Option.eq_none_iff_forall_not_mem.2 fun o ho => ?_
      obtain ⟨hp, b', hb', -⟩ := routedOperation_eq_some_iff.1 ho
      exact hlater route.2 (hp ▸ hroute) b' hb'
    rw [ofCommands_operationUnder h, hroutes, List.filterMap_append, List.filterMap_cons, hr, hnone]
    simp only [List.getLast?_append, List.getLast?_singleton, Option.some_or, Option.map_some]
    rw [Block.operation, id_of_lastBlock? hb.1]
  · obtain ⟨d, hrun, w, hf⟩ := ofCommands_eq_ok_iff.1 h
    have hreads : (Draft.start api).Reads (cs.foldl Block.next? none) (blocksOf cs) (routesOf cs)
        d := Draft.applyAll_reads hrun rfl
    have hpaths : d.model.document.paths = .empty := hreads.paths
    have hne : ∀ item ∈ (addRoutes d.model.name d.handlers d.model.document.paths
        d.routes).1.values, item.isEmpty = false := addRoutes_nonempty (by simp [hpaths])
    rw [finish_document hf]
    intro item hitem
    obtain ⟨path, item₀, hpath, rfl⟩ := (OrderedMap.mem_values_map _ _ _).1 hitem
    have hitem₀ := hne item₀ ((OrderedMap.mem_values_iff _ _).2 ⟨path, hpath⟩)
    simpa [OrderedMap.isEmpty, OrderedMap.map] using hitem₀

/-- A route stands before two blocks of its handler, and the second block states another method. -/
def itemCommands : List Command :=
  [⟨.route, ["/items", "list"], none, none⟩,
   ⟨.code, ["404", "Gone"], none, none⟩,
   ⟨.beginHandler, ["list"], none, none⟩,
   ⟨.method, ["GET"], none, none⟩,
   ⟨.summary, ["All", "items"], none, none⟩,
   ⟨.endHandler, [], none, none⟩,
   ⟨.beginHandler, ["list"], none, none⟩,
   ⟨.method, ["PUT"], none, none⟩,
   ⟨.method, ["Post"], none, none⟩,
   ⟨.tags, ["items"], none, none⟩,
   ⟨.response, ["404"], none, none⟩,
   ⟨.endHandler, ["list"], none, none⟩]

/-- Only the last method of the second block is served, and nothing of the first block is left. -/
theorem ofCommands_operations_items : ∃ m, ApiModel.ofCommands "" itemCommands = .ok m ∧
    (∀ method, (∃ o, operationUnder m.document.paths "/items" method = some o) ↔
      method = "post") ∧
    operationUnder m.document.paths "/items" "post" =
      some { operationId := some "list", tags := ["items"],
             responses := .singleton "404" (.shared "404") } := by
  obtain ⟨m, hm, hresponses⟩ : ∃ m, ApiModel.ofCommands "" itemCommands = .ok m ∧
      m.document.components.responses = .singleton "404" (.described "Gone") := ⟨_, by rfl, by rfl⟩
  obtain ⟨hiff, hlast, -⟩ := ofCommands_operations "" itemCommands m hm
  have hroutes : routesOf itemCommands = [("/items", "list")] := by rfl
  obtain ⟨b, hb, hmethod, hop⟩ : ∃ b, lastBlock? itemCommands "list" = some b ∧
      b.method? = some "post" ∧
      b.operation = { operationId := some "list", tags := ["items"],
                      responses := .singleton "404" {} } := ⟨_, by rfl, by rfl, by rfl⟩
  refine ⟨m, hm, fun method => ?_, ?_⟩
  · rw [hiff, hroutes]
    constructor
    · rintro ⟨handler, hmem, b', hb', hm'⟩
      cases List.mem_singleton.1 hmem
      rw [hb] at hb'
      cases hb'
      rw [hmethod] at hm'
      exact (Option.some.inj hm').symm
    · rintro rfl
      exact ⟨"list", List.mem_singleton.2 rfl, b, hb, hmethod⟩
  · have hpost := hlast "/items" "post" [] "list" [] b hroutes ⟨hb, hmethod⟩ (by simp)
    calc operationUnder m.document.paths "/items" "post"
        = some (b.operation.link (.singleton "404" (.described "Gone"))) := by
          rw [hpost, hresponses, Block.operation, id_of_lastBlock? hb]
      _ = some { operationId := some "list", tags := ["items"],
                 responses := .singleton "404" (.shared "404") } := by rw [hop]; rfl

end ApiNotes
