/-
The blocks of a sequence of commands: what stands from a `begin` to its `end`. A block tells what
its handler is: the last command of a kind counts, except that every `query` adds a parameter and
that responses are kept by status code. A draft that takes the commands has just the handler of the
last block of each id, the handler of the block that is still open, and the routes in order.
-/
import ApiNotes.Proofs.Api.Step

namespace ApiNotes

/-! ## What single commands say -/

/-- The type that a token stands for, bare or in braces. -/
def typeNamed (token : String) : TypeRef :=
  .ofName ((braced? token).getD token)

namespace Command

/-- The parameter that a `query` adds. -/
def parameter (c : Command) : Parameter :=
  { name := c.args.getD 0 "", location := "query", description := nonEmpty? (c.textFrom 2),
    required := true, schema := .ofTypeRef (typeNamed (c.args.getD 1 "")) }

/-- The request body that a `body` states. -/
def requestBody (c : Command) : RequestBody :=
  { description := nonEmpty? (c.textFrom 1), required := true,
    content := jsonContent (.ofTypeRef (typeNamed (c.args.getD 0 ""))) }

/-- The response that a `response` states: nothing of its own after a lone status code, otherwise a
braced type with a description, or a description. -/
def response (c : Command) : Response :=
  match c.args[1]? with
  | none => {}
  | some token =>
    if (braced? token).isSome then
      (Response.described (c.textFrom 2)).withJson (.ofTypeRef (typeNamed token))
    else .described (c.textFrom 1)

/-- The path and the handler that a `route` joins. -/
def route? (c : Command) : Option (String × String) :=
  match c.kind, c.args with
  | .route, [path, handler] => some (path, handler)
  | _, _ => none

end Command

/-- The routes of a sequence of commands, as path and handler id, in order. -/
def routesOf (cs : List Command) : List (String × String) :=
  cs.filterMap Command.route?

/-! ## Blocks -/

/-- A `begin` with the commands that describe its handler. -/
structure Block where
  opening : Command
  fields : List Command

namespace Block

/-- The id of the handler. -/
def id (b : Block) : String :=
  b.opening.args.headD ""

/-- The block with one more command. -/
def add (b : Block) (c : Command) : Block :=
  { b with fields := b.fields ++ [c] }

/-- The commands of one kind, in order. -/
def ofKind (b : Block) (kind : Kind) : List Command :=
  b.fields.filter (·.kind = kind)

/-- The last command of a kind. -/
def last? (b : Block) (kind : Kind) : Option Command :=
  (b.ofKind kind).getLast?

/-- The method that the last `method` states, in lower case. -/
def method? (b : Block) : Option String :=
  (b.last? .method).map fun c => Text.lowercase (c.args.headD "")

/-- The operation that a block describes. -/
def operation (b : Block) : Operation :=
  { operationId := some b.id
    summary := (b.last? .summary).map (·.textFrom 0)
    description := (b.last? .handlerDescription).map (·.textFrom 0)
    tags := ((b.last? .tags).map Command.args).getD []
    parameters := (b.ofKind .query).map Command.parameter
    requestBody := (b.last? .body).map Command.requestBody
    responses := .ofList ((b.ofKind .response).map fun c => (c.args.headD "", c.response)) }

/-- The handler that a block describes. -/
def handler (b : Block) : Handler :=
  { id := b.id, method := b.method?, operation := b.operation, openedAt := b.opening.location }

/-- The block that is open after a command. -/
def next? (current : Option Block) (c : Command) : Option Block :=
  match c.kind with
  | .beginHandler => some ⟨c, []⟩
  | .endHandler => none
  | kind => if kind.isHandlerField then current.map (·.add c) else current

/-- The block that a command closes. -/
def closed? (current : Option Block) (c : Command) : Option Block :=
  match c.kind with
  | .endHandler => current
  | _ => none

/-- The closed blocks of a sequence of commands, in order; a block may be open at its start. -/
def closedFrom : Option Block → List Command → List Block
  | _, [] => []
  | current, c :: rest => (closed? current c).toList ++ closedFrom (next? current c) rest

end Block

/-- The closed blocks of a sequence of commands, in the order of their ends. -/
def blocksOf (cs : List Command) : List Block :=
  Block.closedFrom none cs

/-- The last closed block of an id. -/
def lastBlock? (cs : List Command) (id : String) : Option Block :=
  ((blocksOf cs).filter (·.id = id)).getLast?

/-! ## A command more in a block -/

namespace Block

variable {b : Block} {c : Command} {kind : Kind}

@[simp]
theorem id_add : (b.add c).id = b.id :=
  rfl

@[simp]
theorem opening_add : (b.add c).opening = b.opening :=
  rfl

theorem ofKind_add :
    (b.add c).ofKind kind = b.ofKind kind ++ if c.kind = kind then [c] else [] := by
  unfold ofKind add
  rw [List.filter_append]
  by_cases hk : c.kind = kind <;> simp [hk]

theorem last?_add : (b.add c).last? kind = if c.kind = kind then some c else b.last? kind := by
  unfold last?
  rw [ofKind_add]
  by_cases hk : c.kind = kind <;> simp [hk]

end Block

theorem typeOfToken_eq {kind : Kind} {token : String} {t : TypeRef}
    (h : typeOfToken kind token = .ok t) : t = typeNamed token := by
  unfold typeOfToken at h
  dsimp only at h
  split at h
  · cases h
  · cases h; rfl

/-- A response is that of a braced type with a description, or of a description alone. -/
theorem responseOf_eq_ok {c : Command} {type : Option String} {r : Response} {t : Option TypeRef}
    (h : c.responseOf type = .ok (r, t)) :
    (r, t) = match type.filter fun token => (braced? token).isSome with
      | some token => ((Response.described (c.textFrom 2)).withJson (.ofTypeRef (typeNamed token)),
          some (typeNamed token))
      | none => (.described (c.textFrom 1), none) := by
  unfold Command.responseOf at h
  cases type with
  | none => cases h; rfl
  | some token =>
    dsimp only at h
    split at h
    · rename_i hb
      split at h
      · rename_i ht
        cases h
        simp [Option.filter, hb, typeOfToken_eq ht]
      · cases h
    · rename_i hb
      cases h
      simp [Option.filter, hb]

/-- What a braced type or a description after a status code says. -/
theorem responseOf_eq {c : Command} {code token : String} {rest : List String} {r : Response}
    {t : Option TypeRef} (ha : c.args = code :: token :: rest)
    (h : c.responseOf (some token) = .ok (r, t)) : r = c.response := by
  have hr := congrArg Prod.fst (responseOf_eq_ok h)
  dsimp only at hr
  rw [hr, Command.response, ha]
  by_cases hb : (braced? token).isSome = true <;> simp [Option.filter, hb]

namespace Block

variable {b : Block} {c : Command}

theorem operation_add_response {code : String} {rest : List String} (hk : c.kind = .response)
    (ha : c.args = code :: rest) :
    (b.add c).operation = { b.operation with
      responses := b.operation.responses.insert code c.response } := by
  simp [operation, last?_add, ofKind_add, hk, ha, OrderedMap.ofList]

/-- Describing the handler of a block is adding the command to the block. -/
theorem handler_add {h' : Handler} {t : Option TypeRef} (hd : b.handler.Describes c h' t) :
    h' = (b.add c).handler := by
  cases hd with
  | method method hk ha =>
    simp [handler, operation, method?, last?_add, ofKind_add, hk, ha]
  | summary hk | description hk | tags hk =>
    simp [handler, operation, method?, last?_add, ofKind_add, hk]
  | body token rest t hk ha ht =>
    rw [typeOfToken_eq ht]
    simp [handler, operation, method?, last?_add, ofKind_add, hk, ha, Command.requestBody]
  | query name token rest t hk ha ht =>
    rw [typeOfToken_eq ht]
    simp [handler, operation, method?, last?_add, ofKind_add, hk, ha, Command.parameter]
  | bareResponse code hk ha =>
    have hr : c.response = {} := by simp [Command.response, ha]
    simp only [handler, Handler.addResponse, operation_add_response hk ha, hr]
    simp [method?, last?_add, hk]
  | response code token rest response t hk ha hr =>
    rw [responseOf_eq ha hr]
    simp only [handler, Handler.addResponse, operation_add_response hk ha]
    simp [method?, last?_add, hk]

end Block

/-! ## Drafts and blocks -/

/-- The handlers of a list of blocks, over others; a later block replaces an earlier one. -/
def addHandlers (handlers : OrderedMap Handler) (blocks : List Block) : OrderedMap Handler :=
  blocks.foldl (fun handlers b => handlers.insert b.id b.handler) handlers

theorem get?_addHandlers (handlers : OrderedMap Handler) (blocks : List Block) (id : String) :
    (addHandlers handlers blocks).get? id =
      ((blocks.filter (·.id = id)).getLast?.map Block.handler).or (handlers.get? id) := by
  have hfold : addHandlers handlers blocks =
      (blocks.map fun b => (b.id, b.handler)).foldl (fun m e => m.insert e.1 e.2) handlers := by
    rw [List.foldl_map]
    rfl
  rw [hfold, OrderedMap.get?_foldl_insert, List.filter_map, List.getLast?_map, Option.map_map]
  rfl

/-- What the commands of a sequence make of a draft, told by their blocks: the open handler is that
of the open block, each closed block replaces the handler of its id, and routes are added. -/
structure Draft.Reads (d : Draft) (current : Option Block) (blocks : List Block)
    (routes : List (String × String)) (d' : Draft) : Prop where
  current : d'.current = current.map Block.handler
  handlers : d'.handlers = addHandlers d.handlers blocks
  routes : d'.routes = d.routes ++ routes
  paths : d'.model.document.paths = d.model.document.paths

namespace Draft

variable {d d' : Draft} {c : Command} {current : Option Block}

@[simp]
theorem mention_routes (d : Draft) (t : Option TypeRef) : (d.mention t).routes = d.routes := by
  unfold mention; split <;> rfl

theorem route?_eq_none (hk : c.kind ≠ .route) : c.route? = none := by
  unfold Command.route?
  split
  · rename_i hr _; exact absurd hr hk
  · rfl

theorem next?_of_topLevel (hk : c.kind.isTopLevel = true) : Block.next? current c = current := by
  unfold Block.next?
  cases hc : c.kind <;> rw [hc] at hk <;> first | rfl | cases hk

theorem next?_of_handlerField (hk : c.kind.isHandlerField = true) :
    Block.next? current c = current.map (·.add c) := by
  unfold Block.next?
  cases hc : c.kind <;> rw [hc] at hk <;> first | rfl | cases hk

theorem closed?_eq_none (hk : c.kind ≠ .endHandler) : Block.closed? current c = none := by
  unfold Block.closed?
  split
  · rename_i he; exact absurd he hk
  · rfl

/-- A command outside of handlers closes no block, and adds a route if it is one. -/
theorem Describes.reads (hd : d.Describes c d') (hk : c.kind.isTopLevel = true)
    (hcur : d.current = current.map Block.handler) :
    d.Reads (Block.next? current c) (Block.closed? current c).toList c.route?.toList d' := by
  have hend : c.kind ≠ .endHandler := fun he => by rw [he] at hk; cases hk
  rw [next?_of_topLevel hk, closed?_eq_none hend]
  cases hd with
  | route path handler hc ha =>
    have hr : c.route? = some (path, handler) := by simp [Command.route?, hc, ha]
    exact ⟨hcur, rfl, by simp [hr], rfl⟩
  | code code rest response t hc =>
    have hr : c.route? = none := route?_eq_none (by simp [hc])
    refine ⟨?_, ?_, ?_, ?_⟩ <;> simp [editDocument, addHandlers, hcur, hr]
  | title hc | description hc | version _ hc | filename _ hc | url _ hc | urlVariable _ _ _ _ hc =>
    have hr : c.route? = none := route?_eq_none (by simp [hc])
    exact ⟨hcur, rfl, by simp [hr, editDocument, addServer], rfl⟩

/-- What a known command makes of a draft is told by the block it opens, extends or closes. -/
theorem Takes.reads {w : List Warning} (ht : d.Takes c d' w)
    (hcur : d.current = current.map Block.handler) :
    d.Reads (Block.next? current c) (Block.closed? current c).toList c.route?.toList d' := by
  cases ht with
  | opens id hc ha =>
    have hr : c.route? = none := route?_eq_none (by simp [hc])
    have hcl : Block.closed? current c = none := closed?_eq_none (by simp [hc])
    have hn : Block.next? current c = some ⟨c, []⟩ := by simp [Block.next?, hc]
    -- a handler that was just opened is what a block without fields describes
    have hh : Handler.start id c.location = Block.handler ⟨c, []⟩ := by
      simp [Handler.start, Block.handler, Block.operation, Block.method?, Block.last?,
        Block.ofKind, Block.id, ha, OrderedMap.ofList]
    rw [hr, hcl, hn]
    exact ⟨by simp [hh], rfl, by simp, rfl⟩
  | closes h hc _ hh =>
    have hr : c.route? = none := route?_eq_none (by simp [hc])
    have hcl : Block.closed? current c = current := by simp [Block.closed?, hc]
    have hn : Block.next? current c = none := by simp [Block.next?, hc]
    rw [hcur] at hh
    obtain ⟨b, rfl, rfl⟩ := Option.map_eq_some_iff.1 hh
    rw [hr, hcl, hn]
    exact ⟨rfl, rfl, by simp [close], rfl⟩
  | describes _ hk _ hd => exact (describe_eq_ok_iff.1 hd).reads hk hcur
  | details h h' t hk hh hd =>
    have hr : c.route? = none := route?_eq_none fun he => by rw [he] at hk; cases hk
    have hcl : Block.closed? current c = none :=
      closed?_eq_none fun he => by rw [he] at hk; cases hk
    rw [hcur] at hh
    obtain ⟨b, rfl, rfl⟩ := Option.map_eq_some_iff.1 hh
    have hadd := Block.handler_add (Handler.describe_eq_ok_iff.1 hd)
    rw [hr, hcl, next?_of_handlerField hk]
    exact ⟨by simp [hadd], by simp [addHandlers], by simp, by simp⟩

theorem step_reads {w : List Warning} (hs : d.step c = .ok (d', w))
    (hcur : d.current = current.map Block.handler) :
    d.Reads (Block.next? current c) (Block.closed? current c).toList c.route?.toList d' := by
  cases hk : c.kind.isKnown with
  | true => exact ((step_eq_ok_iff hk).1 hs).reads hcur
  | false =>
    rw [step_unknown hk] at hs
    cases hs
    cases hc : c.kind with
    | unknown keyword =>
      have hr : c.route? = none := route?_eq_none (by simp [hc])
      have hcl : Block.closed? current c = none := closed?_eq_none (by simp [hc])
      have hn : Block.next? current c = current := by simp [Block.next?, hc, Kind.isHandlerField]
      rw [hr, hcl, hn]
      exact ⟨hcur, rfl, by simp, rfl⟩
    | _ => rw [hc] at hk; cases hk

/-- What a run makes of a draft is told by the blocks that it closes, its routes, and the block that
it leaves open. -/
theorem applyAll_reads {cs : List Command} (hrun : d.applyAll cs = .ok d')
    (hcur : d.current = current.map Block.handler) :
    d.Reads (cs.foldl Block.next? current) (Block.closedFrom current cs) (routesOf cs) d' := by
  induction cs generalizing d current with
  | nil =>
    cases hrun
    exact ⟨hcur, rfl, by simp [routesOf], rfl⟩
  | cons c rest ih =>
    obtain ⟨d₁, w, hs, hrest⟩ := applyAll_cons_eq_ok_iff.1 hrun
    have hfirst := step_reads hs hcur
    have hothers := ih hrest hfirst.current
    refine ⟨hothers.current, ?_, ?_, hothers.paths.trans hfirst.paths⟩
    · rw [hothers.handlers, hfirst.handlers, addHandlers, addHandlers, addHandlers,
        ← List.foldl_append]
      rfl
    · rw [hothers.routes, hfirst.routes, List.append_assoc]
      unfold routesOf
      cases hr : c.route? <;> simp [hr]

end Draft

end ApiNotes
