/-
The responses of a finished document. The block that serves a method of a path records a response
for each status code that it names. A response that says nothing of its own becomes a reference if
the sequence shares one under its status code, before or after the block and the route; any other
response stays as it was recorded. Linking leaves the shared responses alone, and a finished
document has nothing left to link.
-/
import ApiNotes.Proofs.Api.Content
import ApiNotes.Proofs.Api.Routes

namespace ApiNotes

/-! ## Recorded and shared responses -/

/-- The status code of a `code` or a `response`. -/
def Command.status (c : Command) : String :=
  c.args.headD ""

/-- The block that serves a method of a path: the last block of the handler of the last route of the
path that leads to a block with that method. -/
def Serves (cs : List Command) (path method : String) (b : Block) : Prop :=
  ∃ before handler after, routesOf cs = before ++ (path, handler) :: after ∧
    Answers cs handler method b ∧
    ∀ later, (path, later) ∈ after → ∀ b', ¬ Answers cs later method b'

/-- The response that a block records for a status code: that of its last `response` with the
code. -/
def Block.response? (b : Block) (code : String) : Option Response :=
  ((b.ofKind .response).filter (·.status = code)).getLast?.map Command.response

/-- The response that a sequence of commands shares under a status code: that of its last `code`. -/
def sharedUnder? (cs : List Command) (code : String) : Option Response :=
  (cs.filter fun c => c.kind = .code ∧ c.status = code).getLast?.map Command.sharedResponse

/-- Whether a `code` with the status code stands anywhere in a sequence of commands. -/
def Shares (cs : List Command) (code : String) : Prop :=
  ∃ c ∈ cs, c.kind = .code ∧ c.status = code

namespace Response

/-- Whether a response has no content, and no description or an empty one. -/
def IsBare (r : Response) : Prop :=
  r.content = none ∧ (r.description = none ∨ r.description = some "")

/-- What becomes of a response that was recorded for a status code. -/
inductive Becomes (cs : List Command) (code : String) (r : Response) : Response → Prop
  | linked (hbare : r.IsBare) (hshared : Shares cs code) : Becomes cs code r (.shared code)
  | kept (h : ¬ (r.IsBare ∧ Shares cs code)) : Becomes cs code r r

end Response

theorem Block.get?_responses (b : Block) (code : String) :
    b.operation.responses.get? code = b.response? code := by
  unfold Block.operation Block.response? Command.status
  rw [OrderedMap.get?_ofList, List.filter_map, List.getLast?_map, Option.map_map]
  rfl

/-- A linked operation of a block has what becomes of the responses that the block records. -/
theorem Block.get?_responses_link (b : Block) (shared : OrderedMap Response) (code : String) :
    (b.operation.link shared).responses.get? code =
      (b.response? code).map (linkResponse shared code) := by
  rw [Operation.link, OrderedMap.get?_map, Block.get?_responses]

theorem get?_sharedOf (cs : List Command) (code : String) :
    (OrderedMap.ofList (sharedOf cs)).get? code = sharedUnder? cs code := by
  rw [OrderedMap.get?_ofList, filter_sharedOf, List.getLast?_map, Option.map_map]
  rfl

theorem contains_sharedOf (cs : List Command) (code : String) :
    (OrderedMap.ofList (sharedOf cs)).contains code = true ↔ Shares cs code := by
  rw [OrderedMap.contains_ofList]
  simp [sharedOf, Shares, Command.status, and_assoc]

/-! ## Linking a response -/

/-- No block records a reference. -/
theorem reference_response (c : Command) : c.response.reference = none := by
  unfold Command.response
  split
  · rfl
  · split <;> rfl

theorem Block.reference_of_response? {b : Block} {code : String} {r : Response}
    (h : b.response? code = some r) : r.reference = none := by
  obtain ⟨c, -, rfl⟩ := Option.map_eq_some_iff.1 h
  exact reference_response c

theorem isUnlinked_iff {r : Response} (h : r.reference = none) :
    r.isUnlinked = true ↔ r.IsBare := by
  unfold Response.isUnlinked Response.IsBare
  cases r.content <;> cases r.description <;> simp [h]

theorem isUnlinked_shared (code : String) : (Response.shared code).isUnlinked = false :=
  rfl

/-- A response without a reference is linked if it is bare and shared, and kept otherwise. -/
theorem linkResponse_eq_iff {cs : List Command} {code : String} {r r' : Response}
    (h : r.reference = none) :
    linkResponse (.ofList (sharedOf cs)) code r = r' ↔ r.Becomes cs code r' := by
  have hiff : (r.isUnlinked && (OrderedMap.ofList (sharedOf cs)).contains code) = true ↔
      r.IsBare ∧ Shares cs code := by
    rw [Bool.and_eq_true, isUnlinked_iff h, contains_sharedOf]
  unfold linkResponse
  split
  · rename_i hl
    obtain ⟨hbare, hshared⟩ := hiff.1 hl
    constructor
    · rintro rfl; exact .linked hbare hshared
    · rintro (_ | hk)
      · rfl
      · exact absurd ⟨hbare, hshared⟩ hk
  · rename_i hl
    constructor
    · rintro rfl; exact .kept fun hb => hl (hiff.2 hb)
    · rintro (⟨hbare, hshared⟩ | _)
      · exact absurd (hiff.2 ⟨hbare, hshared⟩) hl
      · rfl

/-! ## Linking twice -/

/-- A linked response has a reference, and a response with a reference is not linked. -/
theorem linkResponse_linkResponse (shared : OrderedMap Response) (code : String) (r : Response) :
    linkResponse shared code (linkResponse shared code r) = linkResponse shared code r := by
  by_cases h : (r.isUnlinked && shared.contains code) = true
  · have hlinked : linkResponse shared code r = .shared code := if_pos h
    rw [hlinked, linkResponse, isUnlinked_shared, Bool.false_and, if_neg Bool.false_ne_true]
  · have hkept : linkResponse shared code r = r := if_neg h
    rw [hkept, hkept]

theorem Operation.link_link (shared : OrderedMap Response) (o : Operation) :
    (o.link shared).link shared = o.link shared := by
  unfold Operation.link
  rw [OrderedMap.map_map_self (linkResponse_linkResponse shared)]

theorem Document.link_link (d : Document) : d.link.link = d.link := by
  unfold Document.link
  rw [OrderedMap.map_map_self fun _ item =>
    OrderedMap.map_map_self (fun _ o => o.link_link d.components.responses) item]

/-! ## The block that serves a method of a path -/

/-- The last element that has a value. -/
theorem getLast?_filterMap_eq_some_iff {α β : Type} {f : α → Option β} {l : List α} {b : β} :
    (l.filterMap f).getLast? = some b ↔
      ∃ before a after, l = before ++ a :: after ∧ f a = some b ∧ ∀ x ∈ after, f x = none := by
  rw [List.getLast?_filterMap, List.findSome?_eq_some_iff]
  constructor
  · rintro ⟨after, a, before, hl, ha, hafter⟩
    refine ⟨before.reverse, a, after.reverse, ?_, ha, fun x hx => hafter x (List.mem_reverse.1 hx)⟩
    rw [← l.reverse_reverse, hl]
    simp
  · rintro ⟨before, a, after, rfl, ha, hafter⟩
    exact ⟨after.reverse, a, before.reverse, by simp, ha,
      fun x hx => hafter x (List.mem_reverse.1 hx)⟩

/-- The last operation that is routed to a method of a path is that of the serving block. -/
theorem getLast?_routed_eq_some_iff {cs : List Command} {path method : String} {o : Operation} :
    ((routesOf cs).filterMap
        (routedOperation (addHandlers .empty (blocksOf cs)) path method)).getLast? = some o ↔
      ∃ b, Serves cs path method b ∧ o = b.operation := by
  rw [getLast?_filterMap_eq_some_iff]
  constructor
  · rintro ⟨before, route, after, hroutes, ho, hafter⟩
    obtain ⟨rfl, b, hb, rfl⟩ := routedOperation_eq_some_iff.1 ho
    refine ⟨b, ⟨before, route.2, after, hroutes, hb, fun later hmem b' hb' => ?_⟩, rfl⟩
    have hsome : routedOperation (addHandlers .empty (blocksOf cs)) route.1 method
        (route.1, later) = some b'.operation :=
      routedOperation_eq_some_iff.2 ⟨rfl, b', hb', rfl⟩
    rw [hafter _ hmem] at hsome
    cases hsome
  · rintro ⟨b, ⟨before, handler, after, hroutes, hb, hafter⟩, rfl⟩
    refine ⟨before, (path, handler), after, hroutes,
      routedOperation_eq_some_iff.2 ⟨rfl, b, hb, rfl⟩, fun route hroute => ?_⟩
    refine Option.eq_none_iff_forall_not_mem.2 fun o ho => ?_
    obtain ⟨hp, b', hb', -⟩ := routedOperation_eq_some_iff.1 ho
    exact hafter route.2 (hp ▸ hroute) b' hb'

/-! ## Finished documents -/

theorem ofCommands_responses_eq {api : String} {cs : List Command} {m : ApiModel}
    (h : ApiModel.ofCommands api cs = .ok m) :
    m.document.components.responses = .ofList (sharedOf cs) := by
  rw [ofCommands_eq_told h]
  rfl

theorem ofCommands_link {api : String} {cs : List Command} {m : ApiModel}
    (h : ApiModel.ofCommands api cs = .ok m) : m.document.link = m.document := by
  rw [ofCommands_eq_told h]
  exact Document.link_link _

/-- The responses of a finished document: under a status code of a method of a path stands what
becomes of the response that the serving block records for the code. The shared responses are the
last one of each status code, and linking the document again changes nothing. -/
theorem ofCommands_responses (api : String) (cs : List Command) (m : ApiModel)
    (h : ApiModel.ofCommands api cs = .ok m) :
    (∀ path method code r',
      (operationUnder m.document.paths path method).bind (·.responses.get? code) = some r' ↔
        ∃ b r, Serves cs path method b ∧ b.response? code = some r ∧ r.Becomes cs code r') ∧
    (∀ code, m.document.components.responses.get? code = sharedUnder? cs code) ∧
    m.document.link = m.document := by
  refine ⟨fun path method code r' => ?_, fun code => ?_, ofCommands_link h⟩
  · rw [ofCommands_operationUnder h, ofCommands_responses_eq h]
    constructor
    · intro hr
      obtain ⟨o', ho', hr⟩ := Option.bind_eq_some_iff.1 hr
      obtain ⟨o, ho, rfl⟩ := Option.map_eq_some_iff.1 ho'
      obtain ⟨b, hb, rfl⟩ := getLast?_routed_eq_some_iff.1 ho
      rw [Block.get?_responses_link] at hr
      obtain ⟨r, hrecorded, hlink⟩ := Option.map_eq_some_iff.1 hr
      have hreference := Block.reference_of_response? hrecorded
      exact ⟨b, r, hb, hrecorded, (linkResponse_eq_iff hreference).1 hlink⟩
    · rintro ⟨b, r, hb, hrecorded, hbecomes⟩
      have hreference := Block.reference_of_response? hrecorded
      have hlink := (linkResponse_eq_iff hreference).2 hbecomes
      rw [getLast?_routed_eq_some_iff.2 ⟨b, hb, rfl⟩, Option.map_some, Option.bind_some,
        Block.get?_responses_link, hrecorded, Option.map_some, hlink]
  · rw [ofCommands_responses_eq h, get?_sharedOf]

/-- A handler that is mounted at two paths, before and after its block, and names four responses. -/
def ticketCommands : List Command :=
  [⟨.route, ["/tickets", "sell"], none, none⟩,
   ⟨.code, ["404", "Gone"], none, none⟩,
   ⟨.beginHandler, ["sell"], none, none⟩,
   ⟨.method, ["POST"], none, none⟩,
   ⟨.response, ["200"], none, none⟩,
   ⟨.response, ["402", ""], none, none⟩,
   ⟨.response, ["404", "Sold", "out"], none, none⟩,
   ⟨.response, ["500", "\x7bProblem\x7d"], none, none⟩,
   ⟨.endHandler, [], none, none⟩,
   ⟨.route, ["/seats", "sell"], none, none⟩,
   ⟨.code, ["402", "Unpaid"], none, none⟩,
   ⟨.code, ["500", "Broken"], none, none⟩,
   ⟨.code, ["402", "\x7bInvoice\x7d", "Unpaid"], none, none⟩]

/-- Only the response with an empty description becomes a reference, at both paths: one is not
shared, one has a description of its own, and one has a schema. -/
theorem ofCommands_responses_tickets : ∃ m, ApiModel.ofCommands "" ticketCommands = .ok m ∧
    (∀ path ∈ ["/tickets", "/seats"], ∀ e ∈ [("200", {}), ("402", .shared "402"),
        ("404", .described "Sold out"),
        ("500", (Response.described "").withJson (.referTo "Problem"))],
      (operationUnder m.document.paths path "post").bind (·.responses.get? e.1) = some e.2) ∧
    m.document.components.responses.get? "402" =
      some ((Response.described "Unpaid").withJson (.referTo "Invoice")) ∧
    m.document.link = m.document := by
  obtain ⟨m, hm⟩ : ∃ m, ApiModel.ofCommands "" ticketCommands = .ok m := ⟨_, by rfl⟩
  obtain ⟨hresponses, hshared, hlink⟩ := ofCommands_responses "" ticketCommands m hm
  obtain ⟨b, hb, hrecorded⟩ : ∃ b, Answers ticketCommands "sell" "post" b ∧
      [b.response? "200", b.response? "402", b.response? "404", b.response? "500"] =
        [some {}, some (.described ""), some (.described "Sold out"),
          some ((Response.described "").withJson (.referTo "Problem"))] :=
    ⟨_, ⟨by rfl, by rfl⟩, by rfl⟩
  simp only [List.cons.injEq, and_true] at hrecorded
  obtain ⟨h200, h402, h404, h500⟩ := hrecorded
  have hserves : ∀ path ∈ ["/tickets", "/seats"], Serves ticketCommands path "post" b := by
    have hroutes : routesOf ticketCommands = [("/tickets", "sell"), ("/seats", "sell")] := by rfl
    simp only [List.forall_mem_cons, List.not_mem_nil, false_implies, implies_true, and_true]
    exact ⟨⟨[], _, _, hroutes, hb, by simp⟩, ⟨[("/tickets", "sell")], _, [], hroutes, hb, by simp⟩⟩
  refine ⟨m, hm, fun path hpath => ?_, (hshared "402").trans (by rfl), hlink⟩
  have hstands := fun code r' r hr hbecomes =>
    (hresponses path "post" code r').2 ⟨b, r, hserves path hpath, hr, hbecomes⟩
  simp only [List.forall_mem_cons, List.not_mem_nil, false_implies, implies_true, and_true]
  refine ⟨hstands _ _ _ h200 (.kept ?_), hstands _ _ _ h402 (.linked ?_ ?_),
    hstands _ _ _ h404 (.kept ?_), hstands _ _ _ h500 (.kept ?_)⟩
  · simp [Shares, ticketCommands, Command.status]
  · exact ⟨rfl, .inr rfl⟩
  · simp [Shares, ticketCommands, Command.status]
  · simp [Response.IsBare, Response.described]
  · simp [Response.IsBare, Response.withJson]

end ApiNotes
