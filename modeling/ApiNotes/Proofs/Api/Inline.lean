/-
The schemas and references of a draft. Commands put only schemas of types into a draft, of the types
that their tokens name, and no response that refers to another one. Finishing the draft lets some
responses of operations refer, each to a response that is shared.

`Draft.IsInline` is what every command preserves, and `Document.IsLinked` is what finishing makes of
it; both are stated for any property `P` of schemas that the schemas of named types have.
-/
import ApiNotes.Proofs.Api.Grammar
import ApiNotes.Proofs.Document.Nodes

namespace ApiNotes

/-- The token of the command that has to name a type names this one. -/
def Command.Mentions (c : Command) (t : TypeRef) : Prop :=
  ∃ token, c.typeToken? = some token ∧ typeOfToken c.kind token = .ok t

/-- A response that refers to no other one and whose schemas have `P`. -/
structure Response.IsInline (P : Schema → Prop) (r : Response) : Prop where
  reference : r.reference = none
  schemas : ∀ s, r.HasSchema s → P s

/-- An operation whose schemas have `P` and whose responses refer to no others. -/
structure Operation.IsInline (P : Schema → Prop) (o : Operation) : Prop where
  parameters : ∀ p ∈ o.parameters, P p.schema
  body : ∀ b, o.requestBody = some b → ∀ s, ContentHasSchema b.content s → P s
  responses : ∀ r ∈ o.responses.values, r.IsInline P

/-- A draft whose document has no operations and no shared schemas yet, and whose handlers and
shared responses have schemas with `P` and refer to no other responses. -/
structure Draft.IsInline (P : Schema → Prop) (d : Draft) : Prop where
  paths : d.model.document.paths = .empty
  schemas : d.model.document.components.schemas = .empty
  shared : ∀ r ∈ d.model.document.components.responses.values, r.IsInline P
  current : ∀ h, d.current = some h → h.operation.IsInline P
  handlers : ∀ h ∈ d.handlers.values, h.operation.IsInline P

/-- A document whose schemas have `P`, and whose responses refer to shared ones if they stand in
operations and to none if they are shared themselves. -/
structure Document.IsLinked (P : Schema → Prop) (d : Document) : Prop where
  schemas : ∀ s, d.HasSchema s → P s
  responses : ∀ r, d.HasResponse r → ∀ reference, r.reference = some reference →
    ∃ code ∈ d.components.responses.keys, reference = responseReferenceLead ++ code
  shared : ∀ r ∈ d.components.responses.values, r.reference = none

variable {P : Schema → Prop}

/-! ## Responses and operations -/

theorem contentHasSchema_jsonContent {s s' : Schema} :
    ContentHasSchema (jsonContent s) s' ↔ s = s' := by
  simp [ContentHasSchema, jsonContent]

/-- A response without a body and a reference has nothing to be checked. -/
theorem Response.IsInline.of_bodiless {r : Response} (href : r.reference = none)
    (hbody : r.content = none) : r.IsInline P := by
  refine ⟨href, ?_⟩
  rintro s ⟨content, hc, -⟩
  rw [hbody] at hc
  cases hc

/-- The response of a status code has the schema of the type that the command names, if any. -/
theorem responseOf_isInline {c : Command} {type : Option String} {r : Response}
    {t : Option TypeRef} (hP : ∀ t, c.Mentions t → P (.ofTypeRef t))
    (htype : c.typeToken? = type.filter fun token => (braced? token).isSome)
    (h : c.responseOf type = .ok (r, t)) : r.IsInline P := by
  unfold Command.responseOf at h
  split at h
  · rename_i token
    split at h
    · rename_i hb
      split at h
      · rename_i t ht
        cases h
        refine ⟨rfl, ?_⟩
        rintro s ⟨content, hc, hs⟩
        cases hc
        rw [← contentHasSchema_jsonContent.1 hs]
        exact hP t ⟨token, by simp [htype, Option.filter, hb], ht⟩
      · cases h
    · cases h
      exact .of_bodiless rfl rfl
  · cases h
    exact .of_bodiless rfl rfl

theorem Handler.addResponse_isInline {h : Handler} {code : String} {r : Response}
    (hh : h.operation.IsInline P) (hr : r.IsInline P) :
    (h.addResponse code r).operation.IsInline P :=
  ⟨hh.parameters, hh.body, OrderedMap.forall_values_insert hr hh.responses⟩

/-- Describing a handler adds schemas of the types that the command names only. -/
theorem Handler.Describes.isInline {h h' : Handler} {c : Command} {t : Option TypeRef}
    (hd : h.Describes c h' t) (hP : ∀ t, c.Mentions t → P (.ofTypeRef t))
    (hh : h.operation.IsInline P) : h'.operation.IsInline P := by
  cases hd with
  | method | summary | description | tags => exact ⟨hh.parameters, hh.body, hh.responses⟩
  | body token rest t hk ha ht =>
    refine ⟨hh.parameters, fun b hb s hs => ?_, hh.responses⟩
    cases hb
    rw [← contentHasSchema_jsonContent.1 hs]
    exact hP t ⟨token, by simp [Command.typeToken?, hk, ha], ht⟩
  | query name token rest t hk ha ht =>
    refine ⟨fun p hp => ?_, hh.body, hh.responses⟩
    rcases List.mem_append.1 hp with hp | hp
    · exact hh.parameters p hp
    · cases List.mem_singleton.1 hp
      exact hP t ⟨token, by simp [Command.typeToken?, hk, ha], ht⟩
  | bareResponse code => exact addResponse_isInline hh (.of_bodiless rfl rfl)
  | response code token rest r t hk ha hr =>
    exact addResponse_isInline hh
      (responseOf_isInline hP (by simp [Command.typeToken?, hk, ha]) hr)

/-! ## Steps and runs -/

namespace Draft

variable {d d' : Draft} {c : Command}

theorem start_isInline (name : String) : (start name).IsInline P :=
  ⟨rfl, rfl, by simp [start], by simp [start], by simp [start]⟩

/-- Describing an API adds shared responses with schemas of the types that the command names. -/
theorem Describes.isInline (hd : d.Describes c d') (hP : ∀ t, c.Mentions t → P (.ofTypeRef t))
    (h : d.IsInline P) : d'.IsInline P := by
  cases hd with
  | code code rest r t hk ha hr =>
    have hr' : r.IsInline P := responseOf_isInline hP
      (by simp [Command.typeToken?, hk, ha, List.head?_eq_getElem?]) hr
    refine ⟨?_, ?_, ?_, ?_, ?_⟩
    · simp [editDocument, h.paths]
    · simp [editDocument, h.schemas]
    · simpa [editDocument] using OrderedMap.forall_values_insert hr' h.shared
    · simpa [editDocument] using h.current
    · simpa [editDocument] using h.handlers
  | _ => exact ⟨h.paths, h.schemas, h.shared, h.current, h.handlers⟩

/-- A known command keeps a draft inline if the schemas of the types that it names have `P`. -/
theorem Takes.isInline {w : List Warning} (ht : d.Takes c d' w)
    (hP : ∀ t, c.Mentions t → P (.ofTypeRef t)) (h : d.IsInline P) : d'.IsInline P := by
  cases ht with
  | opens id =>
    refine ⟨h.paths, h.schemas, h.shared, ?_, h.handlers⟩
    -- a handler starts without parameters, body and responses
    rintro _ ⟨⟩
    exact ⟨by simp [Handler.start], by simp [Handler.start], by simp [Handler.start]⟩
  | closes h₀ _ _ hcur =>
    refine ⟨h.paths, h.schemas, h.shared, by simp [close], ?_⟩
    exact OrderedMap.forall_values_insert (h.current h₀ hcur) h.handlers
  | describes _ _ _ hd => exact (describe_eq_ok_iff.1 hd).isInline hP h
  | details h₀ h' t _ hcur hd =>
    refine ⟨by simp [h.paths], by simp [h.schemas], by simpa using h.shared, ?_,
      by simpa using h.handlers⟩
    rintro _ ⟨⟩
    exact (Handler.describe_eq_ok_iff.1 hd).isInline hP (h.current h₀ hcur)

theorem step_isInline {w : List Warning} (hs : d.step c = .ok (d', w))
    (hP : ∀ t, c.Mentions t → P (.ofTypeRef t)) (h : d.IsInline P) : d'.IsInline P := by
  cases hk : c.kind.isKnown with
  | true => exact ((step_eq_ok_iff hk).1 hs).isInline hP h
  | false =>
    rw [step_unknown hk] at hs
    cases hs
    exact h

theorem applyAll_isInline {cs : List Command} (hrun : d.applyAll cs = .ok d')
    (hP : ∀ c ∈ cs, ∀ t, c.Mentions t → P (.ofTypeRef t)) (h : d.IsInline P) :
    d'.IsInline P := by
  induction cs generalizing d with
  | nil => cases hrun; exact h
  | cons c rest ih =>
    obtain ⟨d₁, w, hs, hrest⟩ := applyAll_cons_eq_ok_iff.1 hrun
    obtain ⟨hc, hcs⟩ := List.forall_mem_cons.1 hP
    exact ih hrest hcs (step_isInline hs hc h)

end Draft

/-! ## Finishing -/

theorem addRoute_operations {Q : Operation → Prop} {api path handler : String}
    {handlers : OrderedMap Handler} {paths : OrderedMap PathItem}
    (hh : ∀ h ∈ handlers.values, Q h.operation)
    (hp : ∀ item ∈ paths.values, ∀ o ∈ item.values, Q o) :
    ∀ item ∈ (addRoute api handlers paths path handler).1.values, ∀ o ∈ item.values, Q o := by
  unfold addRoute
  cases hget : handlers.get? handler with
  | none => exact hp
  | some h =>
    cases hm : h.method with
    | none => simpa [hm] using hp
    | some method =>
      simp only [hm]
      refine OrderedMap.forall_values_insert (OrderedMap.forall_values_insert ?_ ?_) hp
      · exact hh h ((OrderedMap.mem_values_iff _ h).2 ⟨handler, hget⟩)
      · -- the operations that the path had before
        cases hitem : paths.get? path with
        | none => simp
        | some item => exact hp item ((OrderedMap.mem_values_iff _ item).2 ⟨path, hitem⟩)

/-- Routes put operations of handlers into the paths and no others. -/
theorem addRoutes_operations {Q : Operation → Prop} {api : String} {handlers : OrderedMap Handler}
    {routes : List (String × String)} {paths : OrderedMap PathItem}
    (hh : ∀ h ∈ handlers.values, Q h.operation)
    (hp : ∀ item ∈ paths.values, ∀ o ∈ item.values, Q o) :
    ∀ item ∈ (addRoutes api handlers paths routes).1.values, ∀ o ∈ item.values, Q o := by
  induction routes generalizing paths with
  | nil => exact hp
  | cons route rest ih => exact ih (addRoute_operations hh hp)

/-- A linked response is the response itself, or a reference to one that is shared. -/
theorem linkResponse_cases (shared : OrderedMap Response) (code : String) (r : Response) :
    linkResponse shared code r = r ∨
      shared.contains code = true ∧ linkResponse shared code r = .shared code := by
  unfold linkResponse
  split
  · rename_i h
    exact .inr ⟨(Bool.and_eq_true_iff.1 h).2, rfl⟩
  · exact .inl rfl

theorem mem_responses_link {shared : OrderedMap Response} {o : Operation} {r : Response}
    (h : r ∈ (o.link shared).responses.values) :
    r ∈ o.responses.values ∨ ∃ code ∈ shared.keys, r = .shared code := by
  obtain ⟨code, r₀, hr₀, rfl⟩ := (OrderedMap.mem_values_map _ _ r).1 h
  -- the status code of the response is the one it is shared under
  rcases linkResponse_cases shared code r₀ with hl | ⟨hc, hl⟩
  · rw [hl]
    exact .inl ((OrderedMap.mem_values_iff _ r₀).2 ⟨code, hr₀⟩)
  · exact .inr ⟨code, (OrderedMap.mem_keys_iff _ code).2 hc, hl⟩

/-- Linking takes bodies away from an operation, but adds none. -/
theorem hasSchema_link {shared : OrderedMap Response} {o : Operation} {s : Schema}
    (h : (o.link shared).HasSchema s) : o.HasSchema s := by
  cases h with
  | parameter p hp hs => exact .parameter p hp hs
  | body b hb hs => exact .body b hb hs
  | response r hr hs =>
    rcases mem_responses_link hr with hr | ⟨code, -, rfl⟩
    · exact .response r hr hs
    · -- a reference to a shared response has no body
      obtain ⟨content, hc, -⟩ := hs
      cases hc

theorem Operation.IsInline.schemas {o : Operation} (ho : o.IsInline P) {s : Schema}
    (h : o.HasSchema s) : P s := by
  cases h with
  | parameter p hp hs => exact hs ▸ ho.parameters p hp
  | body b hb hs => exact ho.body b hb s hs
  | response r hr hs => exact (ho.responses r hr).schemas s hs

/-- The operations of a linked document are those of the document, linked. -/
theorem hasOperation_link {doc : Document} {o : Operation} (h : doc.link.HasOperation o) :
    ∃ o₀, doc.HasOperation o₀ ∧ o = o₀.link doc.components.responses := by
  obtain ⟨_, hitem, ho⟩ := h
  obtain ⟨path, item, hpath, rfl⟩ := (OrderedMap.mem_values_map _ _ _).1 hitem
  obtain ⟨method, o₀, hmethod, rfl⟩ := (OrderedMap.mem_values_map _ _ _).1 ho
  exact ⟨o₀, ⟨item, (OrderedMap.mem_values_iff _ _).2 ⟨path, hpath⟩,
    (OrderedMap.mem_values_iff _ _).2 ⟨method, hmethod⟩⟩, rfl⟩

/-- A document of inline operations and inline shared responses that is linked. -/
theorem link_isLinked {doc : Document} (hschemas : doc.components.schemas = .empty)
    (hoperations : ∀ o, doc.HasOperation o → o.IsInline P)
    (hshared : ∀ r ∈ doc.components.responses.values, r.IsInline P) : doc.link.IsLinked P := by
  refine ⟨fun s hs => ?_, ?_, fun r hr => (hshared r hr).reference⟩
  · cases hs with
    | operation o ho hs =>
      obtain ⟨o₀, ho₀, rfl⟩ := hasOperation_link ho
      exact (hoperations o₀ ho₀).schemas (hasSchema_link hs)
    | response r hr hs => exact (hshared r hr).schemas s hs
    | shared hs =>
      have hnone : s ∈ doc.components.schemas.values := hs
      rw [hschemas] at hnone
      cases hnone
  · rintro r ⟨o, ho, hr⟩ reference href
    obtain ⟨o₀, ho₀, rfl⟩ := hasOperation_link ho
    rcases mem_responses_link hr with hr | ⟨code, hcode, rfl⟩
    · rw [((hoperations o₀ ho₀).responses r hr).reference] at href
      cases href
    · cases href
      exact ⟨code, hcode, rfl⟩

theorem finish_isLinked {d : Draft} {m : ApiModel} {w : List Warning}
    (hf : d.finish = .ok (m, w)) (h : d.IsInline P) : m.document.IsLinked P := by
  unfold Draft.finish at hf
  split at hf
  · cases hf
  · cases hf
    refine link_isLinked h.schemas ?_ h.shared
    rintro o ⟨item, hitem, ho⟩
    refine addRoutes_operations h.handlers ?_ item hitem o ho
    rw [h.paths]
    simp

/-- The document of an API is linked, and its schemas have what the schemas of all types have that
its commands name. -/
theorem ofCommands_isLinked {api : String} {cs : List Command} {m : ApiModel}
    (h : ApiModel.ofCommands api cs = .ok m)
    (hP : ∀ c ∈ cs, ∀ t, c.Mentions t → P (.ofTypeRef t)) : m.document.IsLinked P := by
  obtain ⟨d, hrun, w, hf⟩ := ofCommands_eq_ok_iff.1 h
  exact finish_isLinked hf (Draft.applyAll_isInline hrun hP (Draft.start_isInline api))

end ApiNotes
