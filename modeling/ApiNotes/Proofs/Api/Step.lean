/-
What one command does to a draft, said once: a known command opens a handler, closes the open one,
describes the API while no handler is open, or describes the open handler. Everything else about
steps and runs follows from these four cases.
-/
import ApiNotes.Api.Finish
import ApiNotes.Proofs.Logged
import ApiNotes.Proofs.OrderedMap

namespace ApiNotes

/-! ## Kinds -/

/-- Whether commands of the kind stand outside of handlers. -/
def Kind.isTopLevel : Kind → Bool
  | .title | .description | .version | .filename | .url | .urlVariable | .code | .route => true
  | _ => false

theorem Kind.known_cases {k : Kind} (h : k.isKnown = true) :
    k = .beginHandler ∨ k = .endHandler ∨ k.isTopLevel = true ∨ k.isHandlerField = true := by
  cases k <;> simp_all [isKnown, isTopLevel, isHandlerField]

theorem Kind.isHandlerField_of_topLevel {k : Kind} (h : k.isTopLevel = true) :
    k.isHandlerField = false := by
  cases k <;> first | rfl | cases h

namespace Draft

variable {d d' : Draft} {c : Command} {w : List Warning}

/-! ## The four cases of a step -/

theorem step_beginHandler (hk : c.kind = .beginHandler) :
    d.step c = (d.openHandler c).map (·, []) := by
  unfold step; rw [hk]

theorem step_endHandler (hk : c.kind = .endHandler) : d.step c = d.closeHandler c := by
  unfold step; rw [hk]

theorem step_topLevel (hk : c.kind.isTopLevel = true) :
    d.step c = match d.current with
      | none => (d.describe c).map (·, [])
      | some h => .error (.notAllowedInHandler c.kind h.id) := by
  unfold step
  cases hc : c.kind <;> rw [hc] at hk <;> cases hk <;> cases d.current <;> rfl

theorem step_handlerField (hk : c.kind.isHandlerField = true) :
    d.step c = match d.current with
      | none => .error (.noOpenHandler c.kind)
      | some h => (h.describe c).map fun (h', t) =>
          ({ d.mention t with current := some h' }, []) := by
  unfold step
  cases hc : c.kind <;> rw [hc] at hk <;> cases hk <;> cases d.current <;> rfl

/-- What a known command can do to a draft. -/
inductive Takes (d : Draft) (c : Command) : Draft → List Warning → Prop
  | opens (id : String) : c.kind = .beginHandler → c.args = [id] → d.current = none →
      Takes d c { d with current := some (.start id c.location) } []
  | closes (h : Handler) : c.kind = .endHandler → c.args = [] ∨ c.args = [h.id] →
      d.current = some h → Takes d c (d.close h).1 (d.close h).2
  | describes (d' : Draft) : c.kind.isTopLevel = true → d.current = none →
      d.describe c = .ok d' → Takes d c d' []
  | details (h h' : Handler) (t : Option TypeRef) : c.kind.isHandlerField = true →
      d.current = some h → h.describe c = .ok (h', t) →
      Takes d c { d.mention t with current := some h' } []

theorem openHandler_eq_ok_iff :
    d.openHandler c = .ok d' ↔ ∃ id, c.args = [id] ∧ d.current = none ∧
      d' = { d with current := some (.start id c.location) } := by
  unfold openHandler
  rcases c.args with _ | ⟨id, _ | ⟨x, xs⟩⟩
  · simp
  · cases d.current <;> simp [eq_comm]
  · simp

theorem closeHandler_eq_ok_iff :
    d.closeHandler c = .ok (d', w) ↔ ∃ h, d.current = some h ∧
      (c.args = [] ∨ c.args = [h.id]) ∧ (d', w) = d.close h := by
  unfold closeHandler
  rcases c.args with _ | ⟨id, _ | ⟨x, xs⟩⟩
  · cases d.current <;> simp [eq_comm]
  · cases d.current with
    | none => simp
    | some h => by_cases hid : id = h.id <;> simp [hid, eq_comm]
  · simp

/-- A known command is accepted exactly in the four cases. -/
theorem step_eq_ok_iff (hk : c.kind.isKnown = true) :
    d.step c = .ok (d', w) ↔ d.Takes c d' w := by
  constructor
  · intro h
    rcases Kind.known_cases hk with hc | hc | hc | hc
    · rw [step_beginHandler hc] at h
      obtain ⟨d₁, h₁, h₂⟩ := map_eq_ok_iff.1 h
      cases h₂
      obtain ⟨id, ha, hcur, rfl⟩ := openHandler_eq_ok_iff.1 h₁
      exact .opens id hc ha hcur
    · rw [step_endHandler hc] at h
      obtain ⟨h', hcur, ha, hcl⟩ := closeHandler_eq_ok_iff.1 h
      cases hcl
      exact .closes h' hc ha hcur
    · rw [step_topLevel hc] at h
      cases hcur : d.current with
      | some h' => rw [hcur] at h; cases h
      | none =>
        rw [hcur] at h
        obtain ⟨d₁, h₁, h₂⟩ := map_eq_ok_iff.1 h
        cases h₂
        exact .describes d' hc hcur h₁
    · rw [step_handlerField hc] at h
      cases hcur : d.current with
      | none => rw [hcur] at h; cases h
      | some h₀ =>
        rw [hcur] at h
        obtain ⟨⟨h', t⟩, h₁, h₂⟩ := map_eq_ok_iff.1 h
        cases h₂
        exact .details h₀ h' t hc hcur h₁
  · rintro (⟨id, hc, ha, hcur⟩ | ⟨h, hc, ha, hcur⟩ | ⟨_, hc, hcur, hd⟩ | ⟨h, h', t, hc, hcur, hd⟩)
    · rw [step_beginHandler hc, openHandler_eq_ok_iff.2 ⟨id, ha, hcur, rfl⟩]
      rfl
    · rw [step_endHandler hc, closeHandler_eq_ok_iff.2 ⟨h, hcur, ha, rfl⟩]
      rfl
    · rw [step_topLevel hc, hcur, hd]
      rfl
    · rw [step_handlerField hc, hcur]
      simp only [hd]
      rfl

/-! ## What describing an API does -/

@[simp]
theorem mention_name (d : Draft) (t : Option TypeRef) :
    (d.mention t).model.name = d.model.name := by
  unfold mention ApiModel.refer; split <;> [split <;> rfl; rfl]

@[simp]
theorem mention_current (d : Draft) (t : Option TypeRef) : (d.mention t).current = d.current := by
  unfold mention; split <;> rfl

@[simp]
theorem mention_handlers (d : Draft) (t : Option TypeRef) :
    (d.mention t).handlers = d.handlers := by
  unfold mention; split <;> rfl

@[simp]
theorem mention_document (d : Draft) (t : Option TypeRef) :
    (d.mention t).model.document = d.model.document := by
  unfold mention ApiModel.refer; split <;> [split <;> rfl; rfl]

/-- What a command outside of handlers does to a draft, kind by kind. -/
inductive Describes (d : Draft) (c : Command) : Draft → Prop
  | title : c.kind = .title → c.args ≠ [] →
      Describes d c (d.editDocument fun doc =>
        { doc with info := { doc.info with title := c.textFrom 0 } })
  | description : c.kind = .description → c.args ≠ [] →
      Describes d c (d.editDocument fun doc =>
        { doc with info := { doc.info with description := some (c.textFrom 0) } })
  | version (version : String) : c.kind = .version → c.args = [version] →
      Describes d c (d.editDocument fun doc => { doc with info := { doc.info with version } })
  | filename (filename : String) : c.kind = .filename → c.args = [filename] →
      Describes d c { d with model := { d.model with filename := some filename } }
  | url (url : String) : c.kind = .url →
      c.args = [url] ∨ c.api = none ∧ (∃ api, c.args = [api, url]) →
      Describes d c (d.addServer url)
  | urlVariable (name defaultValue : String) (rest : List String) (servers : List Server) :
      c.kind = .urlVariable → c.args = name :: defaultValue :: rest →
      addVariable name { defaultValue, description := nonEmpty? (c.textFrom 2) }
        d.model.document.servers = some servers →
      Describes d c (d.editDocument fun doc => { doc with servers })
  | code (code : String) (rest : List String) (response : Response) (t : Option TypeRef) :
      c.kind = .code → c.args = code :: rest → c.responseOf rest.head? = .ok (response, t) →
      Describes d c ((d.mention t).editDocument fun doc => { doc with components :=
        { doc.components with responses := doc.components.responses.insert code response } })
  | route (path handler : String) : c.kind = .route → c.args = [path, handler] →
      Describes d c { d with routes := d.routes ++ [(path, handler)] }

theorem describe_eq_ok_iff : d.describe c = .ok d' ↔ d.Describes c d' := by
  constructor
  · intro h
    unfold describe at h
    -- each arm that accepts is a case of `Describes`; a `url` has two arms
    split at h
    · rename_i hk ha; cases h; exact .title hk (by simp [ha])
    · rename_i hk ha; cases h; exact .description hk (by simp [ha])
    · rename_i hk ha; cases h; exact .version _ hk ha
    · rename_i hk ha; cases h; exact .filename _ hk ha
    · rename_i hk ha; cases h; exact .url _ hk (.inl ha)
    · rename_i hk ha
      split at h
      · rename_i hapi; cases h; exact .url _ hk (.inr ⟨by simpa using hapi, _, ha⟩)
      · cases h
    · rename_i hk ha
      dsimp only at h
      split at h
      · rename_i hs; cases h; exact .urlVariable _ _ _ _ hk ha hs
      · cases h
    · rename_i hk ha
      split at h
      · cases h
      · rename_i hr; cases h; exact .code _ _ _ _ hk ha hr
    · rename_i hk ha; cases h; exact .route _ _ hk ha
    · cases h
  · rintro (⟨hk, ha⟩ | ⟨hk, ha⟩ | ⟨_, hk, ha⟩ | ⟨_, hk, ha⟩ | ⟨_, hk, ha | ⟨hapi, _, ha⟩⟩ |
      ⟨_, _, _, _, hk, ha, hs⟩ | ⟨_, _, _, _, hk, ha, hr⟩ | ⟨_, _, hk, ha⟩)
    · obtain ⟨x, xs, ha⟩ := List.exists_cons_of_ne_nil ha
      simp [describe, hk, ha]
    · obtain ⟨x, xs, ha⟩ := List.exists_cons_of_ne_nil ha
      simp [describe, hk, ha]
    all_goals simp_all [describe]

/-- Describing an API leaves its name, the open handler and the closed ones as they are. -/
theorem Describes.frame (h : d.Describes c d') :
    d'.model.name = d.model.name ∧ d'.current = d.current ∧ d'.handlers = d.handlers := by
  cases h with
  | code code rest response t => exact ⟨mention_name d t, mention_current d t, mention_handlers d t⟩
  | _ => exact ⟨rfl, rfl, rfl⟩

end Draft

namespace Handler

/-! ## What describing a handler does -/

variable {h h' : Handler} {c : Command} {t : Option TypeRef}

/-- What a command between `begin` and `end` does to a handler, kind by kind, and the type that it
mentions. -/
inductive Describes (h : Handler) (c : Command) : Handler → Option TypeRef → Prop
  | method (method : String) : c.kind = .method → c.args = [method] →
      Describes h c { h with method := some (Text.lowercase method) } none
  | summary : c.kind = .summary → c.args ≠ [] →
      Describes h c { h with operation := { h.operation with summary := some (c.textFrom 0) } } none
  | description : c.kind = .handlerDescription → c.args ≠ [] →
      Describes h c
        { h with operation := { h.operation with description := some (c.textFrom 0) } } none
  | tags : c.kind = .tags → c.args ≠ [] →
      Describes h c { h with operation := { h.operation with tags := c.args } } none
  | body (token : String) (rest : List String) (t : TypeRef) : c.kind = .body →
      c.args = token :: rest → typeOfToken c.kind token = .ok t →
      Describes h c { h with operation := { h.operation with
        requestBody := some { description := nonEmpty? (c.textFrom 1), required := true,
                              content := jsonContent (.ofTypeRef t) } } } (some t)
  | query (name token : String) (rest : List String) (t : TypeRef) : c.kind = .query →
      c.args = name :: token :: rest → typeOfToken c.kind token = .ok t →
      Describes h c { h with operation := { h.operation with
        parameters := h.operation.parameters ++
          [{ name, location := "query", description := nonEmpty? (c.textFrom 2), required := true,
             schema := .ofTypeRef t }] } } (some t)
  | bareResponse (code : String) : c.kind = .response → c.args = [code] →
      Describes h c (h.addResponse code {}) none
  | response (code token : String) (rest : List String) (response : Response)
      (t : Option TypeRef) : c.kind = .response → c.args = code :: token :: rest →
      c.responseOf (some token) = .ok (response, t) →
      Describes h c (h.addResponse code response) t

theorem describe_eq_ok_iff : h.describe c = .ok (h', t) ↔ h.Describes c h' t := by
  constructor
  · intro hd
    unfold describe at hd
    -- each arm that accepts is a case of `Describes`; a `response` has two arms
    split at hd
    · rename_i hk ha; cases hd; exact .method _ hk ha
    · rename_i hk ha; cases hd; exact .summary hk (by simp [ha])
    · rename_i hk ha; cases hd; exact .description hk (by simp [ha])
    · rename_i hk ha; cases hd; rw [← ha]; exact .tags hk (by simp [ha])
    · rename_i hk ha
      split at hd
      · cases hd
      · rename_i ht; cases hd; exact .body _ _ _ hk ha ht
    · rename_i hk ha
      split at hd
      · cases hd
      · rename_i ht; cases hd; exact .query _ _ _ _ hk ha ht
    · rename_i hk ha; cases hd; exact .bareResponse _ hk ha
    · rename_i hk ha
      split at hd
      · cases hd
      · rename_i hr; cases hd; exact .response _ _ _ _ _ hk ha hr
    · cases hd
  · rintro (⟨_, hk, ha⟩ | ⟨hk, ha⟩ | ⟨hk, ha⟩ | ⟨hk, ha⟩ | ⟨_, _, _, hk, ha, ht⟩ |
      ⟨_, _, _, _, hk, ha, ht⟩ | ⟨_, hk, ha⟩ | ⟨_, _, _, _, _, hk, ha, hr⟩)
    case summary | description | tags =>
      obtain ⟨x, xs, ha⟩ := List.exists_cons_of_ne_nil ha
      simp [describe, hk, ha]
    all_goals simp_all [describe]

/-- Describing a handler leaves its id and the place where it was opened as they are. -/
theorem Describes.frame (hd : h.Describes c h' t) : h'.id = h.id ∧ h'.openedAt = h.openedAt := by
  cases hd <;> exact ⟨rfl, rfl⟩

end Handler

/-! ## Steps and runs -/

namespace Draft

variable {d d' : Draft} {c : Command}

/-- A known command leaves the name of the API as it is. -/
theorem Takes.name {w : List Warning} (h : d.Takes c d' w) : d'.model.name = d.model.name := by
  cases h with
  | opens | closes => rfl
  | describes _ _ _ hd => exact (describe_eq_ok_iff.1 hd).frame.1
  | details h h' t => exact mention_name d t

theorem step_unknown (hk : c.kind.isKnown = false) : d.step c = .ok (d, []) := by
  unfold step
  cases hc : c.kind <;> rw [hc] at hk <;> first | rfl | cases hk

theorem apply_eq_ok_iff {w : List Warning} : d.apply c = .ok (d', w) ↔ d.step c = .ok (d', w) :=
  mapError_eq_ok_iff

theorem apply_name {w : List Warning} (h : d.apply c = .ok (d', w)) :
    d'.model.name = d.model.name := by
  rw [apply_eq_ok_iff] at h
  cases hk : c.kind.isKnown with
  | true => exact ((step_eq_ok_iff hk).1 h).name
  | false =>
    rw [step_unknown hk] at h
    cases h
    rfl

/-- The draft after a list of commands, all of them meant for it, or the first fault. -/
def applyAll (d : Draft) : List Command → Except StructuralError Draft
  | [] => .ok d
  | c :: rest =>
    match d.apply c with
    | .ok (d', _) => d'.applyAll rest
    | .error e => .error e

theorem applyAll_cons_eq_ok_iff {rest : List Command} {d'' : Draft} :
    d.applyAll (c :: rest) = .ok d'' ↔
      ∃ d' w, d.step c = .ok (d', w) ∧ d'.applyAll rest = .ok d'' := by
  simp only [← apply_eq_ok_iff, applyAll]
  cases d.apply c with
  | error e => simp
  | ok x => obtain ⟨d', w⟩ := x; simp

end Draft

/-- The document of one API that receives a list of commands. -/
def ApiModel.ofCommands (api : String) (commands : List Command) :
    Except StructuralError ApiModel :=
  match (Draft.start api).applyAll commands with
  | .ok d => d.finish.map Prod.fst
  | .error e => .error e

theorem ofCommands_eq_ok_iff {api : String} {commands : List Command} {m : ApiModel} :
    ApiModel.ofCommands api commands = .ok m ↔
      ∃ d, (Draft.start api).applyAll commands = .ok d ∧ ∃ w, d.finish = .ok (m, w) := by
  unfold ApiModel.ofCommands
  cases (Draft.start api).applyAll commands with
  | error e => simp
  | ok d =>
    simp only [map_eq_ok_iff, Prod.exists, Except.ok.injEq, exists_eq_left']
    constructor
    · rintro ⟨m', w, hd, rfl⟩; exact ⟨w, hd⟩
    · rintro ⟨w, hd⟩; exact ⟨m, w, hd, rfl⟩

end ApiNotes
