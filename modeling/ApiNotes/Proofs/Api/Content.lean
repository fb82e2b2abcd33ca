/-
What a sequence of commands says, read off the commands alone: the last title, description, version
and file name, the servers with their variables, the responses by status code, and the types that
are mentioned. Together with the blocks and the routes this is all that a finished model holds, so
an accepted sequence gives the model that it tells.
-/
import ApiNotes.Proofs.Api.Block
import ApiNotes.Proofs.Api.Grammar
import ApiNotes.Proofs.Document.Occurrences

namespace ApiNotes

/-! ## What commands say -/

namespace Command

/-- The declared type that a command mentions. -/
def mentioned? (c : Command) : Option String :=
  (c.typeToken?.map typeNamed).bind TypeRef.referencedName

/-- The response that a `code` shares: a braced type with a description, or a description. -/
def sharedResponse (c : Command) : Response :=
  match c.args[1]?.filter fun token => (braced? token).isSome with
  | some token => (Response.described (c.textFrom 2)).withJson (.ofTypeRef (typeNamed token))
  | none => .described (c.textFrom 1)

end Command

/-- The text of the last command of a kind. -/
def lastText? (cs : List Command) (kind : Kind) : Option String :=
  (cs.filter (·.kind = kind)).getLast?.map (·.textFrom 0)

/-- The servers after a command: a `url` adds one, and a variable goes to the last of them. -/
def serversAfter (servers : List Server) (c : Command) : List Server :=
  match c.kind with
  | .url => servers ++ [{ url := c.args.getLastD "" }]
  | .urlVariable =>
    (addVariable (c.args.getD 0 "")
      { defaultValue := c.args.getD 1 "", description := nonEmpty? (c.textFrom 2) }
      servers).getD servers
  | _ => servers

/-- The responses that a sequence of commands shares, with their status codes, in order. -/
def sharedOf (cs : List Command) : List (String × Response) :=
  (cs.filter (·.kind = .code)).map fun c => (c.args.headD "", c.sharedResponse)

/-- The model that a sequence of commands tells. -/
def ApiModel.told (api : String) (cs : List Command) : ApiModel :=
  { name := api
    filename := lastText? cs .filename
    document := Document.link
      { info :=
          { title := (lastText? cs .title).getD ""
            description := lastText? cs .description
            version := (lastText? cs .version).getD "" }
        servers := cs.foldl serversAfter []
        paths := (addRoutes api (addHandlers .empty (blocksOf cs)) .empty (routesOf cs)).1
        components := { responses := .ofList (sharedOf cs) } }
    referenced := firstOccurrences (cs.filterMap Command.mentioned?) }

theorem lastText?_append (cs cs' : List Command) (kind : Kind) :
    lastText? (cs ++ cs') kind = (lastText? cs' kind).or (lastText? cs kind) := by
  unfold lastText?
  rw [List.filter_append, List.getLast?_append]
  cases (cs'.filter (·.kind = kind)).getLast? <;> rfl

theorem lastText?_singleton (c : Command) (kind : Kind) :
    lastText? [c] kind = if c.kind = kind then some (c.textFrom 0) else none := by
  unfold lastText?
  by_cases hk : c.kind = kind <;> simp [hk]

theorem sharedOf_append (cs cs' : List Command) :
    sharedOf (cs ++ cs') = sharedOf cs ++ sharedOf cs' := by
  simp [sharedOf]

theorem sharedOf_singleton (c : Command) :
    sharedOf [c] = if c.kind = .code then [(c.args.headD "", c.sharedResponse)] else [] := by
  unfold sharedOf
  by_cases hk : c.kind = .code <;> simp [hk]

theorem filter_sharedOf (cs : List Command) (code : String) :
    (sharedOf cs).filter (·.1 = code) =
      (cs.filter fun c => c.kind = .code ∧ c.args.headD "" = code).map
        fun c => (c.args.headD "", c.sharedResponse) := by
  unfold sharedOf
  rw [List.filter_map, List.filter_filter]
  simp [Bool.and_comm]

/-! ## Types that are mentioned -/

theorem responseOf_type {c : Command} {type : Option String} {r : Response} {t : Option TypeRef}
    (h : c.responseOf type = .ok (r, t)) :
    t = (type.filter fun token => (braced? token).isSome).map typeNamed := by
  have ht := congrArg Prod.snd (responseOf_eq_ok h)
  cases hf : type.filter fun token => (braced? token).isSome <;> rw [hf] at ht <;> exact ht

theorem Handler.Describes.mentions {h h' : Handler} {c : Command} {t : Option TypeRef}
    (hd : h.Describes c h' t) : t = c.typeToken?.map typeNamed := by
  cases hd with
  | body token rest t hk ha ht | query name token rest t hk ha ht =>
    simp [Command.typeToken?, hk, ha, typeOfToken_eq ht]
  | bareResponse code hk ha => simp [Command.typeToken?, hk, ha]
  | response code token rest response t hk ha hr =>
    simp [Command.typeToken?, hk, ha, responseOf_type hr]
  | _ => simp_all [Command.typeToken?]

theorem sharedResponse_eq {c : Command} {code : String} {rest : List String} {r : Response}
    {t : Option TypeRef} (ha : c.args = code :: rest)
    (h : c.responseOf rest.head? = .ok (r, t)) : r = c.sharedResponse := by
  have hr := congrArg Prod.fst (responseOf_eq_ok h)
  have hargs : c.args[1]? = rest.head? := by rw [ha, List.head?_eq_getElem?]; rfl
  rw [Command.sharedResponse, hargs]
  cases hf : rest.head?.filter fun token => (braced? token).isSome <;> rw [hf] at hr <;> exact hr

namespace Draft

variable {d d' : Draft} {c : Command} {cs : List Command}

@[simp]
theorem mention_filename (d : Draft) (t : Option TypeRef) :
    (d.mention t).model.filename = d.model.filename := by
  unfold mention ApiModel.refer; split <;> [split <;> rfl; rfl]

/-- The names that a draft refers to are the first occurrences of those that were mentioned. -/
theorem mention_referenced {t : Option TypeRef} {names : List String}
    (ht : t = c.typeToken?.map typeNamed) (h : d.model.referenced = firstOccurrences names) :
    (d.mention t).model.referenced =
      firstOccurrences (names ++ [c].filterMap Command.mentioned?) := by
  have hc : c.mentioned? = t.bind TypeRef.referencedName := by rw [ht]; rfl
  unfold mention
  cases hm : t.bind TypeRef.referencedName with
  | none =>
    rw [hm] at hc
    simpa [hc] using h
  | some name =>
    rw [hm] at hc
    rw [List.filterMap_cons_some hc, List.filterMap_nil, firstOccurrences_append_singleton]
    by_cases hmem : name ∈ names <;> simp [ApiModel.refer, h, hmem]

/-! ## What a run gathers -/

/-- What a sequence of commands makes of the model of a draft, apart from handlers and routes. -/
structure Gathers (d : Draft) (cs : List Command) (d' : Draft) : Prop where
  name : d'.model.name = d.model.name
  openapi : d'.model.document.openapi = d.model.document.openapi
  schemas : d'.model.document.components.schemas = d.model.document.components.schemas
  title : d'.model.document.info.title = (lastText? cs .title).getD d.model.document.info.title
  description : d'.model.document.info.description =
    (lastText? cs .description).or d.model.document.info.description
  version : d'.model.document.info.version =
    (lastText? cs .version).getD d.model.document.info.version
  filename : d'.model.filename = (lastText? cs .filename).or d.model.filename
  servers : d'.model.document.servers = cs.foldl serversAfter d.model.document.servers
  responses : d'.model.document.components.responses =
    (sharedOf cs).foldl (fun m e => m.insert e.1 e.2) d.model.document.components.responses
  referenced : ∀ names, d.model.referenced = firstOccurrences names →
    d'.model.referenced = firstOccurrences (names ++ cs.filterMap Command.mentioned?)

theorem Gathers.refl (d : Draft) : d.Gathers [] d := by
  constructor <;> simp [lastText?, sharedOf]

theorem Gathers.trans {d₁ d₂ d₃ : Draft} {cs cs' : List Command} (h : d₁.Gathers cs d₂)
    (h' : d₂.Gathers cs' d₃) : d₁.Gathers (cs ++ cs') d₃ where
  name := h'.name.trans h.name
  openapi := h'.openapi.trans h.openapi
  schemas := h'.schemas.trans h.schemas
  title := by
    rw [h'.title, h.title, lastText?_append]
    cases lastText? cs' .title <;> rfl
  description := by rw [h'.description, h.description, lastText?_append, Option.or_assoc]
  version := by
    rw [h'.version, h.version, lastText?_append]
    cases lastText? cs' .version <;> rfl
  filename := by rw [h'.filename, h.filename, lastText?_append, Option.or_assoc]
  servers := by rw [h'.servers, h.servers, List.foldl_append]
  responses := by rw [h'.responses, h.responses, sharedOf_append, List.foldl_append]
  referenced names hn := by
    rw [h'.referenced _ (h.referenced names hn), List.filterMap_append, List.append_assoc]

/-- A command that changes nothing but the open handler and what is closed gathers only the type
that it mentions. -/
theorem Gathers.of_mention {t : Option TypeRef} (hk : c.kind.isTopLevel = false)
    (ht : t = c.typeToken?.map typeNamed) (hm : d'.model = (d.mention t).model) :
    d.Gathers [c] d' := by
  have hlast : ∀ kind : Kind, kind.isTopLevel = true → lastText? [c] kind = none := by
    intro kind hkind
    rw [lastText?_singleton, if_neg fun he => by rw [he, hkind] at hk; cases hk]
  have hservers : serversAfter d.model.document.servers c = d.model.document.servers := by
    unfold serversAfter
    cases hc : c.kind <;> rw [hc] at hk <;> first | rfl | cases hk
  have hshared : sharedOf [c] = [] := by
    rw [sharedOf_singleton, if_neg fun he => by rw [he] at hk; cases hk]
  constructor <;> rw [hm]
  case referenced => exact fun names hn => mention_referenced ht hn
  all_goals
    simp [hlast .title rfl, hlast .description rfl, hlast .version rfl, hlast .filename rfl,
      hservers, hshared]

theorem Describes.gathers (hd : d.Describes c d') : d.Gathers [c] d' := by
  cases hd with
  | title hk | description hk | version _ hk ha | filename _ hk ha | route _ _ hk =>
    have hnone : c.mentioned? = none := by simp [Command.mentioned?, Command.typeToken?, hk]
    constructor <;>
      simp_all [editDocument, lastText?_singleton, serversAfter, sharedOf_singleton,
        Command.textFrom]
  | url url hk ha =>
    have hnone : c.mentioned? = none := by simp [Command.mentioned?, Command.typeToken?, hk]
    have hurl : c.args.getLastD "" = url := by
      rcases ha with ha | ⟨-, _, ha⟩ <;> simp [ha]
    constructor <;>
      simp_all [addServer, editDocument, lastText?_singleton, serversAfter, sharedOf_singleton]
  | urlVariable name value rest servers hk ha hs =>
    have hnone : c.mentioned? = none := by simp [Command.mentioned?, Command.typeToken?, hk]
    constructor <;>
      simp_all [editDocument, lastText?_singleton, serversAfter, sharedOf_singleton]
  | code code rest response t hk ha hr =>
    have hresponse := sharedResponse_eq ha hr
    have ht : t = c.typeToken?.map typeNamed := by
      simp [responseOf_type hr, Command.typeToken?, hk, ha, List.head?_eq_getElem?]
    constructor
    case referenced => exact fun names hn => mention_referenced ht hn
    all_goals
      simp [editDocument, lastText?_singleton, serversAfter, sharedOf_singleton, hk, ha, hresponse]

theorem Takes.gathers {w : List Warning} (ht : d.Takes c d' w) : d.Gathers [c] d' := by
  cases ht with
  | opens id hk =>
    exact .of_mention (t := none) (by rw [hk]; rfl) (by simp [Command.typeToken?, hk]) rfl
  | closes h hk =>
    exact .of_mention (t := none) (by rw [hk]; rfl) (by simp [Command.typeToken?, hk]) rfl
  | describes _ _ _ hd => exact (describe_eq_ok_iff.1 hd).gathers
  | details h h' t hk _ hd =>
    refine .of_mention (t := t) ?_ (Handler.describe_eq_ok_iff.1 hd).mentions rfl
    cases hc : c.kind <;> rw [hc] at hk <;> first | rfl | cases hk

theorem step_gathers {w : List Warning} (hs : d.step c = .ok (d', w)) : d.Gathers [c] d' := by
  cases hk : c.kind.isKnown with
  | true => exact ((step_eq_ok_iff hk).1 hs).gathers
  | false =>
    rw [step_unknown hk] at hs
    cases hs
    cases hc : c.kind with
    | unknown keyword =>
      exact .of_mention (t := none) (by rw [hc]; rfl) (by simp [Command.typeToken?, hc]) rfl
    | _ => rw [hc] at hk; cases hk

theorem applyAll_gathers (h : d.applyAll cs = .ok d') : d.Gathers cs d' := by
  induction cs generalizing d with
  | nil => cases h; exact .refl _
  | cons c rest ih =>
    obtain ⟨d₁, w, hs, hrest⟩ := applyAll_cons_eq_ok_iff.1 h
    exact (step_gathers hs).trans (ih hrest)

end Draft

/-- The model that an accepted sequence gives is the one that its commands tell. -/
theorem ofCommands_eq_told {api : String} {cs : List Command} {m : ApiModel}
    (h : ApiModel.ofCommands api cs = .ok m) : m = .told api cs := by
  obtain ⟨d, hrun, w, hf⟩ := ofCommands_eq_ok_iff.1 h
  have hreads : (Draft.start api).Reads (cs.foldl Block.next? none) (blocksOf cs) (routesOf cs) d :=
    Draft.applyAll_reads hrun rfl
  have hgathers := Draft.applyAll_gathers hrun
  obtain ⟨⟨name, filename, ⟨openapi, ⟨title, description, version⟩, servers, paths,
    ⟨responses, schemas⟩⟩, referenced⟩, current, handlers, routes⟩ := d
  obtain ⟨hcur, hhandlers, hroutes, hpaths⟩ := hreads
  obtain ⟨hname, hopenapi, hschemas, htitle, hdescription, hversion, hfilename, hservers,
    hresponses, hreferenced⟩ := hgathers
  have hreferenced := hreferenced [] rfl
  simp only [Draft.start, List.nil_append, Option.or_none] at *
  unfold Draft.finish at hf
  split at hf
  · cases hf
  · cases hf
    subst_vars
    rfl

end ApiNotes
