/-
Documents read back. The properties of a schema are a list of entries, which stands for a map if it
is ascending. A document in which all properties are ascending is written as a plain value, and
reading the value restores the document: what is left out is absent or empty, and comes back as
absent or empty, so a list or map that is there and empty is not mistaken for one that is absent.
-/
import ApiNotes.Format
import ApiNotes.Proofs.Document.Nodes
import ApiNotes.Proofs.Json.Reader

namespace ApiNotes

open Json

/-! ## Schemas -/

namespace Schema

/-- The properties of the schema are maps at any depth. -/
def IsOrdered (s : Schema) : Prop :=
  ∀ n, IsNodeOf n s → ∀ entries, n.properties = some entries →
    entries.Pairwise (fun a b => a.1 < b.1)

variable {s : Schema}

/-- The order is told node by node: by the properties of the schema itself, then by those of the
elements and of the properties. -/
theorem IsOrdered.intro
    (hself : ∀ entries, s.properties = some entries → entries.Pairwise (fun a b => a.1 < b.1))
    (hitems : ∀ i, s.items = some i → i.IsOrdered)
    (hproperties : ∀ entries, s.properties = some entries → ∀ e ∈ entries, e.2.IsOrdered) :
    s.IsOrdered := by
  intro n hn
  cases hn with
  | self => exact hself
  | items hi hn => exact hitems _ hi n hn
  | property hp he hn => exact hproperties _ hp _ he n hn

/-- A schema without elements and properties is ordered. -/
theorem IsOrdered.of_leaf (hitems : s.items = none) (hproperties : s.properties = none) :
    s.IsOrdered :=
  .intro (by simp [hproperties]) (by simp [hitems]) (by simp [hproperties])

theorem IsOrdered.items (h : s.IsOrdered) {i : Schema} (hi : s.items = some i) : i.IsOrdered :=
  fun n hn => h n (.items hi hn)

theorem IsOrdered.property (h : s.IsOrdered) {entries : List (String × Schema)}
    (hp : s.properties = some entries) : ∀ e ∈ entries, e.2.IsOrdered :=
  fun _ he n hn => h n (.property hp he hn)

theorem IsOrdered.properties (h : s.IsOrdered) {entries : List (String × Schema)}
    (hp : s.properties = some entries) : entries.Pairwise (fun a b => a.1 < b.1) :=
  h s .self entries hp

/-! ### Writing -/

theorem entriesToJson_eq (entries : List (String × Schema)) :
    entriesToJson entries = entries.map fun e => (e.1, e.2.toJson) := by
  induction entries with
  | nil => rfl
  | cons e rest ih => rw [entriesToJson, ih, List.map_cons]

theorem itemsToJson_eq (items : Option Schema) : itemsToJson items = items.map toJson := by
  cases items <;> rfl

theorem propertiesToJson_eq (properties : Option (List (String × Schema))) :
    propertiesToJson properties =
      properties.map fun entries => .object (entriesToJson entries) := by
  cases properties <;> rfl

/-- No member of a schema is written twice, at any depth. -/
theorem toJson_isPlain (h : s.IsOrdered) : s.toJson.IsPlain := by
  induction s using inductionOn with
  | step s hitems hproperties =>
    obtain ⟨type, format, properties, items, enumValues, reference⟩ := s
    have hprop : Writes ["properties"] (optional "properties" (propertiesToJson properties)) := by
      refine .optional fun v hv => ?_
      rw [propertiesToJson_eq, Option.map_eq_some_iff] at hv
      obtain ⟨entries, he, rfl⟩ := hv
      rw [entriesToJson_eq]
      refine .object ?_ (List.forall_mem_map.2 fun e hmem =>
        hproperties entries he e hmem (h.property he e hmem))
      rw [List.map_map]
      exact OrderedMap.nodup_keys (h.properties he)
    have hitem : Writes ["items"] (optional "items" (itemsToJson items)) := by
      refine .optional fun v hv => ?_
      rw [itemsToJson_eq, Option.map_eq_some_iff] at hv
      obtain ⟨i, hi, rfl⟩ := hv
      exact hitems i hi (h.items hi)
    have henum : Writes ["enum"] (optional "enum" (enumValues.map strings)) :=
      .nullable fun l _ => readsBack_strings l
    exact ((((((Writes.nullableString type).append (.nullableString format)).append hprop).append
      hitem).append henum).append (.nullableString reference)).isPlain (by decide)

/-! ### Reading -/

theorem ofMembers?_append (s : Schema) (members others : List (String × Json)) :
    ofMembers? s (members ++ others) = (ofMembers? s members).bind (ofMembers? · others) := by
  induction members generalizing s with
  | nil => rfl
  | cons m rest ih =>
    obtain ⟨name, v⟩ := m
    rw [List.cons_append, ofMembers?, ofMembers?]
    cases setMember? s name v with
    | none => rfl
    | some t => exact ih t

theorem ofMembers?_optional (s : Schema) (key : String) (o : Option Json) :
    ofMembers? s (optional key o) = (o.map (setMember? s key)).getD (some s) := by
  cases o with
  | none => rfl
  | some v =>
    show ofMembers? s [(key, v)] = setMember? s key v
    rw [ofMembers?]
    cases setMember? s key v <;> rfl

theorem setMember?_items (s i : Schema) :
    setMember? s "items" i.toJson =
      (ofJson? i.toJson).map fun items => { s with items := some items } := by
  obtain ⟨type, format, properties, items, enumValues, reference⟩ := i
  rfl

theorem setMember?_properties (s : Schema) (members : List (String × Json)) :
    setMember? s "properties" (.object members) = (entriesOfJson? members).map fun entries =>
      { s with properties := some (OrderedMap.ofList entries).entries } := by
  rw [setMember?, if_pos rfl]

theorem setMember?_enum (s : Schema) (values : List String) :
    setMember? s "enum" (strings values) = some { s with enumValues := some values } := by
  have hread : list? string? (strings values) = some values := (readsBack_strings values).read
  show (nullable? (list? string?) (some (strings values))).map _ = _
  rw [nullable?_some (readsBack_strings values).plain.ne_null, hread]
  rfl

theorem entriesOfJson?_entriesToJson {entries : List (String × Schema)}
    (h : ∀ e ∈ entries, ofJson? e.2.toJson = some e.2) :
    entriesOfJson? (entriesToJson entries) = some entries := by
  induction entries with
  | nil => rfl
  | cons e rest ih =>
    obtain ⟨name, s⟩ := e
    obtain ⟨hs, hrest⟩ := List.forall_mem_cons.1 h
    rw [entriesToJson, entriesOfJson?, hs, ih hrest]

/-- Reading restores a schema member by member. -/
theorem ofJson?_toJson (h : s.IsOrdered) : ofJson? s.toJson = some s := by
  induction s using inductionOn with
  | step s hitems hproperties =>
    obtain ⟨type, format, properties, items, enumValues, reference⟩ := s
    have htype : ofMembers? {} (optional "type" (type.map .string)) = some { type } := by
      cases type <;> rfl
    have hformat : ofMembers? { type } (optional "format" (format.map .string)) =
        some { type, format } := by
      cases format <;> rfl
    have hprop : ofMembers? { type, format } (optional "properties" (propertiesToJson properties)) =
        some { type, format, properties } := by
      rw [propertiesToJson_eq, ofMembers?_optional]
      cases properties with
      | none => rfl
      | some entries =>
        have hread : entriesOfJson? (entriesToJson entries) = some entries :=
          entriesOfJson?_entriesToJson fun e he =>
            hproperties entries rfl e he (h.property rfl e he)
        simp only [Option.map_some, Option.getD_some, setMember?_properties, hread,
          OrderedMap.entries_ofList (h.properties rfl)]
    have hitem : ofMembers? { type, format, properties } (optional "items" (itemsToJson items)) =
        some { type, format, properties, items } := by
      rw [itemsToJson_eq, ofMembers?_optional]
      cases items with
      | none => rfl
      | some i =>
        simp only [Option.map_some, Option.getD_some, setMember?_items, hitems i rfl (h.items rfl)]
    have henum : ofMembers? { type, format, properties, items }
        (optional "enum" (enumValues.map strings)) =
        some { type, format, properties, items, enumValues } := by
      rw [ofMembers?_optional]
      cases enumValues with
      | none => rfl
      | some values => exact setMember?_enum _ values
    have href : ofMembers? { type, format, properties, items, enumValues }
        (optional "$ref" (reference.map .string)) =
        some { type, format, properties, items, enumValues, reference } := by
      cases reference <;> rfl
    rw [toJson, ofJson?]
    simp only [ofMembers?_append, htype, hformat, hprop, hitem, henum, href, Option.bind_some]

theorem readsBack (h : s.IsOrdered) : ReadsBack ofJson? toJson s :=
  ⟨toJson_isPlain h, ofJson?_toJson h⟩

end Schema

/-! ## The other parts -/

theorem Info.readsBack (i : Info) : ReadsBack ofJson? toJson i where
  plain := (((Writes.member (.string _)).append (.nullableString _)).append
    (.member (.string _))).isPlain (by decide)
  read := by simp [ofJson?, toJson, List.lookup_append]

theorem ServerVariable.readsBack (x : ServerVariable) : ReadsBack ofJson? toJson x where
  plain := ((Writes.member (.string _)).append (.nullableString _)).isPlain (by decide)
  read := by simp [ofJson?, toJson, List.lookup_append]

theorem Server.readsBack (s : Server) : ReadsBack ofJson? toJson s := by
  have hvars : ReadsBack (OrderedMap.ofJson? ServerVariable.ofJson?)
      (OrderedMap.toJson ServerVariable.toJson) s.vars := .map fun x _ => x.readsBack
  refine ⟨((Writes.member (.string _)).append (.unlessEmpty _ hvars.plain)).isPlain (by decide), ?_⟩
  simp [ofJson?, toJson, List.lookup_append, orDefault?_ite hvars OrderedMap.eq_empty_of_isEmpty]

/-! ### Parts with schemas -/

theorem MediaType.readsBack {m : MediaType} (h : m.schema.IsOrdered) :
    ReadsBack ofJson? toJson m where
  plain := (Writes.member (Schema.toJson_isPlain h)).isPlain (by decide)
  read := by simp [ofJson?, toJson, Schema.ofJson?_toJson h]

theorem readsBack_content {content : OrderedMap MediaType}
    (h : ∀ s, ContentHasSchema content s → s.IsOrdered) :
    ReadsBack (OrderedMap.ofJson? MediaType.ofJson?) (OrderedMap.toJson MediaType.toJson) content :=
  .map fun m hm => MediaType.readsBack (h m.schema ⟨m, hm, rfl⟩)

theorem Parameter.readsBack {p : Parameter} (h : p.schema.IsOrdered) :
    ReadsBack ofJson? toJson p where
  plain := (((((Writes.member (.string _)).append (.member (.string _))).append
    (.nullableString _)).append (.member (.bool _))).append
    (.member (Schema.toJson_isPlain h))).isPlain (by decide)
  read := by simp [ofJson?, toJson, List.lookup_append, Schema.ofJson?_toJson h]

theorem RequestBody.readsBack {b : RequestBody}
    (h : ∀ s, ContentHasSchema b.content s → s.IsOrdered) : ReadsBack ofJson? toJson b where
  plain := (((Writes.nullableString _).append (.member (.bool _))).append
    (.member (readsBack_content h).plain)).isPlain (by decide)
  read := by simp [ofJson?, toJson, List.lookup_append, (readsBack_content h).read]

theorem Response.readsBack {r : Response} (h : ∀ s, r.HasSchema s → s.IsOrdered) :
    ReadsBack ofJson? toJson r := by
  have hcontent : ∀ content, r.content = some content → ReadsBack
      (OrderedMap.ofJson? MediaType.ofJson?) (OrderedMap.toJson MediaType.toJson) content :=
    fun content hc => readsBack_content fun s hs => h s ⟨content, hc, hs⟩
  refine ⟨(((Writes.nullableString _).append (.nullableString _)).append
    (.nullable hcontent)).isPlain (by decide), ?_⟩
  simp [ofJson?, toJson, List.lookup_append, nullable?_map hcontent]

theorem Operation.readsBack {o : Operation} (h : ∀ s, o.HasSchema s → s.IsOrdered) :
    ReadsBack ofJson? toJson o := by
  have hparameters : ReadsBack (list? Parameter.ofJson?)
      (fun l => .array (l.map Parameter.toJson)) o.parameters :=
    .list fun p hp => Parameter.readsBack (h p.schema (.parameter p hp rfl))
  have hbody : ∀ b, o.requestBody = some b → ReadsBack RequestBody.ofJson? RequestBody.toJson b :=
    fun b hb => RequestBody.readsBack fun s hs => h s (.body b hb hs)
  have hresponses : ReadsBack (OrderedMap.ofJson? Response.ofJson?)
      (OrderedMap.toJson Response.toJson) o.responses :=
    .map fun r hr => Response.readsBack fun s hs => h s (.response r hr hs)
  refine ⟨(((((((Writes.nullableString _).append (.nullableString _)).append
    (.nullableString _)).append (.unlessEmpty _ (readsBack_strings _).plain)).append
    (.unlessEmpty _ hparameters.plain)).append (.nullable hbody)).append
    (.member hresponses.plain)).isPlain (by decide), ?_⟩
  simp [ofJson?, toJson, List.lookup_append,
    orDefault?_ite (readsBack_strings o.tags) List.isEmpty_iff.1,
    orDefault?_ite hparameters List.isEmpty_iff.1, nullable?_map hbody, orDefault?_some hresponses,
    -List.isEmpty_iff]

theorem Components.readsBack {c : Components}
    (hresponses : ∀ r ∈ c.responses.values, ∀ s, r.HasSchema s → s.IsOrdered)
    (hschemas : ∀ s ∈ c.schemas.values, s.IsOrdered) : ReadsBack ofJson? toJson c := by
  have hr : ReadsBack (OrderedMap.ofJson? Response.ofJson?) (OrderedMap.toJson Response.toJson)
      c.responses := .map fun r hr => Response.readsBack (hresponses r hr)
  have hs : ReadsBack (OrderedMap.ofJson? Schema.ofJson?) (OrderedMap.toJson Schema.toJson)
      c.schemas := .map fun s hs => Schema.readsBack (hschemas s hs)
  refine ⟨((Writes.unlessEmpty _ hr.plain).append
    (.unlessEmpty _ hs.plain)).isPlain (by decide), ?_⟩
  simp [ofJson?, toJson, List.lookup_append, orDefault?_ite hr OrderedMap.eq_empty_of_isEmpty,
    orDefault?_ite hs OrderedMap.eq_empty_of_isEmpty]

/-- Shared parts that are left out are those that come back. -/
theorem Components.eq_empty_of_isEmpty {c : Components} (h : c.isEmpty = true) : c = {} := by
  obtain ⟨responses, schemas⟩ := c
  obtain ⟨hr, hs⟩ := Bool.and_eq_true_iff.1 h
  cases OrderedMap.eq_empty_of_isEmpty hr
  cases OrderedMap.eq_empty_of_isEmpty hs
  rfl

/-! ## Documents -/

namespace Document

/-- The properties of all schemas of the document are maps. -/
def IsOrdered (d : Document) : Prop :=
  ∀ s, d.HasSchema s → s.IsOrdered

/-- An ordered document is written as a plain value, and restored from it. -/
theorem readsBack {d : Document} (h : d.IsOrdered) : ReadsBack ofJson? toJson d := by
  have hservers : ReadsBack (list? Server.ofJson?) (fun l => .array (l.map Server.toJson))
      d.servers := .list fun s _ => s.readsBack
  have hpaths : ReadsBack (OrderedMap.ofJson? (OrderedMap.ofJson? Operation.ofJson?))
      (OrderedMap.toJson (OrderedMap.toJson Operation.toJson)) d.paths :=
    .map fun item hitem => .map fun o ho => Operation.readsBack fun s hs =>
      h s (.operation o ⟨item, hitem, ho⟩ hs)
  have hcomponents : ReadsBack Components.ofJson? Components.toJson d.components :=
    Components.readsBack (fun r hr s hs => h s (.response r hr hs)) fun s hs => h s (.shared hs)
  refine ⟨(((((Writes.member (.string _)).append (.member d.info.readsBack.plain)).append
    (.unlessEmpty _ hservers.plain)).append (.member hpaths.plain)).append
    (.unlessEmpty _ hcomponents.plain)).isPlain (by decide), ?_⟩
  simp [ofJson?, toJson, List.lookup_append, d.info.readsBack.read,
    orDefault?_ite hservers List.isEmpty_iff.1, orDefault?_some hpaths,
    orDefault?_ite hcomponents Components.eq_empty_of_isEmpty, -List.isEmpty_iff]

/-- The text of a document in JSON reads back as the document, whatever it leaves out, with any
reader of texts that reads what is printed of plain values. -/
theorem render_json_readsBack (parse : String → Option Json)
    (hparse : ∀ v : Json, v.IsPlain → parse v.pretty = some v) (d : Document) (hd : d.IsOrdered) :
    (parse (d.render .json)).bind ofJson? = some d := by
  have hback : ReadsBack ofJson? toJson d := readsBack hd
  have htext : parse (d.render .json) = some d.toJson := hparse d.toJson hback.plain
  rw [htext, Option.bind_some, hback.read]

/-- Schemas, responses and paths that say nothing, or have an empty list or map. -/
def sparseDocument : Document where
  info := { title := "tab\tquote\"", description := some "" }
  paths := .ofList [("/", .empty), ("/a", .singleton "get" { operationId := some "\x01" })]
  components :=
    { responses := .ofList [("204", {}), ("404", { content := some .empty })]
      schemas := .ofList [("A", {}), ("B", { properties := some [], enumValues := some [] }),
        ("C", { items := some { properties := some [("a", {}), ("b", .ofType "object")] } })] }

/-- The sparse document reads back, with a reader of texts that reads all plain values. -/
theorem render_json_readsBack_sparse : sparseDocument.IsOrdered ∧
    (∀ v : Json, v.IsPlain → readText? v.pretty = some v) ∧
    (readText? (sparseDocument.render .json)).bind ofJson? = some sparseDocument := by
  have hpaths : sparseDocument.paths.values =
      [.empty, .singleton "get" { operationId := some "\x01" }] := by rfl
  have hresponses : sparseDocument.components.responses.values =
      [{}, { content := some .empty }] := by rfl
  have hschemas : sparseDocument.components.schemas.values =
      [{}, { properties := some [], enumValues := some [] },
        { items := some { properties := some [("a", {}), ("b", .ofType "object")] } }] := by rfl
  have hitems : Schema.IsOrdered { properties := some [("a", {}), ("b", .ofType "object")] } := by
    refine .intro ?_ (by simp) ?_
    · rintro _ ⟨⟩
      decide
    · rintro _ ⟨⟩
      simp [Schema.IsOrdered.of_leaf, Schema.ofType]
  have hordered : sparseDocument.IsOrdered := by
    intro s hs
    cases hs with
    | operation o ho hs =>
      obtain ⟨item, hitem, ho⟩ := ho
      rw [hpaths] at hitem
      rcases List.mem_pair.1 hitem with rfl | rfl
      · cases ho
      · cases List.mem_singleton.1 ho
        cases hs with
        | parameter p hp => cases hp
        | body b hb => cases hb
        | response r hr => cases hr
    | response r hr hs =>
      obtain ⟨content, hcontent, media, hmedia, -⟩ := hs
      rw [hresponses] at hr
      rcases List.mem_pair.1 hr with rfl | rfl <;> cases hcontent
      cases hmedia
    | shared hs =>
      rw [hschemas] at hs
      simp only [List.mem_cons, List.not_mem_nil, or_false] at hs
      rcases hs with rfl | rfl | rfl
      · exact .of_leaf rfl rfl
      · exact .intro (by simp) (by simp) (by simp)
      · exact .intro (by simp) (by rintro i ⟨⟩; exact hitems) (by simp)
  have hparse : ∀ v : Json, v.IsPlain → readText? v.pretty = some v := fun _ => readText?_pretty
  exact ⟨hordered, hparse, render_json_readsBack readText? hparse sparseDocument hordered⟩

end Document

end ApiNotes
