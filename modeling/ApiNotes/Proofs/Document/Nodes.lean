/-
The nodes of schemas and documents, and the walk that lists the names they refer to. A schema is a
node of another one if it is reached through elements and properties; the schemas of a document are
those of its parameters, bodies and responses, and those that it shares. The walk lists a name
exactly if some node refers to the shared schema of that name.
-/
import ApiNotes.Proofs.Document.Occurrences
import ApiNotes.Proofs.OrderedMap
import Mathlib.Data.List.Basic

namespace ApiNotes

namespace Schema

/-! ## Nodes of a schema -/

/-- A schema is a node of another one: it is that schema itself, or a node of its elements or of
one of its properties. -/
inductive IsNodeOf (n : Schema) : Schema → Prop
  | self : IsNodeOf n n
  | items {s i : Schema} : s.items = some i → IsNodeOf n i → IsNodeOf n s
  | property {s p : Schema} {entries : List (String × Schema)} {name : String} :
      s.properties = some entries → (name, p) ∈ entries → IsNodeOf n p → IsNodeOf n s

/-- What holds of a schema as soon as it holds of its elements and properties holds of all. -/
theorem inductionOn {motive : Schema → Prop} (s : Schema)
    (step : ∀ s : Schema, (∀ i, s.items = some i → motive i) →
      (∀ entries, s.properties = some entries → ∀ e ∈ entries, motive e.2) → motive s) :
    motive s := by
  refine @Schema.rec motive (fun o => ∀ entries, o = some entries → ∀ e ∈ entries, motive e.2)
    (fun o => ∀ i, o = some i → motive i) (fun entries => ∀ e ∈ entries, motive e.2)
    (fun e => motive e.2) ?_ ?_ ?_ ?_ ?_ ?_ ?_ ?_ s
  · intro type format properties items enumValues reference hp hi
    exact step _ hi hp
  · intro entries h; cases h
  · rintro entries h _ ⟨⟩; exact h
  · intro i h; cases h
  · rintro i h _ ⟨⟩; exact h
  · intro e h; cases h
  · intro e rest he hrest
    exact List.forall_mem_cons.2 ⟨he, hrest⟩
  · intro name s h; exact h

/-- The schemas right below a schema: that of its elements, then those of its properties. -/
def children (s : Schema) : List Schema :=
  s.items.toList ++ (s.properties.getD []).map Prod.snd

theorem mem_children {s child : Schema} :
    child ∈ s.children ↔ s.items = some child ∨
      ∃ entries, s.properties = some entries ∧ ∃ name, (name, child) ∈ entries := by
  rw [children, List.mem_append, Option.mem_toList]
  cases s.properties <;> simp

/-- What holds of a schema as soon as it holds of those right below it holds of all. -/
theorem childrenInduction {motive : Schema → Prop} (s : Schema)
    (step : ∀ s : Schema, (∀ child ∈ s.children, motive child) → motive s) : motive s := by
  refine inductionOn s fun s hitems hproperties => step s fun child hchild => ?_
  rcases mem_children.1 hchild with hi | ⟨entries, hp, name, he⟩
  · exact hitems child hi
  · exact hproperties entries hp _ he

theorem IsNodeOf.of_mem_children {n s child : Schema} (hchild : child ∈ s.children)
    (hn : n.IsNodeOf child) : n.IsNodeOf s := by
  rcases mem_children.1 hchild with hi | ⟨entries, hp, name, he⟩
  · exact .items hi hn
  · exact .property hp he hn

/-! ## Names in references -/

/-- A text names a shared schema exactly if it is the reference to it. -/
theorem nameOfReference?_eq_some_iff {reference name : String} :
    nameOfReference? reference = some name ↔ reference = schemaReference name := by
  unfold nameOfReference? schemaReference
  rw [← String.toList_inj, String.toList_append, Option.map_eq_some_iff]
  constructor
  · rintro ⟨rest, h, rfl⟩
    rw [String.toList_ofList]
    exact (List.isPrefixOf?_eq_some_iff_append_eq.1 h).symm
  · intro h
    exact ⟨name.toList, List.isPrefixOf?_eq_some_iff_append_eq.2 h.symm, String.ofList_toList⟩

theorem referenceName_eq_some_iff {s : Schema} {name : String} :
    s.referenceName = some name ↔ s.reference = some (schemaReference name) := by
  simp [referenceName, Option.bind_eq_some_iff, nameOfReference?_eq_some_iff]

/-! ## The walk of a schema -/

theorem referencesOfEntries_eq_flatMap (entries : List (String × Schema)) :
    referencesOfEntries entries = (entries.map Prod.snd).flatMap references := by
  induction entries with
  | nil => rfl
  | cons e rest ih => rw [referencesOfEntries, ih, List.map_cons, List.flatMap_cons]

/-- The walk lists the name of the node itself, then those of the schemas right below it. -/
theorem references_eq (s : Schema) :
    s.references = s.referenceName.toList ++ s.children.flatMap references := by
  obtain ⟨type, format, properties, items, enumValues, reference⟩ := s
  rw [references, children, List.flatMap_append, List.append_assoc]
  congr 2
  · cases items <;> simp [referencesOfItems]
  · cases properties <;> simp [referencesOfProperties, referencesOfEntries_eq_flatMap]

theorem mem_references {s : Schema} {name : String} :
    name ∈ s.references ↔
      s.referenceName = some name ∨ ∃ child ∈ s.children, name ∈ child.references := by
  rw [references_eq, List.mem_append, Option.mem_toList, List.mem_flatMap]

/-- The walk of a schema lists the names that its nodes refer to. -/
theorem mem_references_iff {s : Schema} {name : String} :
    name ∈ s.references ↔ ∃ n, IsNodeOf n s ∧ n.reference = some (schemaReference name) := by
  simp only [← referenceName_eq_some_iff]
  -- one way the induction is on the schema, the other way on the path to the node
  constructor
  · induction s using childrenInduction with
    | step s ih =>
      intro h
      rcases mem_references.1 h with h | ⟨child, hchild, h⟩
      · exact ⟨s, .self, h⟩
      · obtain ⟨n, hn, href⟩ := ih child hchild h
        exact ⟨n, hn.of_mem_children hchild, href⟩
  · rintro ⟨n, hn, href⟩
    induction hn with
    | self => exact mem_references.2 (.inl href)
    | items hi _ ih => exact mem_references.2 (.inr ⟨_, mem_children.2 (.inl hi), ih⟩)
    | property hp he _ ih =>
      exact mem_references.2 (.inr ⟨_, mem_children.2 (.inr ⟨_, hp, _, he⟩), ih⟩)

end Schema

/-! ## Schemas of a document -/

/-- A content map describes a body by a schema. -/
def ContentHasSchema (content : OrderedMap MediaType) (s : Schema) : Prop :=
  ∃ media ∈ content.values, media.schema = s

/-- A response has a body of the schema. -/
def Response.HasSchema (r : Response) (s : Schema) : Prop :=
  ∃ content, r.content = some content ∧ ContentHasSchema content s

/-- An operation has a parameter, a body or a response of the schema. -/
inductive Operation.HasSchema (o : Operation) (s : Schema) : Prop
  | parameter (p : Parameter) : p ∈ o.parameters → p.schema = s → HasSchema o s
  | body (b : RequestBody) : o.requestBody = some b → ContentHasSchema b.content s → HasSchema o s
  | response (r : Response) : r ∈ o.responses.values → r.HasSchema s → HasSchema o s

namespace Document

/-- The operation stands under some method of some path. -/
def HasOperation (d : Document) (o : Operation) : Prop :=
  ∃ item ∈ d.paths.values, o ∈ item.values

/-- The response stands under some status code of some operation. -/
def HasResponse (d : Document) (r : Response) : Prop :=
  ∃ o, d.HasOperation o ∧ r ∈ o.responses.values

/-- The schema stands in some operation, in a shared response or among the shared schemas. -/
inductive HasSchema (d : Document) (s : Schema) : Prop
  | operation (o : Operation) : d.HasOperation o → o.HasSchema s → HasSchema d s
  | response (r : Response) : r ∈ d.components.responses.values → r.HasSchema s → HasSchema d s
  | shared : s ∈ d.components.schemas.values → HasSchema d s

/-- The schema is a node of some schema of the document, at any depth. -/
def HasNode (d : Document) (n : Schema) : Prop :=
  ∃ s, d.HasSchema s ∧ n.IsNodeOf s

end Document

/-! ## The schemas of a document in a row -/

/-- The schemas of a content map, in the order of the media types. -/
def contentSchemas (content : OrderedMap MediaType) : List Schema :=
  content.values.map MediaType.schema

/-- The schemas of a response. -/
def Response.schemas (r : Response) : List Schema :=
  (r.content.map contentSchemas).getD []

/-- The schemas of an operation: those of its parameters, of its body and of its responses. -/
def Operation.schemas (o : Operation) : List Schema :=
  o.parameters.map Parameter.schema ++
    (o.requestBody.map fun b => contentSchemas b.content).getD [] ++
    o.responses.values.flatMap Response.schemas

/-- The schemas of a document: those of its operations, by path and then by method, those of the
shared responses, and the shared ones. -/
def Document.schemas (d : Document) : List Schema :=
  (d.paths.values.flatMap (·.values)).flatMap Operation.schemas ++
    d.components.responses.values.flatMap Response.schemas ++ d.components.schemas.values

theorem mem_contentSchemas {content : OrderedMap MediaType} {s : Schema} :
    s ∈ contentSchemas content ↔ ContentHasSchema content s :=
  List.mem_map

theorem Response.mem_schemas {r : Response} {s : Schema} : s ∈ r.schemas ↔ r.HasSchema s := by
  unfold schemas HasSchema
  cases r.content <;> simp [mem_contentSchemas]

theorem Operation.mem_schemas {o : Operation} {s : Schema} : s ∈ o.schemas ↔ o.HasSchema s := by
  unfold schemas
  simp only [List.mem_append, List.mem_map, List.mem_flatMap, Response.mem_schemas]
  constructor
  · rintro ((⟨p, hp, rfl⟩ | h) | ⟨r, hr, hs⟩)
    · exact .parameter p hp rfl
    · cases hb : o.requestBody with
      | none => simp [hb] at h
      | some b =>
        rw [hb] at h
        exact .body b hb (mem_contentSchemas.1 h)
    · exact .response r hr hs
  · rintro (⟨p, hp, hs⟩ | ⟨b, hb, hs⟩ | ⟨r, hr, hs⟩)
    · exact .inl (.inl ⟨p, hp, hs⟩)
    · rw [hb]
      exact .inl (.inr (mem_contentSchemas.2 hs))
    · exact .inr ⟨r, hr, hs⟩

theorem Document.mem_schemas {d : Document} {s : Schema} : s ∈ d.schemas ↔ d.HasSchema s := by
  unfold schemas
  simp only [List.mem_append, List.mem_flatMap, Operation.mem_schemas, Response.mem_schemas]
  constructor
  · rintro ((⟨o, ho, hs⟩ | ⟨r, hr, hs⟩) | hs)
    · exact .operation o ho hs
    · exact .response r hr hs
    · exact .shared hs
  · rintro (⟨o, ho, hs⟩ | ⟨r, hr, hs⟩ | hs)
    · exact .inl (.inl ⟨o, ho, hs⟩)
    · exact .inl (.inr ⟨r, hr, hs⟩)
    · exact .inr hs

/-! ## The walk of a document -/

theorem contentReferences_eq (content : OrderedMap MediaType) :
    contentReferences content = (contentSchemas content).flatMap Schema.references := by
  simp [contentReferences, contentSchemas, List.flatMap_map]

theorem Response.references_eq (r : Response) :
    r.references = r.schemas.flatMap Schema.references := by
  unfold references schemas
  cases r.content <;> simp [contentReferences_eq]

theorem Operation.references_eq (o : Operation) :
    o.references = o.schemas.flatMap Schema.references := by
  unfold references schemas
  cases o.requestBody <;>
    simp [contentReferences_eq, funext Response.references_eq, List.flatMap_map,
      List.flatMap_assoc]

namespace Document

/-- The walk of a document goes through its schemas one after the other. -/
theorem mentions_eq (d : Document) : d.mentions = d.schemas.flatMap Schema.references := by
  simp [mentions, schemas, funext Operation.references_eq, funext Response.references_eq,
    List.flatMap_assoc]

theorem mem_mentions {d : Document} {name : String} :
    name ∈ d.mentions ↔ ∃ s, d.HasSchema s ∧ name ∈ s.references := by
  simp only [mentions_eq, List.mem_flatMap, mem_schemas]

/-- The walk of a document lists the names that its nodes refer to. -/
theorem mem_mentions_iff {d : Document} {name : String} :
    name ∈ d.mentions ↔ ∃ n, d.HasNode n ∧ n.reference = some (schemaReference name) := by
  rw [mem_mentions]
  simp only [Schema.mem_references_iff]
  constructor
  · rintro ⟨s, hs, n, hn, href⟩
    exact ⟨n, ⟨s, hs, hn⟩, href⟩
  · rintro ⟨n, ⟨s, hs, hn⟩, href⟩
    exact ⟨s, hs, n, hn, href⟩

theorem mem_referencedSchemas_iff {d : Document} {name : String} :
    name ∈ d.referencedSchemas ↔ name ∈ d.mentions :=
  mem_firstOccurrences

end Document

end ApiNotes
