/-
What the schemas of types refer to. A type refers to the declared type that it mentions, through any
number of lists, and to nothing else; a declaration refers only to declared types that it mentions.
-/
import ApiNotes.Proofs.Document.Nodes
import ApiNotes.Symbol.Basic

namespace ApiNotes

namespace Schema

variable {P Q : String → Prop} {s : Schema}

/-- Every reference of a schema, at any depth, is one to the shared schema of a name with `P`. -/
def RefersIn (P : String → Prop) (s : Schema) : Prop :=
  ∀ n : Schema, n.IsNodeOf s → ∀ reference, n.reference = some reference →
    ∃ name, P name ∧ reference = schemaReference name

/-- References are told node by node: the one of the schema itself, then those of the elements and
of the properties. -/
theorem RefersIn.intro
    (hself : ∀ reference, s.reference = some reference →
      ∃ name, P name ∧ reference = schemaReference name)
    (hitems : ∀ i, s.items = some i → i.RefersIn P)
    (hproperties : ∀ entries, s.properties = some entries → ∀ e ∈ entries, e.2.RefersIn P) :
    s.RefersIn P := by
  intro n hn
  cases hn with
  | self => exact hself
  | items hi hn => exact hitems _ hi n hn
  | property hp he hn => exact hproperties _ hp _ he n hn

/-- A schema without references, elements and properties refers to nothing. -/
theorem RefersIn.of_leaf (href : s.reference = none) (hitems : s.items = none)
    (hproperties : s.properties = none) : s.RefersIn P :=
  .intro (by simp [href]) (by simp [hitems]) (by simp [hproperties])

theorem RefersIn.mono (h : s.RefersIn P) (hPQ : ∀ name, P name → Q name) : s.RefersIn Q := by
  intro n hn reference href
  obtain ⟨name, hname, rfl⟩ := h n hn reference href
  exact ⟨name, hPQ name hname, rfl⟩

/-- A schema whose references are to shared schemas refers only to what the walk lists. -/
theorem RefersIn.references (h : s.RefersIn P) : s.RefersIn (· ∈ s.references) := by
  intro n hn reference href
  obtain ⟨name, -, rfl⟩ := h n hn reference href
  exact ⟨name, mem_references_iff.2 ⟨n, hn, href⟩, rfl⟩

/-- What the walk lists of such a schema are names with the property. -/
theorem RefersIn.of_mem_references (h : s.RefersIn P) {name : String} (hm : name ∈ s.references) :
    P name := by
  obtain ⟨n, hn, href⟩ := mem_references_iff.1 hm
  obtain ⟨name', hname', heq⟩ := h n hn _ href
  rw [← nameOfReference?_eq_some_iff, nameOfReference?_eq_some_iff.2 rfl] at heq
  cases heq
  exact hname'

/-! ## Schemas of types -/

theorem refersIn_ofTypeRef (t : TypeRef) :
    (ofTypeRef t).RefersIn (fun name => t.referencedName = some name) := by
  induction t with
  | primitive p => exact .of_leaf rfl rfl rfl
  | named name =>
    refine .intro (fun reference href => ?_) (fun i hi => by cases hi) fun _ hp => by cases hp
    cases href
    exact ⟨name, rfl, rfl⟩
  | list element ih =>
    refine .intro (fun reference href => by cases href) (fun i hi => ?_) fun _ hp => by cases hp
    cases hi
    exact ih
  | object => exact .of_leaf rfl rfl rfl

/-- An object refers to what its properties refer to. -/
theorem refersIn_object {properties : OrderedMap Schema}
    (h : ∀ p ∈ properties.values, p.RefersIn P) : (object properties).RefersIn P := by
  refine .intro (fun reference href => by cases href) (fun i hi => by cases hi) fun entries hp => ?_
  obtain ⟨-, rfl⟩ : ¬ properties.isEmpty = true ∧ properties.entries = entries := by
    simpa [object] using hp
  exact fun e he => h e.2 (List.mem_map_of_mem he)

end Schema

/-! ## Schemas of declarations -/

namespace Symbol

theorem refersIn_objectSchema {P : String → Prop} {properties : List (String × TypeRef)}
    (h : ∀ e ∈ properties, ∀ name, e.2.referencedName = some name → P name) :
    (objectSchema properties).RefersIn P := by
  refine Schema.refersIn_object (OrderedMap.forall_values_ofList fun e he => ?_)
  obtain ⟨⟨name, t⟩, ht, rfl⟩ := List.mem_map.1 he
  exact (Schema.refersIn_ofTypeRef t).mono (h _ ht)

/-- The schema of a declaration refers only to types that the declaration mentions. -/
theorem refersIn_schema (s : Symbol) : s.schema.RefersIn (· ∈ s.mentions) := by
  have hpart : ∀ t ∈ s.parts, ∀ name, t.referencedName = some name → name ∈ s.mentions :=
    fun t ht name hname => List.mem_filterMap.2 ⟨t, ht, hname⟩
  cases s with
  | record fields => exact refersIn_objectSchema fun e he => hpart _ (List.mem_map_of_mem he)
  | synonym target => exact (Schema.refersIn_ofTypeRef target).mono (hpart target (by simp [parts]))
  | dictionary key value =>
    refine refersIn_objectSchema fun e he => hpart _ ?_
    rcases List.mem_cons.1 he with rfl | he
    · simp [parts]
    · cases List.mem_singleton.1 he
      simp [parts]
  | enumeration variants => exact .of_leaf rfl rfl rfl

end Symbol

end ApiNotes
