/-
The walk of a document for the names it refers to. Every node of every schema of a document has a
place: the position of the schema among those of the document, and then the way down through
elements and properties. The walk meets the nodes in the order of their places, so the names that a
document refers to are listed each once, all of them, and in the order in which they are first met.
-/
import ApiNotes.Proofs.Document.Nodes
import ApiNotes.Proofs.Places

namespace ApiNotes

/-! ## Places in a schema -/

namespace Schema

/-- The node at a place of a schema; the schema itself stands at the empty place. -/
def at? (s : Schema) : List Nat → Option Schema
  | [] => some s
  | i :: place => s.children[i]?.bind (·.at? place)

/-- The nodes of a schema are those that stand at some place of it. -/
theorem isNodeOf_iff_exists_at? {n s : Schema} : n.IsNodeOf s ↔ ∃ place, s.at? place = some n := by
  constructor
  · have hdown {s child : Schema} (hchild : child ∈ s.children)
        (h : ∃ place, child.at? place = some n) : ∃ place, s.at? place = some n := by
      obtain ⟨place, hplace⟩ := h
      obtain ⟨i, hi⟩ := List.mem_iff_getElem?.1 hchild
      exact ⟨i :: place, by rw [at?, hi]; exact hplace⟩
    intro h
    induction h with
    | self => exact ⟨[], rfl⟩
    | items hi _ ih => exact hdown (mem_children.2 (.inl hi)) ih
    | property hp he _ ih => exact hdown (mem_children.2 (.inr ⟨_, hp, _, he⟩)) ih
  · rintro ⟨place, hplace⟩
    induction place generalizing s with
    | nil => cases hplace; exact .self
    | cons i place ih =>
      obtain ⟨child, hchild, hn⟩ := Option.bind_eq_some_iff.1 hplace
      exact (ih hn).of_mem_children (List.mem_of_getElem? hchild)

/-- The walk of a schema meets its nodes in the order of their places. -/
theorem enumerates_references (s : Schema) : Enumerates s.at? referenceName s.references := by
  induction s using childrenInduction with
  | step s ih =>
    rw [references_eq]
    exact (enumerates_row ih).node rfl fun _ _ => rfl

end Schema

/-! ## Places in a document -/

namespace Document

/-- The node at a place of a document. -/
def nodeAt? (d : Document) : List Nat → Option Schema :=
  rowAt? Schema.at? d.schemas

/-- The nodes of a document are those that stand at some place of it. -/
theorem hasNode_iff_exists_nodeAt? {d : Document} {n : Schema} :
    d.HasNode n ↔ ∃ place, d.nodeAt? place = some n := by
  unfold HasNode nodeAt?
  simp only [← mem_schemas, Schema.isNodeOf_iff_exists_at?, rowAt?_eq_some_iff,
    List.mem_iff_getElem?]
  constructor
  · rintro ⟨s, ⟨i, hi⟩, place, hn⟩
    exact ⟨i :: place, i, place, s, rfl, hi, hn⟩
  · rintro ⟨_, i, place, s, rfl, hi, hn⟩
    exact ⟨s, ⟨i, hi⟩, place, hn⟩

/-- The walk of a document meets its nodes in the order of their places. -/
theorem enumerates_mentions (d : Document) :
    Enumerates d.nodeAt? Schema.referenceName d.mentions := by
  rw [mentions_eq]
  exact enumerates_row fun s _ => s.enumerates_references

end Document

/-- The names that a document refers to. None is listed twice; a name is listed exactly if some node
of the document, which is to say the node at some place of it, refers to the shared schema of that
name; and what stands in front of a name are the names that are referred to at the places before the
first one at which that name is. -/
theorem Document.referencedSchemas_complete (d : Document) :
    d.referencedSchemas.Nodup ∧
    (∀ name, name ∈ d.referencedSchemas ↔
      ∃ n, d.HasNode n ∧ n.reference = some (schemaReference name)) ∧
    (∀ n, d.HasNode n ↔ ∃ place, d.nodeAt? place = some n) ∧
    ∀ name ∈ d.referencedSchemas, ∃ place n earlier later,
      d.nodeAt? place = some n ∧ n.reference = some (schemaReference name) ∧
      (∀ place' n', Precedes place' place → d.nodeAt? place' = some n' →
        n'.reference ≠ some (schemaReference name)) ∧
      d.referencedSchemas = earlier ++ name :: later ∧
      ∀ other, other ∈ earlier ↔ ∃ place' n', Precedes place' place ∧
        d.nodeAt? place' = some n' ∧ n'.reference = some (schemaReference other) := by
  refine ⟨nodup_firstOccurrences _, fun name => ?_, fun n => hasNode_iff_exists_nodeAt?, ?_⟩
  · rw [mem_referencedSchemas_iff, mem_mentions_iff]
  · intro name hname
    simp only [ne_eq, ← Schema.referenceName_eq_some_iff]
    obtain ⟨met, rest, hmentions, hnew⟩ :=
      List.eq_append_cons_of_mem (mem_referencedSchemas_iff.1 hname)
    have hwalk := d.enumerates_mentions
    rw [hmentions] at hwalk
    obtain ⟨place, n, hn, href, hmet⟩ := hwalk.split
    obtain ⟨later, hlater⟩ := firstOccurrences_append_cons hnew rest
    refine ⟨place, n, firstOccurrences met, later, hn, href, ?_, ?_, fun other => ?_⟩
    · exact fun place' n' hlt hn' href' => hnew ((hmet name).2 ⟨place', n', hlt, hn', href'⟩)
    · rw [referencedSchemas, hmentions, hlater]
    · rw [mem_firstOccurrences, hmet]

/-- A schema that is itself a reference is walked further all the same. -/
example :
    let pet : Schema :=
      { reference := some (schemaReference "Owner"), items := some (.referTo "Tag"),
        properties := some [("by", .referTo "Owner"), ("of", .arrayOf (.referTo "Pet"))] }
    Document.referencedSchemas { components := { schemas := .singleton "Pet" pet } } =
      ["Owner", "Tag", "Pet"] := by
  decide +kernel

end ApiNotes
