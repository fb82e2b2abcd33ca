/-
A resolved document is closed under references. Every name that the walk of the document lists has a
schema after a settled resolution, and what the new schemas refer to has one too, so that a document
whose references are to shared schemas has none that leads nowhere.
-/
import ApiNotes.Proofs.Resolution.Closure
import ApiNotes.Proofs.Symbol.References

namespace ApiNotes.Resolution

variable {table : SymbolTable} {cap : Nat} {m : ApiModel}

/-! ## Where schemas and names come from -/

/-- A schema of the resolved document was there before, or is the one of a needed name. -/
theorem hasSchema_resolve {s : Schema}
    (h : (m.resolve table cap).1.document.HasSchema s) :
    m.document.HasSchema s ∨ ∃ n, Needs table m n ∧ s = schemaOf table n := by
  cases h with
  | operation o ho h => exact .inl (.operation o ho h)
  | response r hr h => exact .inl (.response r hr h)
  | shared h =>
    obtain ⟨n, hn⟩ := (OrderedMap.mem_values_iff _ s).1 h
    rw [schemas_resolve, get?_addSchemas] at hn
    split at hn
    · rename_i hmem
      cases hn
      exact .inr ⟨n, mem_names_needs hmem, rfl⟩
    · exact .inl (.shared ((OrderedMap.mem_values_iff _ s).2 ⟨n, hn⟩))

/-- A name that the document mentions has a schema or is needed. -/
theorem needs_of_mention {n : String} (h : n ∈ m.document.mentions) :
    n ∈ m.document.components.schemas.keys ∨ Needs table m n := by
  cases hc : m.document.components.schemas.contains n with
  | true => exact .inl ((OrderedMap.mem_keys_iff _ n).2 hc)
  | false => exact .inr ⟨n, ⟨.inr (Document.mem_referencedSchemas_iff.2 h), hc⟩, .refl⟩

/-- A name that the declaration of a needed name mentions has a schema or is needed. -/
theorem needs_of_successor {n k : String} (h : Needs table m n) (hk : k ∈ successors table n) :
    k ∈ m.document.components.schemas.keys ∨ Needs table m k := by
  cases hc : m.document.components.schemas.contains k with
  | true => exact .inl ((OrderedMap.mem_keys_iff _ k).2 hc)
  | false => exact .inr (h.step ⟨h.missing, mem_successors_iff.1 hk, hc⟩)

/-! ## References of the resolved document -/

/-- The schema of a name refers only to what the declaration of the name mentions. -/
theorem refersIn_schemaOf (table : SymbolTable) (n : String) :
    (schemaOf table n).RefersIn (· ∈ successors table n) := by
  unfold schemaOf successors
  cases table.get? n with
  | some s => exact s.refersIn_schema
  | none => exact .of_leaf rfl rfl rfl

/-- If the schemas of a document refer to shared schemas only, then after a settled resolution they
refer only to shared schemas that there are. -/
theorem refersIn_resolve {P : String → Prop} (hs : (ofModel table cap m).isSettled = true)
    (hm : ∀ s, m.document.HasSchema s → s.RefersIn P) :
    ∀ s, (m.resolve table cap).1.document.HasSchema s →
      s.RefersIn (· ∈ (m.resolve table cap).1.document.components.schemas.keys) := by
  intro s h
  rcases hasSchema_resolve h with h | ⟨n, hn, rfl⟩
  · refine (hm s h).references.mono fun name hname => (mem_keys_resolve hs).2 ?_
    exact needs_of_mention (Document.mem_mentions.2 ⟨s, h, hname⟩)
  · exact (refersIn_schemaOf table n).mono fun name hname =>
      (mem_keys_resolve hs).2 (needs_of_successor hn hname)

end ApiNotes.Resolution
