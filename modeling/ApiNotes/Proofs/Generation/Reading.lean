/-
Generated documents read back. The properties of every schema of a generated document are a map, so
the value that the document is written as is read as the document.
-/
import ApiNotes.Proofs.Document.Encoding
import ApiNotes.Proofs.Generation.References

namespace ApiNotes

/-! ## Schemas of types and declarations -/

namespace Schema

theorem isOrdered_ofTypeRef (t : TypeRef) : (ofTypeRef t).IsOrdered := by
  induction t with
  | primitive p => exact .of_leaf rfl rfl
  | named name => exact .of_leaf rfl rfl
  | list element ih => exact .intro (by rintro _ ⟨⟩) (by rintro _ ⟨⟩; exact ih) (by rintro _ ⟨⟩)
  | object => exact .of_leaf rfl rfl

theorem isOrdered_object {properties : OrderedMap Schema}
    (h : ∀ p ∈ properties.values, p.IsOrdered) : (object properties).IsOrdered := by
  have hentries : ∀ entries, (object properties).properties = some entries →
      properties.entries = entries := by
    intro entries hp
    have hcases : ¬ properties.isEmpty = true ∧ properties.entries = entries := by
      simpa [object] using hp
    exact hcases.2
  refine .intro (fun entries hp => ?_) (by rintro _ ⟨⟩) fun entries hp e he => ?_
  · cases hentries entries hp
    exact properties.ordered
  · cases hentries entries hp
    exact h e.2 (List.mem_map_of_mem he)

end Schema

namespace Symbol

theorem isOrdered_objectSchema (properties : List (String × TypeRef)) :
    (objectSchema properties).IsOrdered := by
  refine Schema.isOrdered_object (OrderedMap.forall_values_ofList fun e he => ?_)
  obtain ⟨⟨name, t⟩, -, rfl⟩ := List.mem_map.1 he
  exact Schema.isOrdered_ofTypeRef t

theorem isOrdered_schema (s : Symbol) : s.schema.IsOrdered := by
  cases s with
  | record fields => exact isOrdered_objectSchema _
  | synonym target => exact Schema.isOrdered_ofTypeRef target
  | dictionary key value => exact isOrdered_objectSchema _
  | enumeration variants => exact .of_leaf rfl rfl

end Symbol

/-! ## Documents of a run -/

theorem Resolution.isOrdered_schemaOf (table : SymbolTable) (n : String) :
    (schemaOf table n).IsOrdered := by
  unfold schemaOf
  cases table.get? n with
  | some s => exact s.isOrdered_schema
  | none => exact .of_leaf rfl rfl

/-- The documents of a successful run are ordered. -/
theorem generate_isOrdered {options : Options} {files : List SourceFile} {g : Generation}
    (h : (generate options files).result = .ok g) : ∀ m ∈ g.models, m.document.IsOrdered := by
  intro m hm
  obtain ⟨api, table, m₀, r, hsolo, -, rfl⟩ := exists_of_mem_models h hm
  have hlinked : m₀.document.IsLinked Schema.IsOrdered :=
    ofCommands_isLinked hsolo fun _ _ t _ => Schema.isOrdered_ofTypeRef t
  intro s hs
  rcases Resolution.hasSchema_resolve hs with hs | ⟨n, -, rfl⟩
  · exact hlinked.schemas s hs
  · exact Resolution.isOrdered_schemaOf table n

/-- Every document of a successful run can be read again from its text in JSON. -/
theorem generate_readsBack {options : Options} {files : List SourceFile} {g : Generation}
    (h : (generate options files).result = .ok g) : ∀ m ∈ g.models,
      (Json.readText? (m.document.render .json)).bind Document.ofJson? = some m.document := by
  intro m hm
  obtain ⟨hplain, hread⟩ := Document.readsBack (generate_isOrdered h m hm)
  have htext : Json.readText? (m.document.render .json) = some m.document.toJson :=
    Json.readText?_pretty hplain
  rw [htext, Option.bind_some, hread]

end ApiNotes
