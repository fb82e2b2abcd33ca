/-
The names of shared schemas. Whatever types annotations name and sources declare, in the documents
of a successful run each shared schema has a name that a schema can have, and so has each type that
a document mentions: the first names come from annotations that were accepted, and from there
declarations lead to words of the sources that are no primitive types.
-/
import ApiNotes.Proofs.Api.Mentions
import ApiNotes.Proofs.Generation.Leniency
import ApiNotes.Proofs.Generation.References
import ApiNotes.Proofs.Symbol.Names

namespace ApiNotes

/-! ## Names in annotations -/

/-- Where the commands of an API make a document, those that have to name a type do so. -/
theorem namesItsType_of_solo {api : String} {cs : List Command} {m : ApiModel}
    (h : solo api cs = .ok m) : ∀ c ∈ commandsFor api cs, c.NamesItsType := by
  obtain ⟨d, hd, -⟩ := ofCommands_eq_ok_iff.1 h
  exact fun c hc => (Draft.applyAll_legal hd c hc).2

/-- What an API mentions by itself are names of schemas. -/
theorem isSchemaName_of_solo {api : String} {cs : List Command} {m : ApiModel}
    (h : solo api cs = .ok m) {n : String}
    (hn : n ∈ m.referenced ∨ n ∈ m.document.referencedSchemas) : IsSchemaName n := by
  have hmentioned : n ∈ (commandsFor api cs).filterMap Command.mentioned? := by
    rcases hn with hn | hn
    · rw [ofCommands_eq_told h] at hn
      exact mem_firstOccurrences.1 hn
    · exact mentioned_of_mem_mentions h (Document.mem_referencedSchemas_iff.1 hn)
  obtain ⟨c, hc, hcn⟩ := List.mem_filterMap.1 hmentioned
  obtain ⟨t, ht, htn⟩ := Option.bind_eq_some_iff.1 hcn
  obtain ⟨token, htoken, rfl⟩ := Option.map_eq_some_iff.1 ht
  exact wellNamed_typeNamed (namesItsType_of_solo h c hc token htoken) n htn

/-! ## Names in documents -/

/-- In every document of a successful run, the shared schemas and the types that the document
mentions have names that are not empty, have no list mark before them and spell no primitive
type. -/
theorem generate_schemaNames (options : Options) (files : List SourceFile) (g : Generation)
    (h : (generate options files).result = .ok g) :
    ∀ m ∈ g.models,
      (∀ name ∈ m.document.components.schemas.keys, IsSchemaName name) ∧
      ∀ name ∈ m.referenced, IsSchemaName name := by
  intro m hm
  obtain ⟨api, sources, m₀, r, hsolo, hsources, hr, rfl⟩ := exists_sources_of_mem_models h hm
  have htable : (SymbolTable.ofSources (sources.map Prod.snd)).1.WellNamed := by
    rw [sources_of_readSources hsources]
    refine wellNamed_ofSources fun source hsource => ?_
    obtain ⟨file, -, hfile⟩ := List.mem_filterMap.1 hsource
    exact ⟨file.content, hfile⟩
  refine ⟨fun name hname => ?_, fun name hname => isSchemaName_of_solo hsolo (.inl hname)⟩
  rcases Resolution.mem_keys_resolve_iff.1 hname with hname | hname
  · -- a document has no shared schemas before they are resolved
    rw [ofCommands_eq_told hsolo] at hname
    cases hname
  · refine Resolution.isSchemaName_of_mem_names htable (fun n hn => ?_) hname
    exact isSchemaName_of_solo hsolo (Resolution.mem_seeds_iff.1 hn).mentioned

/-- A body with list marks, a primitive response in braces, and a declaration of a raw name. -/
def cartSources : List SourceFile :=
  [⟨"cart.rs",
    "//begin a
//method PUT
//body [][]Cart
//response 200 \x7b[]uint8\x7d
//end
//route / a
struct Cart(Vec<[&'static r#type; 2]>);
type r#type = Option<shop::Item>;
enum Item \x7b Bread \x7d"⟩]

/-- The raw name is a name like any other, and the primitive type has no schema. -/
theorem generate_schemaNames_cart : ∃ g m,
    (generate { sentinel := "//" } cartSources).result = .ok g ∧ m ∈ g.models ∧
    m.referenced = ["Cart"] ∧ ∀ name ∈ ["Cart", "Item", "r#type"], IsSchemaName name := by
  have hrun : ((generate { sentinel := "//" } cartSources).result.toOption.map fun g =>
      g.models.map fun m => (m.referenced, m.document.components.schemas.keys)) =
      some [(["Cart"], ["Cart", "Item", "r#type"])] := by decide +kernel
  cases hg : (generate { sentinel := "//" } cartSources).result with
  | error e =>
    rw [hg] at hrun
    cases hrun
  | ok g =>
    rw [hg] at hrun
    obtain ⟨m, hm, hdoc⟩ := List.map_eq_singleton_iff.1 (Option.some.inj hrun)
    obtain ⟨hreferenced, hkeys⟩ := Prod.mk.inj hdoc
    have hmem : m ∈ g.models := by simp [hm]
    refine ⟨g, m, rfl, hmem, hreferenced, ?_⟩
    rw [← hkeys]
    exact (generate_schemaNames { sentinel := "//" } cartSources g hg m hmem).1

end ApiNotes
