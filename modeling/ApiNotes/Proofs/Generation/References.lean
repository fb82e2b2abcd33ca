/-
References of generated documents. In no document that a successful run returns does a reference
lead nowhere: references of schemas, at any depth, lead to shared schemas of the same document, and
references of responses to shared responses of it.
-/
import ApiNotes.Generation
import ApiNotes.Proofs.Api.Inline
import ApiNotes.Proofs.Api.Isolation
import ApiNotes.Proofs.Resolution.References

namespace ApiNotes

/-! ## The stages of a run -/

theorem settle_eq_ok_iff {table : SymbolTable} {cap : Nat} {m m' : ApiModel} :
    (m.settle table cap).result = .ok m' ↔
      (∃ r, (m.resolve table cap).2.result = .ok r) ∧ m' = (m.resolve table cap).1 := by
  unfold ApiModel.settle
  simp only [Logged.result_bind, bind_eq_ok_iff]
  constructor
  · rintro ⟨r, hr, hm⟩
    refine ⟨⟨r, hr⟩, ?_⟩
    -- the report about undeclared types does not touch the model
    split at hm <;> cases hm <;> rfl
  · rintro ⟨⟨r, hr⟩, rfl⟩
    refine ⟨r, hr, ?_⟩
    split <;> rfl

theorem result_settleAll (table : SymbolTable) (cap : Nat) (ms : List ApiModel) :
    (settleAll table cap ms).result = ms.mapM fun m => (m.settle table cap).result := by
  induction ms with
  | nil => rfl
  | cons m rest ih =>
    rw [settleAll, List.mapM_cons]
    simp only [Logged.result_bind, ih, Logged.result_pure]
    rfl

/-- A run succeeds if the commands make documents, the files can be read and all documents settle
with the declarations of the files. -/
theorem generate_eq_ok_iff {options : Options} {files : List SourceFile} {g : Generation} :
    (generate options files).result = .ok g ↔ ∃ models sources settled,
      (interpret (SourceFile.commandsOf options.sentinel files)).result = .ok models ∧
      (readSources options.lenient files).result = .ok sources ∧
      (settleAll (SymbolTable.ofSources (sources.map Prod.snd)).1 options.levelCap models).result =
        .ok settled ∧
      g = { models := settled, files := files.length,
            annotations := (SourceFile.commandsOf options.sentinel files).length,
            declarations := (SymbolTable.ofSources (sources.map Prod.snd)).1.size } := by
  unfold generate
  simp only [Logged.result_bind, Logged.result_tell, Logged.result_warn, Logged.result_mapError,
    Logged.result_pure, bind_eq_ok_iff, mapError_eq_ok_iff, Except.ok.injEq, true_and, exists_const]
  constructor
  · rintro ⟨models, hmodels, sources, hsources, settled, hsettled, rfl⟩
    exact ⟨models, sources, settled, hmodels, hsources, hsettled, rfl⟩
  · rintro ⟨models, sources, settled, hmodels, hsources, hsettled, rfl⟩
    exact ⟨models, hmodels, sources, hsources, settled, hsettled, rfl⟩

/-- Every document of a successful run is one of its API by itself, after its resolution with the
declarations of the files. -/
theorem exists_sources_of_mem_models {options : Options} {files : List SourceFile}
    {g : Generation} (h : (generate options files).result = .ok g) {m : ApiModel}
    (hm : m ∈ g.models) :
    ∃ api sources m₀ r, solo api (SourceFile.commandsOf options.sentinel files) = .ok m₀ ∧
      (readSources options.lenient files).result = .ok sources ∧
      let table := (SymbolTable.ofSources (sources.map Prod.snd)).1
      (m₀.resolve table options.levelCap).2.result = .ok r ∧
      m = (m₀.resolve table options.levelCap).1 := by
  obtain ⟨models, sources, settled, hmodels, hsources, hsettled, rfl⟩ := generate_eq_ok_iff.1 h
  rw [result_settleAll, mapM_eq_ok_iff] at hsettled
  obtain ⟨m₀, hm₀, hs⟩ := exists_of_mem_right hsettled hm
  obtain ⟨api, -, hsolo⟩ := exists_of_mem_right (interpret_eq_ok_iff.1 hmodels) hm₀
  obtain ⟨⟨r, hr⟩, rfl⟩ := settle_eq_ok_iff.1 hs
  exact ⟨api, sources, m₀, r, hsolo, hsources, hr, rfl⟩

/-- Every document of a successful run is one of its API by itself, after its resolution. -/
theorem exists_of_mem_models {options : Options} {files : List SourceFile} {g : Generation}
    (h : (generate options files).result = .ok g) {m : ApiModel} (hm : m ∈ g.models) :
    ∃ api table m₀ r, solo api (SourceFile.commandsOf options.sentinel files) = .ok m₀ ∧
      (m₀.resolve table options.levelCap).2.result = .ok r ∧
      m = (m₀.resolve table options.levelCap).1 := by
  obtain ⟨api, sources, m₀, r, hsolo, -, hr, rfl⟩ := exists_sources_of_mem_models h hm
  exact ⟨api, _, m₀, r, hsolo, hr, rfl⟩

/-! ## No reference leads nowhere -/

/-- In every document of a successful run, a reference of a schema at any depth leads to a shared
schema of the document, a reference of a response to a shared response of the document, and shared
responses have no reference. -/
theorem generate_closed (options : Options) (files : List SourceFile) (g : Generation)
    (h : (generate options files).result = .ok g) :
    ∀ m ∈ g.models,
      (∀ n : Schema, m.document.HasNode n → ∀ reference, n.reference = some reference →
        ∃ name ∈ m.document.components.schemas.keys, reference = schemaReference name) ∧
      (∀ r : Response, m.document.HasResponse r → ∀ reference, r.reference = some reference →
        ∃ code ∈ m.document.components.responses.keys,
          reference = "#/components/responses/" ++ code) ∧
      ∀ r ∈ m.document.components.responses.values, r.reference = none := by
  intro m hm
  obtain ⟨api, table, m₀, r, hsolo, hr, rfl⟩ := exists_of_mem_models h hm
  have hlinked : m₀.document.IsLinked (Schema.RefersIn fun _ => True) :=
    ofCommands_isLinked hsolo fun _ _ t _ => (Schema.refersIn_ofTypeRef t).mono fun _ _ => trivial
  have hschemas := Resolution.refersIn_resolve (Resolution.resolve_eq_ok_iff.1 hr).2 hlinked.schemas
  -- resolving changes neither the operations nor the shared responses
  refine ⟨?_, hlinked.responses, hlinked.shared⟩
  rintro n ⟨s, hs, hn⟩ reference href
  exact hschemas s hs n hn reference href

/-- A body of a type that is a list of a type without a declaration, and a shared response. -/
def treeSources : List SourceFile :=
  [⟨"tree.rs",
    "//code 404 gone
//begin a
//method GET
//body []Tree
//response 404
//end
//route / a
struct Tree(Vec<Leaf>);"⟩]

/-- The one document refers to both types, and has schemas for just these. -/
theorem generate_closed_tree : ∃ g m, (generate { sentinel := "//" } treeSources).result = .ok g ∧
    m ∈ g.models ∧ m.document.referencedSchemas = ["Tree", "Leaf"] ∧
    ∀ n : Schema, m.document.HasNode n → ∀ reference, n.reference = some reference →
      ∃ name ∈ ["Leaf", "Tree"], reference = schemaReference name := by
  have hrun : ((generate { sentinel := "//" } treeSources).result.toOption.map fun g =>
      g.models.map fun m => (m.document.referencedSchemas, m.document.components.schemas.keys)) =
      some [(["Tree", "Leaf"], ["Leaf", "Tree"])] := by decide +kernel
  cases hg : (generate { sentinel := "//" } treeSources).result with
  | error e =>
    rw [hg] at hrun
    cases hrun
  | ok g =>
    rw [hg] at hrun
    obtain ⟨m, hm, hdoc⟩ := List.map_eq_singleton_iff.1 (Option.some.inj hrun)
    obtain ⟨hrefs, hkeys⟩ := Prod.mk.inj hdoc
    have hmem : m ∈ g.models := by simp [hm]
    refine ⟨g, m, rfl, hmem, hrefs, ?_⟩
    rw [← hkeys]
    exact (generate_closed { sentinel := "//" } treeSources g hg m hmem).1

end ApiNotes
