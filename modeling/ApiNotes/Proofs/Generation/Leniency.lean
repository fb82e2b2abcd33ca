/-
Files that are no source. A lenient run leaves them out of the table of declared types, and out of
nothing else: their annotations count, so its documents are those of all annotations with the
declarations of the other files. A strict run fails at the first of them, once the annotations of
all files have been interpreted; if there is none, both runs are the same.
-/
import ApiNotes.Proofs.Generation.References
import ApiNotes.Proofs.Resolution.Distance

namespace ApiNotes

open Code (SourceUnit)

/-! ## Reading sources -/

/-- The source in a file, or the failure of a file that is none. -/
def SourceFile.parse (file : SourceFile) : Except Failure (SourceFile × SourceUnit) :=
  match SourceUnit.ofText? file.content with
  | some source => .ok (file, source)
  | none => .error (.unparsable file.path)

/-- The sources among a list of files. -/
def sourcesAmong (files : List SourceFile) : List SourceUnit :=
  files.filterMap fun file => SourceUnit.ofText? file.content

variable {files : List SourceFile} {table : SymbolTable} {cap : Nat} {e : Failure}

theorem parse_eq_error_iff {file : SourceFile} : file.parse = .error e ↔
    SourceUnit.ofText? file.content = none ∧ e = .unparsable file.path := by
  unfold SourceFile.parse
  cases SourceUnit.ofText? file.content <;> simp [eq_comm]

theorem parse_isOk_iff {file : SourceFile} :
    (∃ x, file.parse = .ok x) ↔ (SourceUnit.ofText? file.content).isSome = true := by
  unfold SourceFile.parse
  cases SourceUnit.ofText? file.content <;> simp

/-- A lenient reading always comes to its end. -/
theorem readSources_lenient (files : List SourceFile) : ∃ sources,
    (readSources true files).result = .ok sources ∧ sources.map Prod.snd = sourcesAmong files := by
  unfold sourcesAmong
  induction files with
  | nil => exact ⟨[], rfl, rfl⟩
  | cons file rest ih =>
    obtain ⟨others, hothers, hmap⟩ := ih
    rw [readSources, List.filterMap_cons]
    cases SourceUnit.ofText? file.content with
    | none =>
      refine ⟨others, ?_, hmap⟩
      rw [if_pos rfl, Logged.result_bind]
      exact hothers
    | some source =>
      refine ⟨(file, source) :: others, ?_, by rw [List.map_cons, hmap]⟩
      simp only [Logged.result_bind, hothers, Logged.result_pure]
      rfl

/-- A strict reading takes one file after the other. -/
theorem result_readSources_strict (files : List SourceFile) :
    (readSources false files).result = files.mapM SourceFile.parse := by
  induction files with
  | nil => rfl
  | cons file rest ih =>
    rw [readSources, List.mapM_cons, SourceFile.parse]
    cases SourceUnit.ofText? file.content with
    | none => rfl
    | some source =>
      simp only [Logged.result_bind, ih, Logged.result_pure]
      rfl

/-- What a strict reading reads, a lenient one reads too. -/
theorem sources_of_strict {sources : List (SourceFile × SourceUnit)}
    (h : (readSources false files).result = .ok sources) :
    sources.map Prod.snd = sourcesAmong files := by
  rw [result_readSources_strict, mapM_eq_ok_iff] at h
  unfold sourcesAmong
  induction h with
  | nil => rfl
  | @cons file x rest others hx _ ih =>
    unfold SourceFile.parse at hx
    split at hx
    · rename_i source hs
      cases hx
      rw [List.map_cons, ih, List.filterMap_cons, hs]
    · cases hx

/-- Whatever is read, it is the sources among the files. -/
theorem sources_of_readSources {lenient : Bool} {sources : List (SourceFile × SourceUnit)}
    (h : (readSources lenient files).result = .ok sources) :
    sources.map Prod.snd = sourcesAmong files := by
  cases lenient with
  | false => exact sources_of_strict h
  | true =>
    obtain ⟨sources', hsources', hmap⟩ := readSources_lenient files
    cases hsources'.symm.trans h
    exact hmap

/-- Reading fails only in a strict run, because of a file that is no source. -/
theorem readSources_eq_error {lenient : Bool} (h : (readSources lenient files).result = .error e) :
    lenient = false ∧ ∃ file ∈ files, file.parse = .error e := by
  cases lenient with
  | true =>
    obtain ⟨sources, hsources, -⟩ := readSources_lenient files
    cases hsources.symm.trans h
  | false =>
    rw [result_readSources_strict, mapM_eq_error_iff] at h
    obtain ⟨before, file, after, rfl, hfile, -⟩ := h
    exact ⟨rfl, file, by simp, hfile⟩

/-! ## Settling -/

theorem settle_eq_error_iff {m : ApiModel} :
    (m.settle table cap).result = .error e ↔ (m.resolve table cap).2.result = .error e := by
  unfold ApiModel.settle
  simp only [Logged.result_bind, bind_eq_error_iff]
  constructor
  · rintro (h | ⟨r, -, h⟩)
    · exact h
    · -- the report about undeclared types does not fail
      split at h <;> cases h
  · exact .inl

theorem settleAll_eq_ok_iff {ms settled : List ApiModel} :
    (settleAll table cap ms).result = .ok settled ↔
      (∀ m ∈ ms, ∃ r, (m.resolve table cap).2.result = .ok r) ∧
        settled = ms.map fun m => (m.resolve table cap).1 := by
  rw [result_settleAll, mapM_eq_ok_iff]
  simp only [settle_eq_ok_iff]
  rw [List.forall₂_and_left, forall₂_eq_map_iff]

/-- Settling fails only if some document fails to be resolved. -/
theorem settleAll_eq_error {ms : List ApiModel} (h : (settleAll table cap ms).result = .error e) :
    ∃ m ∈ ms, (m.resolve table cap).2.result = .error e := by
  rw [result_settleAll, mapM_eq_error_iff] at h
  obtain ⟨before, m, after, rfl, hm, -⟩ := h
  exact ⟨m, by simp, settle_eq_error_iff.1 hm⟩

/-! ## Strict and lenient runs -/

/-- A run fails because of a fault in the annotations, or of a file that cannot be read as a source,
or of documents that do not settle, in this order. -/
theorem generate_eq_error_iff {options : Options} :
    (generate options files).result = .error e ↔
      (∃ fault, (interpret (SourceFile.commandsOf options.sentinel files)).result = .error fault ∧
        e = .structural fault) ∨
      ∃ models, (interpret (SourceFile.commandsOf options.sentinel files)).result = .ok models ∧
        ((readSources options.lenient files).result = .error e ∨
          ∃ sources, (readSources options.lenient files).result = .ok sources ∧
            (settleAll (SymbolTable.ofSources (sources.map Prod.snd)).1 options.levelCap
              models).result = .error e) := by
  unfold generate
  simp only [Logged.result_bind, Logged.result_tell, Logged.result_warn, Logged.result_mapError,
    Logged.result_pure, bind_eq_error_iff, mapError_eq_ok_iff, reduceCtorEq,
    true_and, exists_const, false_or, and_false, or_false]
  exact or_congr mapError_eq_error_iff Iff.rfl

/-- A lenient run returns the documents of all annotations, resolved with the declarations of the
files that are sources. -/
theorem generate_lenient_eq_ok_iff {options : Options} (hl : options.lenient = true)
    {g : Generation} : (generate options files).result = .ok g ↔ ∃ models,
      (interpret (SourceFile.commandsOf options.sentinel files)).result = .ok models ∧
      (∀ m ∈ models, ∃ r, (m.resolve (SymbolTable.ofSources (sourcesAmong files)).1
        options.levelCap).2.result = .ok r) ∧
      g = { models := models.map fun m => (m.resolve
              (SymbolTable.ofSources (sourcesAmong files)).1 options.levelCap).1,
            files := files.length,
            annotations := (SourceFile.commandsOf options.sentinel files).length,
            declarations := (SymbolTable.ofSources (sourcesAmong files)).1.size } := by
  obtain ⟨sources, hsources, hunits⟩ := readSources_lenient files
  rw [generate_eq_ok_iff, hl, hsources]
  constructor
  · rintro ⟨models, _, settled, hmodels, hread, hsettled, rfl⟩
    cases hread
    rw [hunits] at hsettled ⊢
    obtain ⟨hall, rfl⟩ := settleAll_eq_ok_iff.1 hsettled
    exact ⟨models, hmodels, hall, rfl⟩
  · rintro ⟨models, hmodels, hall, rfl⟩
    refine ⟨models, sources, _, hmodels, rfl, ?_, by rw [hunits]⟩
    rw [hunits]
    exact settleAll_eq_ok_iff.2 ⟨hall, rfl⟩

/-- What a run returns a lenient one returns too. -/
theorem generate_lenient_of_ok {options : Options} {g : Generation}
    (h : (generate options files).result = .ok g) :
    (generate { options with lenient := true } files).result = .ok g := by
  obtain ⟨models, sources, settled, hmodels, hread, hsettled, rfl⟩ := generate_eq_ok_iff.1 h
  have hunits := sources_of_readSources hread
  rw [hunits] at hsettled ⊢
  obtain ⟨hall, rfl⟩ := settleAll_eq_ok_iff.1 hsettled
  exact (generate_lenient_eq_ok_iff rfl).2 ⟨models, hmodels, hall, rfl⟩

/-- Of the failures of a run only those of reading are about files that are no source. -/
theorem generate_eq_unparsable_iff {options : Options} {path : String} :
    (generate options files).result = .error (.unparsable path) ↔
      (∃ models, (interpret (SourceFile.commandsOf options.sentinel files)).result = .ok models) ∧
        (readSources options.lenient files).result = .error (.unparsable path) := by
  rw [generate_eq_error_iff]
  constructor
  · rintro (⟨fault, -, he⟩ | ⟨models, hmodels, he | ⟨sources, -, he⟩⟩)
    · cases he
    · exact ⟨⟨models, hmodels⟩, he⟩
    · obtain ⟨m, -, hm⟩ := settleAll_eq_error he
      cases (Resolution.resolve_eq_error_iff.1 hm).1
  · rintro ⟨⟨models, hmodels⟩, he⟩
    exact .inr ⟨models, hmodels, .inl he⟩

/-- A strict run and a lenient one. What a strict run returns a lenient one returns too. A lenient
run never fails because of a file that is no source; it returns the documents of the annotations of
all files, each resolved with the declarations of those files that are sources. A strict run fails
because of such a file exactly if the annotations can be interpreted, and names the first one. -/
theorem generate_leniency (sentinel : String) (cap : Nat) (files : List SourceFile) :
    let strict : Options := { sentinel, levelCap := cap, lenient := false }
    let lenient : Options := { sentinel, levelCap := cap, lenient := true }
    let commands := SourceFile.commandsOf sentinel files
    let table := (SymbolTable.ofSources
      (files.filterMap fun file => SourceUnit.ofText? file.content)).1
    (∀ g, (generate strict files).result = .ok g → (generate lenient files).result = .ok g) ∧
    (∀ path, (generate lenient files).result ≠ .error (.unparsable path)) ∧
    (∀ g, (generate lenient files).result = .ok g ↔ ∃ models,
      (interpret commands).result = .ok models ∧
      (∀ m ∈ models, ∃ r, (m.resolve table cap).2.result = .ok r) ∧
      g = { models := models.map fun m => (m.resolve table cap).1, files := files.length,
            annotations := commands.length, declarations := table.size }) ∧
    (∀ path, (generate strict files).result = .error (.unparsable path) ↔
      (∃ models, (interpret commands).result = .ok models) ∧
      ∃ before file after, files = before ++ file :: after ∧
        (SourceUnit.ofText? file.content = none ∧ path = file.path) ∧
        ∀ f ∈ before, (SourceUnit.ofText? f.content).isSome = true) := by
  intro strict lenient commands table
  refine ⟨fun g => generate_lenient_of_ok, fun path h => ?_,
    fun g => generate_lenient_eq_ok_iff rfl, fun path => ?_⟩
  · obtain ⟨-, he⟩ := generate_eq_unparsable_iff.1 h
    obtain ⟨sources, hsources, -⟩ := readSources_lenient files
    cases hsources.symm.trans he
  · rw [generate_eq_unparsable_iff, result_readSources_strict, mapM_eq_error_iff]
    simp only [parse_eq_error_iff, parse_isOk_iff, Failure.unparsable.injEq]
    rfl

end ApiNotes
