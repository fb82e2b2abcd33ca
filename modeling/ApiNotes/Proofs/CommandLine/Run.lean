/-
What a run leaves behind. The documents of all APIs are made before any of them is printed or
written, so whatever fails on the way to them, for whichever file or API, leaves no trace. A run
that prints does not touch the files. A run that writes puts the documents into their files, one
after the other, and makes directories above them; if one cannot be written, those before it are
there, and no other one is.
-/
import ApiNotes.CommandLine.Run
import ApiNotes.Proofs.FileTree.Frame
import ApiNotes.Proofs.Generation.Leniency

namespace ApiNotes.CommandLine.Request

open Code (SourceUnit)

variable {r : Request} {t : FileTree} {e : Failure} {g : Generation} {files : List SourceFile}

/-! ## Failures on the way to documents -/

/-- The source files of the project of a request. -/
def Reads (r : Request) (t : FileTree) (files : List SourceFile) : Prop :=
  ∃ paths, t.scan r.projectPath = .ok paths ∧ t.load paths = .ok files

/-- The annotations in the files of a request. -/
def commands (r : Request) (files : List SourceFile) : List Command :=
  SourceFile.commandsOf r.sentinel files

/-- What is wrong with the project of a request: there is no directory to scan, a source file cannot
be read, the annotations for an API have a fault, a file is no source, or the schemas of an API do
not settle. There may be several such failures. -/
inductive Fails (r : Request) (t : FileTree) : Failure → Prop
  | scanning {e : Failure} (h : t.scan r.projectPath = .error e) : r.Fails t e
  | reading {e : Failure} {paths : List String} {path : String}
      (hpaths : t.scan r.projectPath = .ok paths) (hpath : path ∈ paths)
      (h : t.loadFile path = .error e) : r.Fails t e
  | interpreting {fault : StructuralError} {files : List SourceFile} {api : String}
      (hfiles : r.Reads t files) (hapi : api ∈ apisOf (r.commands files))
      (h : solo api (r.commands files) = .error fault) : r.Fails t (.structural fault)
  | parsing {files : List SourceFile} {file : SourceFile}
      (hfiles : r.Reads t files) (hfile : file ∈ files) (hstrict : r.lenient = false)
      (h : SourceUnit.ofText? file.content = none) : r.Fails t (.unparsable file.path)
  | resolving {e : Failure} {files : List SourceFile} {models : List ApiModel} {m : ApiModel}
      (hfiles : r.Reads t files) (hmodels : (interpret (r.commands files)).result = .ok models)
      (hm : m ∈ models)
      (h : (m.resolve (SymbolTable.ofSources (sourcesAmong files)).1 r.levelCap).2.result =
        .error e) : r.Fails t e

/-- The documents are those of the source files; the report that follows them does not fail. -/
theorem result_documents (r : Request) (t : FileTree) : (r.documents t).result =
    (t.scan r.projectPath >>= t.load) >>= fun files => (generate r.options files).result := by
  have hreport : ∀ g : Generation, (if g.models.all (·.document.paths.isEmpty) then
      (do Logged.warn [.noRoutes]; pure g) else pure g : Logged Failure Generation).result =
        .ok g := by
    intro g
    split <;> rfl
  unfold documents generateProject
  simp only [Logged.result_bind, Logged.result_tell, Logged.result_ofExcept, hreport]
  cases t.scan r.projectPath with
  | error e => rfl
  | ok paths =>
    show ((t.load paths >>= fun files => (generate r.options files).result) >>= pure) =
      t.load paths >>= fun files => (generate r.options files).result
    exact bind_pure _

theorem documents_eq_ok_iff : (r.documents t).result = .ok g ↔
    ∃ files, r.Reads t files ∧ (generate r.options files).result = .ok g := by
  simp only [result_documents, bind_eq_ok_iff, Reads]

theorem Reads.unique {files' : List SourceFile} (h : r.Reads t files) (h' : r.Reads t files') :
    files = files' := by
  obtain ⟨paths, hpaths, hfiles⟩ := h
  obtain ⟨paths', hpaths', hfiles'⟩ := h'
  cases hpaths.symm.trans hpaths'
  exact Except.ok.inj (hfiles.symm.trans hfiles')

/-- If there are no documents, one of the failures is reported. -/
theorem fails_of_documents (h : (r.documents t).result = .error e) : r.Fails t e := by
  rw [result_documents, bind_eq_error_iff, bind_eq_error_iff] at h
  obtain (hscan | ⟨paths, hpaths, hload⟩) | ⟨files, hfiles, hgenerate⟩ := h
  · exact .scanning hscan
  · obtain ⟨before, path, after, rfl, hpath, -⟩ := mapM_eq_error_iff.1 hload
    exact .reading hpaths (by simp) hpath
  · have hreads : r.Reads t files := bind_eq_ok_iff.1 hfiles
    obtain ⟨fault, hfault, rfl⟩ | ⟨models, hmodels, hread | ⟨sources, hsources, hsettle⟩⟩ :=
      generate_eq_error_iff.1 hgenerate
    · obtain ⟨api, hapi, hsolo⟩ := exists_solo_of_interpret_eq_error hfault
      exact .interpreting hreads hapi hsolo
    · obtain ⟨hstrict, file, hfile, hparse⟩ := readSources_eq_error hread
      obtain ⟨hnone, rfl⟩ := parse_eq_error_iff.1 hparse
      exact .parsing hreads hfile hstrict hnone
    · obtain ⟨m, hm, hresolve⟩ := settleAll_eq_error hsettle
      rw [sources_of_readSources hsources] at hresolve
      exact .resolving hreads hmodels hm hresolve

/-- If there are documents, nothing is wrong with the project. -/
theorem not_fails_of_documents (h : (r.documents t).result = .ok g) : ¬ r.Fails t e := by
  obtain ⟨files, hreads, hgenerate⟩ := documents_eq_ok_iff.1 h
  obtain ⟨models, sources, settled, hmodels, hsources, hsettled, -⟩ :=
    generate_eq_ok_iff.1 hgenerate
  intro hfails
  cases hfails with
  | scanning hscan =>
    obtain ⟨paths, hpaths, -⟩ := hreads
    cases hscan.symm.trans hpaths
  | reading hscan hpath hload =>
    obtain ⟨paths, hpaths, hfiles⟩ := hreads
    cases hscan.symm.trans hpaths
    obtain ⟨file, hfile⟩ := mapM_isOk_iff.1 ⟨files, hfiles⟩ _ hpath
    cases hload.symm.trans hfile
  | interpreting hfiles hapi hsolo =>
    cases hreads.unique hfiles
    obtain ⟨m, hm⟩ := mapM_isOk_iff.1 ⟨models, mapM_eq_ok_iff.2 (interpret_eq_ok_iff.1 hmodels)⟩
      _ hapi
    cases hsolo.symm.trans hm
  | parsing hfiles hfile hstrict hnone =>
    cases hreads.unique hfiles
    have hread : (readSources false files).result = .ok sources := hstrict ▸ hsources
    rw [result_readSources_strict] at hread
    obtain ⟨source, hsource⟩ := mapM_isOk_iff.1 ⟨sources, hread⟩ _ hfile
    cases (parse_eq_error_iff.2 ⟨hnone, rfl⟩).symm.trans hsource
  | resolving hfiles hmodels' hm hresolve =>
    cases hreads.unique hfiles
    cases hmodels'.symm.trans hmodels
    rw [sources_of_readSources hsources] at hsettled
    obtain ⟨found, hfound⟩ := (settleAll_eq_ok_iff.1 hsettled).1 _ hm
    cases hresolve.symm.trans hfound

/-! ## What a run leaves behind -/

/-- The documents of a request as files. -/
def artifacts (r : Request) (g : Generation) : List Artifact :=
  g.models.map (ApiModel.artifact r.outputDirectory r.format)

theorem run_of_error (h : (r.documents t).result = .error e) :
    (r.run t).result = .error (.failed e) ∧ (r.run t).tree = t ∧ (r.run t).output = "" := by
  simp only [run, h, and_self]

theorem run_toTerminal (h : (r.documents t).result = .ok g) (hterminal : r.toTerminal = true) :
    (r.run t).result = .ok () ∧ (r.run t).tree = t := by
  simp only [run, h, hterminal, if_true, and_self]

theorem run_toFiles {t' : FileTree} {paths : List String} {outcome : Except WriteFailure Unit}
    (h : (r.documents t).result = .ok g) (hfiles : r.toTerminal = false)
    (hwrite : t.writeAll (r.artifacts g) = (t', paths, outcome)) :
    (r.run t).result = outcome.mapError .unwritten ∧ (r.run t).tree = t' := by
  have hdocuments : t.writeDocuments r.outputDirectory r.format g.models = (t', paths, outcome) :=
    hwrite
  simp only [run, h, hfiles, hdocuments]
  cases outcome <;> exact ⟨rfl, rfl⟩

/-- Only what keeps a run from its documents is reported as such. -/
theorem documents_of_run_failed (h : (r.run t).result = .error (.failed e)) :
    (r.documents t).result = .error e := by
  cases hdocuments : (r.documents t).result with
  | error e' =>
    rw [(run_of_error hdocuments).1] at h
    cases h
    rfl
  | ok g =>
    cases hterminal : r.toTerminal with
    | true =>
      rw [(run_toTerminal hdocuments hterminal).1] at h
      cases h
    | false =>
      rcases hwrite : t.writeAll (r.artifacts g) with ⟨t', paths, outcome⟩
      rw [(run_toFiles hdocuments hterminal hwrite).1] at h
      cases outcome <;> cases h

/-- What a run leaves behind. If anything is wrong with the project, whichever file or API it is
about, the run fails, prints nothing and leaves the tree as it was; it reports something that is
wrong. A run that prints does not change the tree in any case. A run that writes files, from a
current directory that exists, comes to its end or to a file that cannot be written: those before it
are written, and except for them the tree is as it was, up to new directories above the files that
were begun. -/
theorem run_frame (r : Request) (t : FileTree) :
    (∀ e, r.Fails t e →
      (∃ e', (r.run t).result = .error (.failed e')) ∧ (r.run t).tree = t ∧
        (r.run t).output = "") ∧
    (∀ e, (r.run t).result = .error (.failed e) → r.Fails t e) ∧
    (r.toTerminal = true → (r.run t).tree = t) ∧
    (r.toTerminal = false → t.IsGrounded → (∀ e, ¬ r.Fails t e) →
      ∃ g, (r.documents t).result = .ok g ∧
        ((∃ before a after tₖ cause, r.artifacts g = before ++ a :: after ∧
            t.writeAll before = (tₖ, before.map Artifact.path, .ok ()) ∧
            tₖ.write a = ((r.run t).tree, .error cause) ∧
            (r.run t).result = .error (.unwritten cause) ∧
            t.Wrote before (before ++ [a]) (r.run t).tree) ∨
          t.writeAll (r.artifacts g) =
              ((r.run t).tree, (r.artifacts g).map Artifact.path, .ok ()) ∧
            (r.run t).result = .ok () ∧
            t.Wrote (r.artifacts g) (r.artifacts g) (r.run t).tree)) := by
  refine ⟨fun e hfails => ?_, fun e h => fails_of_documents (documents_of_run_failed h),
    fun hterminal => ?_, fun hfiles ht hnone => ?_⟩
  · cases hdocuments : (r.documents t).result with
    | error e' =>
      obtain ⟨hresult, htree, houtput⟩ := run_of_error hdocuments
      exact ⟨⟨e', hresult⟩, htree, houtput⟩
    | ok g => exact absurd hfails (not_fails_of_documents hdocuments)
  · cases hdocuments : (r.documents t).result with
    | error e => exact (run_of_error hdocuments).2.1
    | ok g => exact (run_toTerminal hdocuments hterminal).2
  · cases hdocuments : (r.documents t).result with
    | error e => exact absurd (fails_of_documents hdocuments) (hnone e)
    | ok g =>
      refine ⟨g, rfl, ?_⟩
      rcases hwrite : t.writeAll (r.artifacts g) with ⟨t', paths, outcome⟩
      obtain ⟨hresult, rfl⟩ := run_toFiles hdocuments hfiles hwrite
      cases outcome with
      | ok _ =>
        obtain ⟨rfl, hwrote⟩ := FileTree.writeAll_wrote ht hwrite
        exact .inr ⟨rfl, hresult, hwrote⟩
      | error cause =>
        obtain ⟨before, a, after, tₖ, has, hbefore, ha⟩ := FileTree.writeAll_eq_error hwrite
        obtain ⟨rfl, -⟩ := FileTree.writeAll_wrote ht hbefore
        exact .inl ⟨before, a, after, tₖ, cause, has, hbefore, ha, hresult,
          FileTree.wrote_of_write_eq_error ht hbefore ha⟩

/-- Annotations for two APIs, and a directory where the second document goes. -/
def blockedTree : FileTree :=
  ⟨.directory [("p", .directory
      [("a.rs", .file "// docapi:a title A\n// docapi:b title B".toUTF8)]),
    ("out", .directory [("openapi.b.json", .directory [])])], []⟩

/-- A request for files. -/
def blockedRequest : Request :=
  { projectPath := "p", format := .json, outputDirectory := "out" }

/-- The run fails at the second document: the first one is there, and nothing else is. -/
theorem run_frame_blocked :
    blockedTree.IsGrounded ∧ (∀ e, ¬ blockedRequest.Fails blockedTree e) ∧
    (blockedRequest.run blockedTree).result =
      .error (.unwritten (.file "out/openapi.b.json" .isADirectory)) ∧
    ∃ a b, a.path = "out/openapi.a.json" ∧ b.path = "out/openapi.b.json" ∧
      blockedTree.Wrote [a] [a, b] (blockedRequest.run blockedTree).tree := by
  have hgrounded : blockedTree.IsGrounded := rfl
  have hpaths : (blockedRequest.documents blockedTree).result.toOption.map
      (fun g => (blockedRequest.artifacts g).map Artifact.path) =
        some ["out/openapi.a.json", "out/openapi.b.json"] := by decide +kernel
  have hresult : (blockedRequest.run blockedTree).result =
      .error (.unwritten (.file "out/openapi.b.json" .isADirectory)) := by decide +kernel
  have hnone : ∀ e, ¬ blockedRequest.Fails blockedTree e := by
    intro e
    cases hdocuments : (blockedRequest.documents blockedTree).result with
    | error e' =>
      rw [hdocuments] at hpaths
      cases hpaths
    | ok g => exact not_fails_of_documents hdocuments
  refine ⟨hgrounded, hnone, hresult, ?_⟩
  obtain ⟨g, hdocuments, ⟨before, b, after, tₖ, cause, hartifacts, -, hb, hcause, hwrote⟩ |
    ⟨-, hok, -⟩⟩ := (run_frame blockedRequest blockedTree).2.2.2 rfl hgrounded hnone
  · rw [hdocuments] at hpaths
    have hlist : (blockedRequest.artifacts g).map Artifact.path =
        ["out/openapi.a.json", "out/openapi.b.json"] := Option.some.inj hpaths
    rw [hartifacts, List.map_append, List.map_cons] at hlist
    -- the failure names the second document
    rw [hresult] at hcause
    cases hcause
    obtain ⟨-, ⟨e, he⟩ | ⟨e, he⟩⟩ := FileTree.write_eq_error hb
    · cases he
    · obtain ⟨hpath, -⟩ := WriteFailure.file.inj he
      cases before with
      | nil => simp [← hpath] at hlist
      | cons a before =>
        obtain ⟨ha, hrest⟩ := List.cons.inj hlist
        cases before with
        | nil => exact ⟨a, b, ha, hpath.symm, hwrote⟩
        | cons c before => simp at hrest
  · rw [hresult] at hok
    cases hok

end ApiNotes.CommandLine.Request
