/-
The files of the documents of a run. Each document has a path, but the paths of two documents may
lead to one place: an annotation for all APIs gives them one file name, and a path may be spelled in
several ways. At such a place the later document counts, so all documents of a run can be read back
just if no two different ones belong to one place.
-/
import ApiNotes.Project
import ApiNotes.Proofs.FileTree.Writing
import Mathlib.Data.List.Nodup

namespace ApiNotes

/-- Where the document of an API goes in a directory. -/
def ApiModel.place (t : FileTree) (directory : String) (format : Format) (m : ApiModel) :
    List String :=
  t.placeOf (m.artifact directory format).path

namespace FileTree

variable {t t' : FileTree} {directory : String} {format : Format} {ms : List ApiModel}

theorem forall₂_read_iff {paths : List String}
    (hpaths : paths = ms.map fun m => (m.artifact directory format).path) :
    List.Forall₂ (fun path m => t'.read path = .ok (m.document.render format)) paths ms ↔
      ∀ a ∈ ms.map (ApiModel.artifact directory format), t'.read a.path = .ok a.text := by
  rw [hpaths, List.forall₂_map_left_iff, List.forall₂_same, List.forall_mem_map]
  rfl

/-- What a successful run leaves in its files: one path for each document; the document that is the
last one of its place can be read back; and all of them can exactly if no two documents with
different texts belong to one place. -/
theorem writeDocuments_read_iff (t t' : FileTree) (directory : String) (format : Format)
    (ms : List ApiModel) (paths : List String) (ht : t.IsGrounded)
    (h : t.writeDocuments directory format ms = (t', paths, .ok ())) :
    paths = (ms.map fun m => Path.join directory (m.artifactName format.extension)) ∧
    (∀ before m after, ms = before ++ m :: after →
      (∀ m' ∈ after, m'.place t directory format ≠ m.place t directory format) →
      t'.read (m.artifact directory format).path = .ok (m.document.render format)) ∧
    (List.Forall₂ (fun path m => t'.read path = .ok (m.document.render format)) paths ms ↔
      ∀ m ∈ ms, ∀ m' ∈ ms, m.place t directory format = m'.place t directory format →
        m.document.render format = m'.document.render format) := by
  obtain ⟨hpaths, hall⟩ := writeAll_holdsAll ht h
  rw [List.map_map] at hpaths
  refine ⟨hpaths, fun before m after hms hafter => ?_, ?_⟩
  · have hmem : m.artifact directory format ∈ ms.map (ApiModel.artifact directory format) :=
      List.mem_map_of_mem (by simp [hms])
    rw [hall.read_iff hmem, hms, List.map_append, List.map_cons, lastText?_append_cons]
    · rfl
    · exact List.forall_mem_map.2 hafter
  · rw [forall₂_read_iff hpaths, hall.forall_read_iff]
    simp only [List.forall_mem_map]
    rfl

/-- Two APIs, one of which has a file name of its own that goes down and up again. -/
def ownNameCommands : List Command :=
  [⟨.title, ["A"], some "a", none⟩, ⟨.title, ["B"], some "b", none⟩,
   ⟨.filename, ["sub/../b.json"], some "b", none⟩]

/-- A current directory without entries. -/
def workTree : FileTree :=
  ⟨.directory [("work", .directory [])], ["work"]⟩

/-- The two documents have different places, so both can be read back. -/
theorem writeDocuments_read_iff_ownName : ∃ ms t',
    (interpret ownNameCommands).result = .ok ms ∧ workTree.IsGrounded ∧
    workTree.writeDocuments "out" .json ms =
      (t', ["out/openapi.a.json", "out/sub/../b.json"], .ok ()) ∧
    List.Forall₂ (fun path m => t'.read path = .ok (m.document.render .json))
      ["out/openapi.a.json", "out/sub/../b.json"] ms := by
  obtain ⟨ms, t', hrun, hplaces, hwrite⟩ : ∃ ms t', (interpret ownNameCommands).result = .ok ms ∧
      ms.map (ApiModel.place workTree "out" .json) =
        [["work", "out", "openapi.a.json"], ["work", "out", "b.json"]] ∧
      workTree.writeDocuments "out" .json ms =
        (t', ["out/openapi.a.json", "out/sub/../b.json"], .ok ()) := ⟨_, _, rfl, rfl, rfl⟩
  have hgrounded : workTree.IsGrounded := rfl
  obtain ⟨-, -, hiff⟩ := writeDocuments_read_iff _ _ _ _ _ _ hgrounded hwrite
  refine ⟨ms, t', hrun, hgrounded, hwrite, hiff.2 fun m hm m' hm' hplace => ?_⟩
  have hnodup : (ms.map (ApiModel.place workTree "out" .json)).Nodup := by rw [hplaces]; decide
  rw [List.inj_on_of_nodup_map hnodup hm hm' hplace]

/-- Two APIs, and a file name for both. -/
def sharedNameCommands : List Command :=
  [⟨.title, ["A"], some "a", none⟩, ⟨.title, ["B"], some "b", none⟩,
   ⟨.filename, ["api.json"], none, none⟩]

/-- The file of both APIs holds one document only, although the writing succeeds. -/
theorem writeDocuments_sharedName : ∃ ms t' paths,
    (interpret sharedNameCommands).result = .ok ms ∧ ms.map ApiModel.name = ["a", "b"] ∧
    FileTree.writeDocuments ⟨.directory [], []⟩ "out" .json ms = (t', paths, .ok ()) ∧
    paths = ["out/api.json", "out/api.json"] ∧
    ¬ List.Forall₂ (fun path m => t'.read path = .ok (m.document.render .json)) paths ms := by
  refine ⟨_, _, _, rfl, rfl, rfl, rfl, ?_⟩
  rintro (_ | ⟨hfirst, _ | ⟨hsecond, _⟩⟩)
  have htexts := Except.ok.inj (hfirst.symm.trans hsecond)
  exact absurd htexts (by decide)

end FileTree

end ApiNotes
