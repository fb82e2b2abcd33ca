/-
What writing leaves alone. Making directories and writing files changes the tree at the places of
these files and of the directories above them, and nowhere else. If a file of a list cannot be
written, those before it stand in the tree, and all that is left of it and of the files after it is
directories.
-/
import ApiNotes.Proofs.FileTree.Writing

namespace ApiNotes.FileTree

variable {t t₁ t' : FileTree} {a : Artifact} {as : List Artifact} {paths paths' : List String}

/-! ## Changes at some places -/

/-- What stands at a place is the same unless one of some paths leads there. -/
def ChangesOnlyAt (t : FileTree) (paths : List String) (t' : FileTree) : Prop :=
  ∀ q, (∀ path ∈ paths, q ≠ t.placeOf path) → t'.entryAt q = t.entryAt q

theorem ChangesOnlyAt.refl (t : FileTree) (paths : List String) : t.ChangesOnlyAt paths t :=
  fun _ _ => rfl

theorem ChangesOnlyAt.mono (h : t.ChangesOnlyAt paths t') (hsub : paths ⊆ paths') :
    t.ChangesOnlyAt paths' t' :=
  fun q hq => h q fun path hpath => hq path (hsub hpath)

/-- Paths lead to the same places as long as the current directory is the same. -/
theorem ChangesOnlyAt.trans (hcurrent : t₁.current = t.current) (h : t.ChangesOnlyAt paths t₁)
    (h' : t₁.ChangesOnlyAt paths' t') : t.ChangesOnlyAt (paths ++ paths') t' := by
  intro q hq
  obtain ⟨hq₁, hq₂⟩ := List.forall_mem_append.1 hq
  rw [h' q fun path hpath => placeOf_of_current hcurrent path ▸ hq₂ path hpath, h q hq₁]

/-! ## One file -/

theorem createAll_changesOnlyAt (ht : t.IsGrounded) (paths : List String) :
    t.ChangesOnlyAt paths (t.createAll paths).1 := by
  have hinv : t.Extends (t.createAll paths).1 ∧ t.ChangesOnlyAt paths (t.createAll paths).1 := by
    refine createAll_invariant (P := fun t₁ => t.Extends t₁ ∧ t.ChangesOnlyAt paths t₁)
      ⟨.refl t, .refl t paths⟩ ?_
    rintro path hpath t₁ t₂ ⟨hext, hch⟩ hc
    have ht₁ := hext.isGrounded ht
    refine ⟨hext.trans (createDirectory_extends ht₁ hc), fun q hq => ?_⟩
    rw [(createDirectory_eq_ok ht₁ hc).2.2, placeOf_of_current hext.current,
      if_neg (hq path hpath), hch q hq]
  exact hinv.2

/-- A write changes the place of its file and makes directories above it. -/
theorem write_changesOnlyAt (ht : t.IsGrounded) (h : t.write a = (t', .ok ())) :
    t.ChangesOnlyAt (a.path :: Path.parents a.path) t' := by
  intro q hq
  obtain ⟨hplace, habove⟩ := List.forall_mem_cons.1 hq
  have hext := createAll_extends ht (Path.parents a.path)
  obtain ⟨-, -, -, hentries⟩ := writeFile_eq_ok (hext.isGrounded ht) (write_eq_ok h)
  rw [hentries, placeOf_of_current hext.current, if_neg hplace]
  exact createAll_changesOnlyAt ht _ q habove

/-! ## A list of files -/

/-- The directories above the files of a list. -/
def above (as : List Artifact) : List String :=
  as.flatMap fun a => Path.parents a.path

/-- A tree in which some files were written and others were begun: it is like the tree before except
for the last text of each place and for new directories above these files. -/
structure Wrote (t : FileTree) (done begun : List Artifact) (t' : FileTree) : Prop
    extends t.HoldsAll done t' where
  changes : t.ChangesOnlyAt (done.map Artifact.path ++ above begun) t'

theorem Wrote.isGrounded {done begun : List Artifact} (h : t.Wrote done begun t')
    (ht : t.IsGrounded) : t'.IsGrounded := by
  unfold IsGrounded
  rw [h.current]
  exact h.directories _ ht

/-- Files that were written were begun, and nothing else was. -/
theorem writeAll_wrote (ht : t.IsGrounded) (h : t.writeAll as = (t', paths, .ok ())) :
    paths = as.map Artifact.path ∧ t.Wrote as as t' := by
  obtain ⟨hpaths, hall⟩ := writeAll_holdsAll ht h
  refine ⟨hpaths, hall, ?_⟩
  clear hpaths hall
  induction as generalizing t paths with
  | nil => cases h; exact .refl _ _
  | cons a rest ih =>
    obtain ⟨cause, -, -, ⟨⟩⟩ | ⟨t₁, paths', hfirst, hrest, -⟩ := writeAll_cons_eq h
    have hholds := write_holds ht hfirst
    have hchanges := (write_changesOnlyAt ht hfirst).trans hholds.current
      (ih (hholds.isGrounded ht) hrest)
    refine hchanges.mono fun path hpath => ?_
    simp only [above, List.map_cons, List.flatMap_cons, List.cons_append, List.mem_cons,
      List.mem_append] at hpath ⊢
    grind

/-- New directories leave what was written. -/
theorem HoldsAll.extends (h : t.HoldsAll as t₁) (hext : t₁.Extends t') : t.HoldsAll as t' := by
  have hdirs : ∀ q, t₁.entryAt q = some .directory → t'.entryAt q = some .directory :=
    fun q => (hext.entries q).entry
  exact ⟨hext.current.trans h.current, fun a ha => (h.leads a ha).mono hext.current hdirs,
    fun q hq => hdirs q (h.directories q hq),
    fun q text hq => (hext.entries q).entry (h.written q text hq),
    fun q hq => (h.elsewhere q hq).trans (hext.entries q)⟩

/-- The writing of a list ends at the first file that cannot be written. -/
theorem writeAll_eq_error {cause : WriteFailure} (h : t.writeAll as = (t', paths, .error cause)) :
    ∃ before a after tₖ, as = before ++ a :: after ∧ t.writeAll before = (tₖ, paths, .ok ()) ∧
      tₖ.write a = (t', .error cause) := by
  induction as generalizing t paths with
  | nil => cases h
  | cons a rest ih =>
    obtain ⟨e, hfirst, rfl, he⟩ | ⟨t₁, paths', hfirst, hrest, rfl⟩ := writeAll_cons_eq h
    · cases he
      exact ⟨[], a, rest, t, rfl, rfl, hfirst⟩
    · obtain ⟨before, b, after, tₖ, rfl, hbefore, hb⟩ := ih hrest
      refine ⟨a :: before, b, after, tₖ, rfl, ?_, hb⟩
      simp only [writeAll, hfirst, hbefore]

/-- The files before one that cannot be written were written; of this one there are at most
directories. -/
theorem wrote_of_write_eq_error {tₖ : FileTree} {cause : WriteFailure} {before : List Artifact}
    (ht : t.IsGrounded) (hbefore : t.writeAll before = (tₖ, paths, .ok ()))
    (ha : tₖ.write a = (t', .error cause)) : t.Wrote before (before ++ [a]) t' := by
  obtain ⟨-, hwrote⟩ := writeAll_wrote ht hbefore
  have htₖ := hwrote.isGrounded ht
  obtain ⟨rfl, -⟩ := write_eq_error ha
  refine ⟨hwrote.toHoldsAll.extends (createAll_extends htₖ _), ?_⟩
  have hchanges := hwrote.changes.trans hwrote.current
    (createAll_changesOnlyAt htₖ (Path.parents a.path))
  simpa [above] using hchanges

end ApiNotes.FileTree
