/-
Writing files. Making directories adds directories and changes nothing else; writing a text puts a
file at one place and changes nothing else. After a list of texts was written in order, the path of
each of them leads to the last text that was written to its place.
-/
import ApiNotes.FileTree.Writing
import ApiNotes.Proofs.FileTree.Entries
import ApiNotes.Proofs.Text.Pieces

namespace ApiNotes

namespace Path

/-! ## Paths of files -/

theorem getLast?_splitOn_slash {l : List Char} (h : (l.splitOn '/').getLast? = some []) :
    l = [] ∨ l.getLast? = some '/' := by
  induction l using Text.pieces_induction '/' with
  | last piece hpiece =>
    rw [List.splitOn_eq_singleton hpiece] at h
    exact .inl (by simpa using h)
  | more piece rest hpiece ih =>
    rw [List.splitOn_append_cons_self_of_not_mem hpiece,
      List.getLast?_cons_of_ne_nil (List.splitOn_ne_nil '/' rest)] at h
    rcases ih h with rfl | hlast
    · simp
    · simp [List.getLast?_cons, hlast]

/-- A path that may mean a file has no empty segments at its end. -/
theorem trimmedSegments_eq {path : String} (hpath : path.isEmpty = false)
    (hslash : endsWithSlash path = false) : trimmedSegments path = segments path := by
  have hlast : ∀ segment, (segments path).getLast? = some segment → segment.isEmpty = false := by
    intro segment h
    unfold segments at h
    rw [List.getLast?_map, Option.map_eq_some_iff] at h
    obtain ⟨piece, hpiece, rfl⟩ := h
    cases piece with
    | cons c cs => simp
    | nil =>
      rcases getLast?_splitOn_slash hpiece with hnil | hend
      · rw [String.toList_eq_nil_iff] at hnil
        simp [hnil] at hpath
      · simp [endsWithSlash, hend] at hslash
  unfold trimmedSegments
  cases hr : (segments path).reverse with
  | nil => rw [List.reverse_eq_nil_iff] at hr; rw [hr]; rfl
  | cons last rest =>
    have hseg : segments path = rest.reverse ++ [last] := by
      rw [← List.reverse_reverse (segments path), hr, List.reverse_cons]
    have hempty : last.isEmpty = false := hlast last (by simp [hseg])
    rw [List.dropWhile_cons_of_neg (by simp [hempty]), List.reverse_cons, hseg]

end Path

namespace FileTree

variable {t t' : FileTree}

/-! ## Making directories -/

/-- What stands at a place is kept; a directory may stand where nothing stood. -/
def KeepsAt (t t' : FileTree) (q : List String) : Prop :=
  t'.entryAt q = t.entryAt q ∨ t.entryAt q = none ∧ t'.entryAt q = some .directory

/-- Keeping is transitive: a new directory is kept as well. -/
theorem KeepsAt.trans {t'' : FileTree} {q : List String} (h : t.KeepsAt t' q)
    (h' : t'.KeepsAt t'' q) : t.KeepsAt t'' q := by
  rcases h with he | ⟨hn, hd⟩ <;> rcases h' with he' | ⟨hn', hd'⟩
  · exact .inl (he'.trans he)
  · exact .inr ⟨he.symm.trans hn', hd'⟩
  · exact .inr ⟨hn, he'.trans hd⟩
  · exact .inr ⟨hn, hd'⟩

theorem KeepsAt.entry {q : List String} (h : t.KeepsAt t' q) {e : Entry}
    (hq : t.entryAt q = some e) : t'.entryAt q = some e := by
  rcases h with he | ⟨hn, -⟩
  · exact he.trans hq
  · rw [hq] at hn; cases hn

/-- A tree with the same entries as another one and possibly more directories. -/
structure Extends (t t' : FileTree) : Prop where
  current : t'.current = t.current
  entries : ∀ q, t.KeepsAt t' q

theorem Extends.refl (t : FileTree) : t.Extends t :=
  ⟨rfl, fun _ => .inl rfl⟩

theorem Extends.trans {t'' : FileTree} (h : t.Extends t') (h' : t'.Extends t'') :
    t.Extends t'' :=
  ⟨h'.current.trans h.current, fun q => (h.entries q).trans (h'.entries q)⟩

theorem Extends.isGrounded (h : t.Extends t') (ht : t.IsGrounded) : t'.IsGrounded := by
  unfold IsGrounded
  rw [h.current]
  exact (h.entries _).entry ht

theorem step_of_isName {directory : List String} {segment : String}
    (h : Path.isName segment = true) : step directory segment = directory ++ [segment] := by
  have hup : segment ≠ ".." := by
    rintro rfl
    simp [Path.isName] at h
  rw [step, if_neg hup, if_pos h]

/-- Creating a directory puts one where nothing stood, and changes nothing else. -/
theorem createDirectory_eq_ok {path : String} (ht : t.IsGrounded)
    (h : t.createDirectory path = .ok t') :
    t'.current = t.current ∧ t.entryAt (t.placeOf path) = none ∧
    ∀ q, t'.entryAt q = if q = t.placeOf path then some .directory else t.entryAt q := by
  unfold createDirectory at h
  split at h
  · cases h
  · rename_i directory last hreach
    dsimp only at h
    split at h
    · rename_i hcond
      cases h
      obtain ⟨hname, hnone⟩ := Bool.and_eq_true_iff.1 hcond
      obtain ⟨-, henter, hlast⟩ := reach_eq_ok_iff.1 hreach
      obtain ⟨hfold, hdirectory⟩ := enter_eq_ok henter (entryAt_origin ht path)
      have hplace : step directory last = t.placeOf path := by
        rw [hfold, hlast, ← foldl_step, foldl_trimmedSegments, placeOf]
      rw [step_of_isName hname] at hnone hplace ⊢
      have hnone' : t.entryAt (directory ++ [last]) = none :=
        entryAt_eq_none_iff.2 (Option.isNone_iff_eq_none.1 hnone)
      have hold : t.entryAt (directory ++ [last]) ≠ some .directory := by simp [hnone']
      rw [← hplace]
      exact ⟨rfl, hnone', entryAt_put Node.isLeaf_empty hdirectory hold⟩
    · cases h

theorem createDirectory_extends {path : String} (ht : t.IsGrounded)
    (h : t.createDirectory path = .ok t') : t.Extends t' := by
  obtain ⟨hcurrent, hnone, hentries⟩ := createDirectory_eq_ok ht h
  refine ⟨hcurrent, fun q => ?_⟩
  by_cases hq : q = t.placeOf path
  · subst hq
    exact .inr ⟨hnone, (hentries _).trans (if_pos rfl)⟩
  · exact .inl ((hentries q).trans (if_neg hq))

theorem ensureDirectory_eq_ok {path : String} (h : t.ensureDirectory path = .ok t') :
    t.createDirectory path = .ok t' ∨ t' = t := by
  unfold ensureDirectory at h
  split at h
  · rename_i hc
    cases h
    exact .inl hc
  · split at h
    · cases h; exact .inr rfl
    · cases h

/-- Making directories is creating some of them one after the other, whether it comes to its end or
not, so what creating each of them keeps is kept. -/
theorem createAll_invariant {P : FileTree → Prop} {paths : List String} (h : P t)
    (hcreate : ∀ path ∈ paths, ∀ t₁ t₂, P t₁ → t₁.createDirectory path = .ok t₂ → P t₂) :
    P (t.createAll paths).1 := by
  have hensure : ∀ path ∈ paths, ∀ t₁ t₂, P t₁ → t₁.ensureDirectory path = .ok t₂ → P t₂ := by
    intro path hpath t₁ t₂ h₁ he
    rcases ensureDirectory_eq_ok he with hc | rfl
    · exact hcreate path hpath t₁ t₂ h₁ hc
    · exact h₁
  clear hcreate
  induction paths with
  | nil => exact h
  | cons path above ih =>
    obtain ⟨hpath, habove⟩ := List.forall_mem_cons.1 hensure
    specialize ih habove
    unfold createAll
    split
    · exact h
    · split
      · rename_i he
        exact hpath _ _ h he
      · split
        · rename_i hc
          rwa [hc] at ih
        · rename_i hc
          rw [hc] at ih
          split
          · rename_i he
            exact hpath _ _ ih he
          · exact ih
      · exact h

/-- Making directories only adds directories. -/
theorem createAll_extends (ht : t.IsGrounded) (paths : List String) :
    t.Extends (t.createAll paths).1 :=
  createAll_invariant (.refl t) fun _ _ _ _ h hc =>
    h.trans (createDirectory_extends (h.isGrounded ht) hc)

/-! ## Writing one file -/

/-- A path can be followed up to its last segment, and leads to a place. -/
def Leads (t : FileTree) (path : String) (place : List String) : Prop :=
  ∃ directory last, t.reach path (Path.segments path) = .ok (directory, last) ∧
    step directory last = place

theorem Leads.read {path text : String} {place : List String} (h : t.Leads path place)
    (he : t.entryAt place = some (.file text.toUTF8)) : t.read path = .ok text := by
  obtain ⟨directory, last, hreach, rfl⟩ := h
  obtain ⟨node, hnode, hentry⟩ := Option.map_eq_some_iff.1 he
  cases node with
  | directory entries => cases hentry
  | file content =>
    cases hentry
    have hvalid : String.fromUTF8? text.toUTF8 = some text := dif_pos text.isValidUTF8
    simp only [FileTree.read, FileTree.node, hreach, hnode, hvalid]

/-- Writing a text puts a file at the place of its path, which is no directory, and changes nothing
else. -/
theorem writeFile_eq_ok {path text : String} (ht : t.IsGrounded)
    (h : t.writeFile path text = .ok t') :
    t'.current = t.current ∧ t.Leads path (t.placeOf path) ∧
    t.entryAt (t.placeOf path) ≠ some .directory ∧
    ∀ q, t'.entryAt q =
      if q = t.placeOf path then some (.file text.toUTF8) else t.entryAt q := by
  unfold writeFile at h
  split at h
  · cases h
  · rename_i directory last hreach
    dsimp only at h
    split at h
    · rename_i hcond
      obtain ⟨hname, hslash⟩ := Bool.and_eq_true_iff.1 hcond
      obtain ⟨hpath, henter, hlast⟩ := reach_eq_ok_iff.1 hreach
      rw [Path.trimmedSegments_eq hpath (by simpa using hslash)] at hreach henter hlast
      obtain ⟨hfold, hdirectory⟩ := enter_eq_ok henter (entryAt_origin ht path)
      have hplace : step directory last = t.placeOf path := by
        rw [hfold, hlast, ← foldl_step, placeOf]
      simp only [step_of_isName hname] at h hplace
      split at h
      · cases h
      · rename_i hnot
        cases h
        have hold : t.entryAt (directory ++ [last]) ≠ some .directory := fun hd =>
          let ⟨entries, he⟩ := entryAt_eq_directory_iff.1 hd
          hnot entries he
        rw [← hplace]
        exact ⟨rfl, ⟨directory, last, hreach, step_of_isName hname⟩, hold,
          entryAt_put (Node.isLeaf_file _) hdirectory hold⟩
    · cases h

theorem placeOf_of_current (h : t'.current = t.current) (path : String) :
    t'.placeOf path = t.placeOf path := by
  unfold placeOf origin
  rw [h]

/-- A tree in which the text of an artifact stands at its place, and which is like another one
otherwise, up to new directories. -/
structure Holds (t : FileTree) (a : Artifact) (t' : FileTree) : Prop where
  current : t'.current = t.current
  leads : t'.Leads a.path (t.placeOf a.path)
  vacant : t.entryAt (t.placeOf a.path) ≠ some .directory
  entry : t'.entryAt (t.placeOf a.path) = some (.file a.text.toUTF8)
  elsewhere : ∀ q, q ≠ t.placeOf a.path → t.KeepsAt t' q

/-- No directory goes away: the file does not stand at the place of one. -/
theorem Holds.directories {a : Artifact} (h : t.Holds a t') {q : List String}
    (hq : t.entryAt q = some .directory) : t'.entryAt q = some .directory := by
  have hne : q ≠ t.placeOf a.path := by
    rintro rfl
    exact h.vacant hq
  exact (h.elsewhere q hne).entry hq

theorem Holds.isGrounded {a : Artifact} (h : t.Holds a t') (ht : t.IsGrounded) :
    t'.IsGrounded := by
  unfold IsGrounded
  rw [h.current]
  exact h.directories ht

theorem Leads.mono {path : String} {place : List String} (hcurrent : t'.current = t.current)
    (hdirs : ∀ q, t.entryAt q = some .directory → t'.entryAt q = some .directory)
    (h : t.Leads path place) : t'.Leads path place := by
  obtain ⟨directory, last, hreach, hstep⟩ := h
  exact ⟨directory, last, reach_mono hcurrent hdirs hreach, hstep⟩

/-- A write makes directories and then puts one file. -/
theorem write_eq_ok {a : Artifact} (h : t.write a = (t', .ok ())) :
    (t.createAll (Path.parents a.path)).1.writeFile a.path a.text = .ok t' := by
  unfold write at h
  dsimp only at h
  split at h
  · cases h
  · rename_i t₁ hcreate
    rw [hcreate]
    split at h
    · rename_i t₂ hwrite
      cases h
      exact hwrite
    · cases h

/-- A write that fails leaves the directories that were made, and names the file or the directory
that holds it. -/
theorem write_eq_error {a : Artifact} {cause : WriteFailure} (h : t.write a = (t', .error cause)) :
    t' = (t.createAll (Path.parents a.path)).1 ∧
    ((∃ e, cause = .directory ((Path.parents a.path).headD "") e) ∨
      ∃ e, cause = .file a.path e) := by
  unfold write at h
  dsimp only at h
  split at h
  · rename_i hcreate
    cases h
    rw [hcreate]
    exact ⟨rfl, .inl ⟨_, rfl⟩⟩
  · rename_i hcreate
    rw [hcreate]
    split at h
    · cases h
    · cases h
      exact ⟨rfl, .inr ⟨_, rfl⟩⟩

theorem write_holds {a : Artifact} (ht : t.IsGrounded) (h : t.write a = (t', .ok ())) :
    t.Holds a t' := by
  have hwrite := write_eq_ok h
  have hext := createAll_extends ht (Path.parents a.path)
  generalize (t.createAll (Path.parents a.path)).1 = t₁ at hwrite hext
  obtain ⟨hcurrent, hleads, hvacant, hentries⟩ := writeFile_eq_ok (hext.isGrounded ht) hwrite
  rw [placeOf_of_current hext.current] at hleads hvacant hentries
  have hdirs : ∀ q, t₁.entryAt q = some .directory → t'.entryAt q = some .directory := by
    intro q hq
    rw [hentries, if_neg, hq]
    rintro rfl
    exact hvacant hq
  refine ⟨hcurrent.trans hext.current, hleads.mono hcurrent hdirs,
    fun hd => hvacant ((hext.entries _).entry hd), (hentries _).trans (if_pos rfl),
    fun q hq => ?_⟩
  have hlast : t₁.KeepsAt t' q := .inl ((hentries q).trans (if_neg hq))
  exact (hext.entries q).trans hlast

/-! ## Writing a list of files -/

/-- The last text of a list of artifacts that belongs to a place. -/
def lastText? (t : FileTree) (as : List Artifact) (place : List String) : Option String :=
  ((as.filter fun a => t.placeOf a.path = place).getLast?).map Artifact.text

theorem lastText?_cons (t : FileTree) (a : Artifact) (as : List Artifact) (place : List String) :
    t.lastText? (a :: as) place =
      (t.lastText? as place).or (if t.placeOf a.path = place then some a.text else none) := by
  unfold lastText?
  rw [List.filter_cons]
  by_cases ha : t.placeOf a.path = place
  · simp only [ha, decide_true, if_true, List.getLast?_cons]
    cases (as.filter fun a => t.placeOf a.path = place).getLast? <;> rfl
  · simp [ha]

theorem lastText?_eq_some {as : List Artifact} {place : List String} {text : String}
    (h : t.lastText? as place = some text) :
    ∃ a ∈ as, t.placeOf a.path = place ∧ a.text = text := by
  obtain ⟨a, ha, rfl⟩ := Option.map_eq_some_iff.1 h
  obtain ⟨hmem, hplace⟩ := List.mem_filter.1 (List.mem_of_getLast? ha)
  exact ⟨a, hmem, by simpa using hplace, rfl⟩

theorem lastText?_append_cons {before after : List Artifact} {a : Artifact}
    (hafter : ∀ b ∈ after, t.placeOf b.path ≠ t.placeOf a.path) :
    t.lastText? (before ++ a :: after) (t.placeOf a.path) = some a.text := by
  have hnone : (after.filter fun b => t.placeOf b.path = t.placeOf a.path) = [] :=
    List.filter_eq_nil_iff.2 fun b hb => by simpa using hafter b hb
  unfold lastText?
  rw [List.filter_append, List.filter_cons, hnone]
  simp

theorem lastText?_isSome {as : List Artifact} {a : Artifact} (ha : a ∈ as) :
    ∃ text, t.lastText? as (t.placeOf a.path) = some text := by
  have hmem : a ∈ as.filter fun b => t.placeOf b.path = t.placeOf a.path :=
    List.mem_filter.2 ⟨ha, by simp⟩
  exact ⟨_, by rw [lastText?, List.getLast?_eq_some_getLast (List.ne_nil_of_mem hmem)]; rfl⟩

/-- A tree in which the last text of each place stands, and which is like another one otherwise, up
to new directories. -/
structure HoldsAll (t : FileTree) (as : List Artifact) (t' : FileTree) : Prop where
  current : t'.current = t.current
  leads : ∀ a ∈ as, t'.Leads a.path (t.placeOf a.path)
  directories : ∀ q, t.entryAt q = some .directory → t'.entryAt q = some .directory
  written : ∀ q text, t.lastText? as q = some text → t'.entryAt q = some (.file text.toUTF8)
  elsewhere : ∀ q, t.lastText? as q = none → t.KeepsAt t' q

theorem Holds.cons {t₁ : FileTree} {a : Artifact} {as : List Artifact} (h : t.Holds a t₁)
    (hs : t₁.HoldsAll as t') : t.HoldsAll (a :: as) t' := by
  have hplace : ∀ path, t₁.placeOf path = t.placeOf path := placeOf_of_current h.current
  have hlast : ∀ q, t₁.lastText? as q = t.lastText? as q := by
    intro q
    simp only [lastText?, hplace]
  refine ⟨hs.current.trans h.current, ?_, fun q hq => hs.directories q (h.directories hq), ?_, ?_⟩
  · refine List.forall_mem_cons.2 ⟨h.leads.mono hs.current hs.directories, fun b hb => ?_⟩
    exact hplace b.path ▸ hs.leads b hb
  · intro q text hq
    rw [lastText?_cons, Option.or_eq_some_iff, ← hlast] at hq
    rcases hq with hq | ⟨hnone, hq⟩
    · exact hs.written q text hq
    · split at hq
      · rename_i hp
        cases hq
        subst hp
        -- the file is not touched any more
        exact (hs.elsewhere _ hnone).entry h.entry
      · cases hq
  · intro q hq
    rw [lastText?_cons, Option.or_eq_none_iff, ← hlast] at hq
    obtain ⟨hnone, hp⟩ := hq
    have hne : q ≠ t.placeOf a.path := by
      rintro rfl
      simp at hp
    exact (h.elsewhere q hne).trans (hs.elsewhere q hnone)

/-- Either the first file of a list cannot be written, or the others are written after it. -/
theorem writeAll_cons_eq {a : Artifact} {rest : List Artifact} {paths : List String}
    {outcome : Except WriteFailure Unit} (h : t.writeAll (a :: rest) = (t', paths, outcome)) :
    (∃ cause, t.write a = (t', .error cause) ∧ paths = [] ∧ outcome = .error cause) ∨
    ∃ t₁ paths', t.write a = (t₁, .ok ()) ∧ t₁.writeAll rest = (t', paths', outcome) ∧
      paths = a.path :: paths' := by
  rw [writeAll] at h
  split at h
  · rename_i hfirst
    cases h
    exact .inl ⟨_, hfirst, rfl, rfl⟩
  · rename_i t₁ hfirst
    cases h
    exact .inr ⟨t₁, _, hfirst, rfl, rfl⟩

/-- After texts were written in order, the last text of each place stands there. -/
theorem writeAll_holdsAll {as : List Artifact} {paths : List String} (ht : t.IsGrounded)
    (h : t.writeAll as = (t', paths, .ok ())) :
    paths = as.map Artifact.path ∧ t.HoldsAll as t' := by
  induction as generalizing t paths with
  | nil =>
    cases h
    exact ⟨rfl, rfl, by simp, fun _ hq => hq, by simp [lastText?], fun _ _ => .inl rfl⟩
  | cons a rest ih =>
    obtain ⟨cause, -, -, ⟨⟩⟩ | ⟨t₁, paths', hfirst, hrest, rfl⟩ := writeAll_cons_eq h
    have hholds := write_holds ht hfirst
    obtain ⟨rfl, hall⟩ := ih (hholds.isGrounded ht) hrest
    exact ⟨rfl, hholds.cons hall⟩

theorem HoldsAll.read_iff {as : List Artifact} (h : t.HoldsAll as t') {a : Artifact} (ha : a ∈ as)
    {text : String} :
    t'.read a.path = .ok text ↔ t.lastText? as (t.placeOf a.path) = some text := by
  obtain ⟨last, hlast⟩ := lastText?_isSome (t := t) ha
  rw [(h.leads a ha).read (h.written _ _ hlast), hlast]
  simp

/-- All texts can be read back just if no two different ones belong to the same place. -/
theorem HoldsAll.forall_read_iff {as : List Artifact} (h : t.HoldsAll as t') :
    (∀ a ∈ as, t'.read a.path = .ok a.text) ↔
      ∀ a ∈ as, ∀ b ∈ as, t.placeOf a.path = t.placeOf b.path → a.text = b.text := by
  constructor
  · intro hread a ha b hb hplace
    have hlasta := (h.read_iff ha).1 (hread a ha)
    have hlastb := (h.read_iff hb).1 (hread b hb)
    rw [hplace, hlastb] at hlasta
    exact (Option.some.inj hlasta).symm
  · intro hsame a ha
    obtain ⟨text, htext⟩ := lastText?_isSome (t := t) ha
    obtain ⟨b, hb, hplace, rfl⟩ := lastText?_eq_some htext
    rw [hsame a ha b hb hplace.symm]
    exact (h.read_iff ha).2 htext

end FileTree

end ApiNotes
