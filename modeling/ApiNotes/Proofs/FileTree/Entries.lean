/-
What stands at the places of a tree. A tree is told by the entry at each place: nothing, a directory
or a file with its content. Putting a file or an empty directory into an existing directory changes
the entry at that place and no other one, and whether a path can be followed depends on directories
only, so a path that leads somewhere does so as long as no directory goes away.
-/
import ApiNotes.FileTree.Basic
import ApiNotes.Proofs.Logged
import ApiNotes.Proofs.OrderedMap

namespace ApiNotes

/-- What can stand at a place of a tree. -/
inductive Entry where
  | directory
  | file (content : ByteArray)

namespace Node

/-- The node without what is below it. -/
def entry : Node → Entry
  | directory _ => .directory
  | file content => .file content

/-- Whether nothing is below the node. -/
def IsLeaf (node : Node) : Prop :=
  ∀ name rest, node.at? (name :: rest) = none

/-! ## Nodes below a node -/

@[simp]
theorem at?_nil (node : Node) : node.at? [] = some node := by
  cases node <;> rfl

theorem at?_cons_directory (entries : List (String × Node)) (name : String) (rest : List String) :
    (directory entries).at? (name :: rest) = (entries.lookup name).bind (·.at? rest) := by
  rw [at?]
  cases entries.lookup name <;> rfl

theorem isLeaf_file (content : ByteArray) : (file content).IsLeaf :=
  fun _ _ => rfl

theorem isLeaf_empty : (directory []).IsLeaf :=
  fun _ _ => rfl

theorem lookup_setEntry (name k : String) (node : Node) (entries : List (String × Node)) :
    (setEntry name node entries).lookup k = if k = name then some node else entries.lookup k := by
  induction entries with
  | nil => rw [setEntry, OrderedMap.lookup_cons_eq_ite]
  | cons e rest ih =>
    obtain ⟨n, old⟩ := e
    rw [setEntry]
    by_cases hn : n = name
    · subst hn
      by_cases hk : k = n <;> simp [OrderedMap.lookup_cons_eq_ite, hk]
    · rw [if_neg hn, OrderedMap.lookup_cons_eq_ite, OrderedMap.lookup_cons_eq_ite, ih]
      by_cases hk : k = n
      · subst hk; simp [hn]
      · simp [hk]

/-! ## Putting a leaf into a directory -/

/-- Putting a leaf over nothing or over a leaf changes what stands at this place only. -/
theorem entry_put {new : Node} (hnew : new.IsLeaf) {place : List String} {name : String}
    {root : Node} {entries : List (String × Node)}
    (hdirectory : root.at? place = some (directory entries))
    (hold : ∀ node, root.at? (place ++ [name]) = some node → node.IsLeaf) (q : List String) :
    ((new.put (place ++ [name]) root).at? q).map entry =
      if q = place ++ [name] then some new.entry else (root.at? q).map entry := by
  -- the induction goes down the directories on the way to the place
  induction place generalizing root q with
  | nil =>
    cases (at?_nil root).symm.trans hdirectory
    rw [List.nil_append, put, put]
    cases q with
    | nil => simp [entry]
    | cons n r =>
      rw [at?_cons_directory, at?_cons_directory, lookup_setEntry]
      by_cases hn : n = name
      · subst hn
        cases r with
        | nil => simp
        | cons n' r' =>
          have hbelow : (entries.lookup n).bind (·.at? (n' :: r')) = none := by
            cases hl : entries.lookup n with
            | none => rfl
            | some node =>
              refine hold node ?_ n' r'
              rw [List.nil_append, at?_cons_directory, hl]
              simp
          simp [hnew n' r', hbelow]
      · simp [hn]
  | cons d ds ih =>
    cases root with
    | file content => cases hdirectory
    | directory es =>
      rw [at?_cons_directory] at hdirectory
      obtain ⟨child, hchild, hds⟩ := Option.bind_eq_some_iff.1 hdirectory
      have hold' : ∀ node, child.at? (ds ++ [name]) = some node → node.IsLeaf := by
        intro node hnode
        refine hold node ?_
        rw [List.cons_append, at?_cons_directory, hchild]
        exact hnode
      rw [List.cons_append, put, hchild, Option.getD_some]
      cases q with
      | nil => simp [entry]
      | cons n r =>
        rw [at?_cons_directory, at?_cons_directory, lookup_setEntry]
        by_cases hn : n = d
        · subst hn
          simp only [if_true, Option.bind_some, ih hds hold' r, List.cons.injEq, true_and, hchild]
        · simp [hn]

end Node

namespace FileTree

variable {t t' : FileTree} {path : String} {segments directory place : List String}

/-! ## Entries of a tree -/

/-- What stands at a place, if anything does. -/
def entryAt (t : FileTree) (place : List String) : Option Entry :=
  (t.root.at? place).map Node.entry

/-- The current directory exists, and so does the root. -/
def IsGrounded (t : FileTree) : Prop :=
  t.entryAt t.current = some .directory

theorem entryAt_eq_directory_iff :
    t.entryAt place = some .directory ↔
      ∃ entries, t.root.at? place = some (.directory entries) := by
  unfold entryAt
  cases t.root.at? place with
  | none => simp
  | some node => cases node <;> simp [Node.entry]

theorem entryAt_eq_none_iff : t.entryAt place = none ↔ t.root.at? place = none := by
  simp [entryAt]

/-- Putting a leaf into a directory, not over a directory, changes what stands at this place. -/
theorem entryAt_put {new : Node} {name : String} (hnew : new.IsLeaf)
    (hdirectory : t.entryAt directory = some .directory)
    (hold : t.entryAt (directory ++ [name]) ≠ some .directory) (q : List String) :
    (t.put (directory ++ [name]) new).entryAt q =
      if q = directory ++ [name] then some new.entry else t.entryAt q := by
  obtain ⟨entries, hentries⟩ := entryAt_eq_directory_iff.1 hdirectory
  refine Node.entry_put hnew hentries (fun node hnode => ?_) q
  cases node with
  | file content => exact Node.isLeaf_file content
  | directory es => exact absurd (entryAt_eq_directory_iff.2 ⟨es, hnode⟩) hold

theorem entryAt_root (ht : t.IsGrounded) : t.entryAt [] = some .directory := by
  obtain ⟨entries, h⟩ := entryAt_eq_directory_iff.1 ht
  cases hroot : t.root with
  | directory es => simp [entryAt, hroot, Node.entry]
  | file content =>
    -- nothing is below a file, and the file itself is no directory
    rw [hroot] at h
    cases hc : t.current <;> rw [hc] at h <;> cases h

/-! ## Following paths -/

/-- The place that a path leads to if all directories on the way exist. -/
def placeOf (t : FileTree) (path : String) : List String :=
  (Path.segments path).foldl step (t.origin path)

/-- The place of a list of segments is one step from the directory that those before the last
spell. -/
theorem foldl_step (start segments : List String) : segments.foldl step start =
    step (segments.dropLast.foldl step start) (segments.getLast?.getD "") := by
  rcases List.eq_nil_or_concat segments with rfl | ⟨front, last, rfl⟩
  · rfl
  · simp

/-- Empty segments at the end stay at the same place. -/
theorem foldl_trimmedSegments (start : List String) (path : String) :
    (Path.trimmedSegments path).foldl step start = (Path.segments path).foldl step start := by
  unfold Path.trimmedSegments
  conv_rhs => rw [← List.reverse_reverse (Path.segments path)]
  induction (Path.segments path).reverse with
  | nil => rfl
  | cons last front ih =>
    rw [List.dropWhile_cons]
    split
    · rename_i hempty
      rw [ih, String.isEmpty_iff.1 hempty, List.reverse_cons, List.foldl_append]
      rfl
    · rfl

theorem entryAt_origin (ht : t.IsGrounded) (path : String) :
    t.entryAt (t.origin path) = some .directory := by
  unfold origin
  split
  · exact entryAt_root ht
  · exact ht

/-- Segments that can be followed lead to the place that they spell, which is a directory. -/
theorem enter_eq_ok {start : List String} (h : enter t.root start segments = .ok directory)
    (hstart : t.entryAt start = some .directory) :
    directory = segments.foldl step start ∧ t.entryAt directory = some .directory := by
  induction segments generalizing start with
  | nil => cases h; exact ⟨rfl, hstart⟩
  | cons segment rest ih =>
    rw [enter] at h
    split at h
    · rename_i es hes
      exact ih h (entryAt_eq_directory_iff.2 ⟨es, hes⟩)
    · cases h
    · cases h

/-- Segments can still be followed when no directory went away. -/
theorem enter_mono {start : List String}
    (hdirs : ∀ q, t.entryAt q = some .directory → t'.entryAt q = some .directory)
    (h : enter t.root start segments = .ok directory) :
    enter t'.root start segments = .ok directory := by
  induction segments generalizing start with
  | nil => exact h
  | cons segment rest ih =>
    rw [enter] at h ⊢
    split at h
    · rename_i es hes
      obtain ⟨es', hes'⟩ :=
        entryAt_eq_directory_iff.1 (hdirs _ (entryAt_eq_directory_iff.2 ⟨es, hes⟩))
      rw [hes']
      exact ih h
    · cases h
    · cases h

theorem reach_eq_ok_iff {last : String} :
    t.reach path segments = .ok (directory, last) ↔ path.isEmpty = false ∧
      enter t.root (t.origin path) segments.dropLast = .ok directory ∧
      last = segments.getLast?.getD "" := by
  unfold reach
  split
  · rename_i h; simp [h]
  · rename_i h
    rw [map_eq_ok_iff]
    constructor
    · rintro ⟨d, hd, he⟩
      cases he
      exact ⟨by simpa using h, hd, rfl⟩
    · rintro ⟨-, hd, rfl⟩
      exact ⟨_, hd, rfl⟩

theorem reach_mono {last : String} (hcurrent : t'.current = t.current)
    (hdirs : ∀ q, t.entryAt q = some .directory → t'.entryAt q = some .directory)
    (h : t.reach path segments = .ok (directory, last)) :
    t'.reach path segments = .ok (directory, last) := by
  obtain ⟨hpath, henter, hlast⟩ := reach_eq_ok_iff.1 h
  have horigin : t'.origin path = t.origin path := by unfold origin; rw [hcurrent]
  exact reach_eq_ok_iff.2 ⟨hpath, horigin ▸ enter_mono hdirs henter, hlast⟩

end FileTree

end ApiNotes
