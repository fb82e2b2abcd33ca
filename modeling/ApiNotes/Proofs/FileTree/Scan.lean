/-
What a scan finds. It meets the files on whose way no name is passed over, each once, and lists
those with the extension of source files in the order of their paths, compared name by name. So the
list is told by the entries that stand below the root, and the order in which directories list these
entries does not show in it.
-/
import ApiNotes.FileTree.Scan
import ApiNotes.Proofs.FileTree.Entries
import Mathlib.Data.List.Nodup

namespace ApiNotes

/-! ## Names -/

theorem isPassedOver_eq_false_iff {name : String} :
    isPassedOver name = false ↔ name.toList.head? ≠ some '.' ∧ name ≠ "target" := by
  simp [isPassedOver]

theorem isSourceName_iff {name : String} :
    isSourceName name = true ↔ ∃ stem, stem ≠ "" ∧ name = stem ++ ".rs" := by
  have hreverse (stem : String) :
      (stem ++ ".rs").toList.reverse = 's' :: 'r' :: '.' :: stem.toList.reverse := by
    rw [String.toList_append, List.reverse_append]
    rfl
  unfold isSourceName
  constructor
  · intro h
    split at h
    · rename_i c cs hname
      refine ⟨String.ofList (c :: cs).reverse, by simp, ?_⟩
      rw [← String.toList_inj, ← List.reverse_inj, hreverse, String.toList_ofList,
        List.reverse_reverse, hname]
    · cases h
  · rintro ⟨stem, hstem, rfl⟩
    have hne : stem.toList.reverse ≠ [] := by simpa using hstem
    obtain ⟨c, cs, hc⟩ := List.exists_cons_of_ne_nil hne
    simp [hc]

namespace Path

/-- A text that can be the name of an entry. -/
structure IsEntryName (name : String) : Prop where
  isName : isName name = true
  noSlash : '/' ∉ name.toList

instance (name : String) : Decidable (IsEntryName name) :=
  decidable_of_iff (isName name = true ∧ '/' ∉ name.toList)
    ⟨fun h => ⟨h.1, h.2⟩, fun h => ⟨h.isName, h.noSlash⟩⟩

/-- The names along a path, after a slash or a dot that it starts with. Empty segments do not count,
nor do dots later on. -/
def components (path : String) : List String :=
  (if isAbsolute path then ["/"] else if (segments path).head? = some "." then ["."] else []) ++
    (segments path).filter fun segment => segment != "" && segment != "."

theorem segments_slash (l : List Char) {name : String} (h : '/' ∉ name.toList) :
    segments (String.ofList (l ++ '/' :: name.toList)) =
      segments (String.ofList l) ++ [name] := by
  simp [segments, List.splitOn_append_cons_self, List.splitOn_eq_singleton h]

/-- The path of an entry has one component more than that of its directory. -/
theorem components_join {directory name : String} (hdirectory : directory ≠ "")
    (hname : IsEntryName name) :
    components (join directory name) = components directory ++ [name] := by
  have hkept : (name != "" && name != ".") = true := by
    have h := hname.isName
    simp only [Path.isName, Bool.and_eq_true] at h ⊢
    exact h.1
  have hrelative : isAbsolute name = false := by
    have h := hname.noSlash
    unfold isAbsolute
    cases hl : name.toList with
    | nil => rfl
    | cons c cs =>
      rw [hl] at h
      have hc : c ≠ '/' := fun hc => h (by simp [hc])
      simpa using hc
  have hempty : directory.isEmpty = false := by simpa using hdirectory
  -- up to the name both paths are the same segments, of which a last empty one does not count
  obtain ⟨front, hfront, hjoin, hsegments⟩ : ∃ front, front ≠ [] ∧
      segments (join directory name) = front ++ [name] ∧
      (segments directory = front ∨ segments directory = front ++ [""]) := by
    unfold join
    rw [hrelative, hempty]
    cases hslash : endsWithSlash directory with
    | false =>
      refine ⟨segments directory, by simp [segments, List.splitOn_ne_nil], ?_, .inl rfl⟩
      have h := segments_slash directory.toList hname.noSlash
      rw [String.ofList_toList] at h
      rw [← h]
      refine congrArg segments ?_
      simp [← String.toList_inj]
    | true =>
      obtain ⟨l, hl⟩ := List.getLast?_eq_some_iff.1 (by simpa [endsWithSlash] using hslash)
      refine ⟨segments (String.ofList l), by simp [segments, List.splitOn_ne_nil], ?_, .inr ?_⟩
      · rw [← segments_slash l hname.noSlash]
        refine congrArg segments ?_
        simp [← String.toList_inj, hl]
      · have h := @segments_slash l "" (by simp)
        rw [← h]
        refine congrArg segments ?_
        simp [← String.toList_inj, hl]
  have habsolute : isAbsolute (join directory name) = isAbsolute directory := by
    unfold join
    rw [hrelative, hempty]
    obtain ⟨c, cs, hc⟩ := List.exists_cons_of_ne_nil (mt String.toList_eq_nil_iff.1 hdirectory)
    cases endsWithSlash directory <;> simp [isAbsolute, hc]
  have hhead : (segments (join directory name)).head? = (segments directory).head? := by
    obtain ⟨s, ss, rfl⟩ := List.exists_cons_of_ne_nil hfront
    rcases hsegments with h | h <;> simp [hjoin, h]
  have hfilter : (segments (join directory name)).filter (fun s => s != "" && s != ".") =
      (segments directory).filter (fun s => s != "" && s != ".") ++ [name] := by
    rcases hsegments with h | h <;> simp [hjoin, h, List.filter_append, hkept]
  rw [components, components, habsolute, hhead, hfilter, List.append_assoc]

theorem components_joinAll {root : String} {names : List String} (hroot : root ≠ "")
    (hnames : ∀ name ∈ names, IsEntryName name) :
    components (joinAll root names) = components root ++ names := by
  unfold joinAll
  induction names generalizing root with
  | nil => simp
  | cons name rest ih =>
    obtain ⟨hname, hrest⟩ := List.forall_mem_cons.1 hnames
    have hcomponents := components_join hroot hname
    have hjoined : join root name ≠ "" := by
      intro h
      rw [h] at hcomponents
      have hempty : components "" = [] := by rfl
      simp [hempty] at hcomponents
    rw [List.foldl_cons, ih hjoined hrest, hcomponents, List.append_assoc, List.singleton_append]

end Path

/-! ## Listed trees -/

namespace Node

variable {node child : Node} {names place : List String} {entries : List (String × Node)}

/-- Every directory lists its entries under names that are different from each other. -/
def IsListed (node : Node) : Prop :=
  ∀ place entries, node.at? place = some (.directory entries) →
    (entries.map Prod.fst).Nodup ∧ ∀ e ∈ entries, Path.IsEntryName e.1

theorem at?_append (node : Node) (place rest : List String) :
    node.at? (place ++ rest) = (node.at? place).bind (·.at? rest) := by
  induction place generalizing node with
  | nil => simp
  | cons name place ih =>
    cases node with
    | file content => rfl
    | directory entries =>
      rw [List.cons_append, at?_cons_directory, at?_cons_directory, Option.bind_assoc]
      exact congrArg _ (funext fun node => ih node)

theorem IsListed.below (h : node.IsListed) (hchild : node.at? place = some child) :
    child.IsListed := by
  intro rest entries hrest
  refine h (place ++ rest) entries ?_
  rw [at?_append, hchild]
  exact hrest

/-- Where names are different from each other, each leads to its own entry. -/
theorem lookup_eq_some_iff_of_nodup (h : (entries.map Prod.fst).Nodup) {name : String} :
    entries.lookup name = some child ↔ (name, child) ∈ entries := by
  induction entries with
  | nil => simp
  | cons e rest ih =>
    obtain ⟨n, first⟩ := e
    obtain ⟨hn, hrest⟩ := List.nodup_cons.1 h
    rw [OrderedMap.lookup_cons_eq_ite, List.mem_cons]
    by_cases heq : name = n
    · subst heq
      have hno : (name, child) ∉ rest := fun hm => hn (List.mem_map.2 ⟨_, hm, rfl⟩)
      simp [hno, eq_comm]
    · simp [heq, ih hrest]

theorem at?_singleton_of_mem (h : (entries.map Prod.fst).Nodup) {name : String}
    (hmem : (name, child) ∈ entries) : (directory entries).at? [name] = some child := by
  rw [at?_cons_directory, (lookup_eq_some_iff_of_nodup h).2 hmem]
  simp

theorem isListed_file (content : ByteArray) : (file content).IsListed := by
  intro place entries h
  cases place <;> cases h

/-- A directory is listed if its own names differ and all its entries are listed. -/
theorem isListed_directory_iff : (directory entries).IsListed ↔ (entries.map Prod.fst).Nodup ∧
    ∀ e ∈ entries, Path.IsEntryName e.1 ∧ e.2.IsListed := by
  constructor
  · intro h
    obtain ⟨hnodup, hnames⟩ := h [] entries (at?_nil _)
    exact ⟨hnodup, fun e he => ⟨hnames e he, h.below (at?_singleton_of_mem hnodup he)⟩⟩
  · rintro ⟨hnodup, hall⟩ place es hes
    cases place with
    | nil =>
      cases hes
      exact ⟨hnodup, fun e he => (hall e he).1⟩
    | cons name rest =>
      rw [at?_cons_directory] at hes
      obtain ⟨child, hchild, hrest⟩ := Option.bind_eq_some_iff.1 hes
      exact (hall _ ((lookup_eq_some_iff_of_nodup hnodup).1 hchild)).2 rest es hrest

/-- The names on the way to what stands below a listed node are names of entries. -/
theorem IsListed.isEntryName (h : node.IsListed) (hchild : node.at? names = some child) :
    ∀ name ∈ names, Path.IsEntryName name := by
  induction names generalizing node with
  | nil => simp
  | cons name rest ih =>
    cases node with
    | file content => cases hchild
    | directory entries =>
      obtain ⟨hnodup, hnames⟩ := h [] entries (at?_nil _)
      rw [at?_cons_directory] at hchild
      obtain ⟨first, hfirst, hrest⟩ := Option.bind_eq_some_iff.1 hchild
      have hmem := (lookup_eq_some_iff_of_nodup hnodup).1 hfirst
      have hbelow := h.below (at?_singleton_of_mem hnodup hmem)
      exact List.forall_mem_cons.2 ⟨hnames _ hmem, ih hbelow hrest⟩

/-! ## Files that a scan meets -/

theorem mem_visibleEntries {names : List String} :
    names ∈ visibleEntries entries ↔ ∃ name node rest, (name, node) ∈ entries ∧
      names = name :: rest ∧ isPassedOver name = false ∧ rest ∈ node.visibleFiles := by
  induction entries with
  | nil => simp [visibleEntries]
  | cons e others ih =>
    obtain ⟨n, first⟩ := e
    have hfirst : names ∈ (if isPassedOver n then [] else first.visibleFiles.map (n :: ·)) ↔
        ∃ rest, names = n :: rest ∧ isPassedOver n = false ∧ rest ∈ first.visibleFiles := by
      cases isPassedOver n <;> simp [eq_comm, and_comm]
    rw [visibleEntries, List.mem_append, ih, hfirst]
    constructor
    · rintro (⟨rest, h⟩ | ⟨name, node, rest, hmem, h⟩)
      · exact ⟨n, first, rest, List.mem_cons_self .., h⟩
      · exact ⟨name, node, rest, List.mem_cons_of_mem _ hmem, h⟩
    · rintro ⟨name, node, rest, hmem, h⟩
      rcases List.mem_cons.1 hmem with heq | hmem
      · cases heq
        exact .inl ⟨rest, h⟩
      · exact .inr ⟨name, node, rest, hmem, h⟩

/-- A scan meets just the files on whose way no name is passed over. -/
theorem mem_visibleFiles (h : node.IsListed) :
    names ∈ node.visibleFiles ↔ (∃ content, node.at? names = some (.file content)) ∧
      ∀ name ∈ names, isPassedOver name = false := by
  induction names generalizing node with
  | nil =>
    cases node with
    | file content => simp [visibleFiles]
    | directory entries => simp [visibleFiles, mem_visibleEntries]
  | cons name rest ih =>
    cases node with
    | file content => simp [visibleFiles, at?]
    | directory entries =>
      have hnodup := (h [] entries (at?_nil _)).1
      have hbelow (child : Node) (hmem : (name, child) ∈ entries) : child.IsListed :=
        h.below (at?_singleton_of_mem hnodup hmem)
      rw [visibleFiles, mem_visibleEntries, at?_cons_directory, List.forall_mem_cons]
      simp only [Option.bind_eq_some_iff, lookup_eq_some_iff_of_nodup hnodup]
      constructor
      · rintro ⟨_, child, _, hmem, ⟨⟩, hname, hrest⟩
        obtain ⟨⟨content, hcontent⟩, hnames⟩ := (ih (hbelow child hmem)).1 hrest
        exact ⟨⟨content, child, hmem, hcontent⟩, hname, hnames⟩
      · rintro ⟨⟨content, child, hmem, hcontent⟩, hname, hnames⟩
        exact ⟨name, child, rest, hmem, rfl, hname,
          (ih (hbelow child hmem)).2 ⟨⟨content, hcontent⟩, hnames⟩⟩

theorem nodup_visibleEntries (hnodup : (entries.map Prod.fst).Nodup)
    (h : ∀ e ∈ entries, e.2.visibleFiles.Nodup) : (visibleEntries entries).Nodup := by
  induction entries with
  | nil => exact List.nodup_nil
  | cons e rest ih =>
    obtain ⟨name, node⟩ := e
    obtain ⟨hname, hothers⟩ := List.nodup_cons.1 hnodup
    obtain ⟨hnode, hrest⟩ := List.forall_mem_cons.1 h
    rw [visibleEntries]
    refine List.nodup_append.2 ⟨?_, ih hothers hrest, ?_⟩
    · split
      · exact List.nodup_nil
      · exact hnode.map fun _ _ heq => (List.cons.inj heq).2
    · -- what is below another entry starts with another name
      rintro a ha b hb rfl
      obtain ⟨n, child, r, hmem, rfl, -⟩ := mem_visibleEntries.1 hb
      split at ha
      · cases ha
      · obtain ⟨r', -, heq⟩ := List.mem_map.1 ha
        cases heq
        exact hname (List.mem_map.2 ⟨_, hmem, rfl⟩)

/-- A scan meets no file twice. -/
theorem nodup_visibleFiles (node : Node) (h : node.IsListed) : node.visibleFiles.Nodup := by
  match node with
  | file content => simp [visibleFiles]
  | directory entries =>
    have hnodup := (h [] entries (at?_nil _)).1
    rw [visibleFiles]
    exact nodup_visibleEntries hnodup fun e he =>
      nodup_visibleFiles e.2 (h.below (at?_singleton_of_mem hnodup he))
termination_by sizeOf node
decreasing_by
  have hsize := List.sizeOf_lt_of_mem he
  obtain ⟨name, child⟩ := e
  simp only [directory.sizeOf_spec, Prod.mk.sizeOf_spec] at hsize ⊢
  omega

/-! ## The order of a scan -/

theorem comesBefore_iff {a b : List String} :
    comesBefore a b = true ↔ a = b ∨ List.Lex (· < ·) a b := by
  induction a generalizing b with
  | nil => cases b <;> simp [comesBefore]
  | cons x as ih =>
    cases b with
    | nil => simp [comesBefore]
    | cons y bs =>
      rw [comesBefore, List.cons_lex_cons_iff]
      by_cases hxy : x = y
      · subst hxy
        simp only [if_true, ih, String.lt_irrefl, false_or, true_and, List.cons.injEq]
      · rw [if_neg hxy]
        simp [hxy]

theorem comesBefore_trans (a b c : List String) (hab : comesBefore a b = true)
    (hbc : comesBefore b c = true) : comesBefore a c = true := by
  rw [comesBefore_iff] at *
  rcases hab with rfl | hab
  · exact hbc
  · rcases hbc with rfl | hbc
    · exact .inr hab
    · exact .inr (List.lex_trans String.lt_trans hab hbc)

theorem comesBefore_total (a b : List String) : (comesBefore a b || comesBefore b a) = true := by
  induction a generalizing b with
  | nil => simp [comesBefore]
  | cons x as ih =>
    cases b with
    | nil => simp [comesBefore]
    | cons y bs =>
      rw [comesBefore, comesBefore]
      by_cases hxy : x = y
      · subst hxy
        simpa using ih bs
      · have hne : x < y ∨ y < x := by
          rcases String.le_total x y with hle | hle
          · exact .inl (Decidable.byContradiction fun hn =>
              hxy (String.le_antisymm hle (String.not_lt.1 hn)))
          · exact .inr (Decidable.byContradiction fun hn =>
              hxy (String.le_antisymm (String.not_lt.1 hn) hle))
        simpa [hxy, Ne.symm hxy] using hne

/-- Of some paths there is only one strictly ascending list. -/
theorem eq_of_pairwise_lex {l l' : List (List String)} (h : l.Pairwise (List.Lex (· < ·)))
    (h' : l'.Pairwise (List.Lex (· < ·))) (hmem : ∀ names, names ∈ l ↔ names ∈ l') : l = l' := by
  have hasymm (a b : List String) (hab : List.Lex (· < ·) a b) : ¬ List.Lex (· < ·) b a :=
    List.lex_asymm String.lt_asymm hab
  have hnodup {l : List (List String)} (h : l.Pairwise (List.Lex (· < ·))) : l.Nodup := by
    refine h.imp fun {a b} hlt heq => ?_
    subst heq
    exact hasymm a a hlt hlt
  have hperm : l.Perm l' := (List.perm_ext_iff_of_nodup (hnodup h) (hnodup h')).2 hmem
  exact hperm.eq_of_pairwise (fun a b _ _ hab hba => absurd hba (hasymm a b hab)) h h'

/-- The source files of a scan are strictly ascending. -/
theorem pairwise_sourceFiles (h : node.IsListed) (rootName : String) :
    (node.sourceFiles rootName).Pairwise (List.Lex (· < ·)) := by
  have hsorted : (node.sourceFiles rootName).Pairwise fun a b => comesBefore a b = true :=
    List.pairwise_mergeSort comesBefore_trans comesBefore_total _
  have hnodup : (node.sourceFiles rootName).Nodup :=
    (List.mergeSort_perm _ _).nodup_iff.2 ((nodup_visibleFiles node h).filter _)
  exact (hsorted.and hnodup).imp fun ⟨hle, hne⟩ => (comesBefore_iff.1 hle).resolve_left hne

theorem mem_sourceFiles (h : node.IsListed) {rootName : String} :
    names ∈ node.sourceFiles rootName ↔ (∃ content, node.at? names = some (.file content)) ∧
      (∃ stem, stem ≠ "" ∧ names.getLast?.getD rootName = stem ++ ".rs") ∧
      ∀ name ∈ names, name.toList.head? ≠ some '.' ∧ name ≠ "target" := by
  rw [sourceFiles, List.mem_mergeSort, List.mem_filter, mem_visibleFiles h, isSourceName_iff]
  simp only [isPassedOver_eq_false_iff]
  exact and_assoc.trans (and_congr_right' and_comm)

end Node

/-! ## Scans -/

namespace FileTree

variable {t t' : FileTree} {node : Node} {path root : String}

/-- The current directory exists, and every directory lists its entries under different names. -/
structure IsListed (t : FileTree) : Prop where
  grounded : t.IsGrounded
  root : t.root.IsListed

/-- The node at a path stands at the place of the path. -/
theorem node_eq_ok (ht : t.IsGrounded) (h : t.node path = .ok node) :
    t.root.at? (t.placeOf path) = some node := by
  unfold FileTree.node at h
  split at h
  · cases h
  · rename_i directory last hreach
    obtain ⟨-, henter, rfl⟩ := reach_eq_ok_iff.1 hreach
    obtain ⟨rfl, -⟩ := enter_eq_ok henter (entryAt_origin ht path)
    split at h
    · rename_i found hfound
      cases h
      rw [placeOf, foldl_step]
      exact hfound
    · cases h

theorem ne_empty_of_node_eq_ok (h : t.node path = .ok node) : path ≠ "" := by
  rintro rfl
  cases h

/-- A tree with the same entries has a node at the same paths. -/
theorem exists_node_of_entryAt (ht : t.IsGrounded) (hcurrent : t'.current = t.current)
    (hentries : ∀ place, t'.entryAt place = t.entryAt place) (h : t.node path = .ok node) :
    ∃ node', t'.node path = .ok node' := by
  have hnode := node_eq_ok ht h
  unfold FileTree.node at h
  split at h
  · cases h
  · rename_i directory last hreach
    have hreach' := reach_mono hcurrent (fun q hq => (hentries q).trans hq) hreach
    split at h
    · rename_i found hfound
      have hentry := hentries (step directory last)
      unfold entryAt at hentry
      rw [hfound, Option.map_some, Option.map_eq_some_iff] at hentry
      obtain ⟨node', hnode', -⟩ := hentry
      exact ⟨node', by simp only [FileTree.node, hreach', hnode']⟩
    · cases h

/-- The entries below a node of a tree. -/
theorem entryAt_append {place names : List String} (h : t.root.at? place = some node) :
    t.entryAt (place ++ names) = (node.at? names).map Node.entry := by
  rw [entryAt, Node.at?_append, h]
  rfl

theorem entry_eq_file_iff {names : List String} {content : ByteArray} :
    (node.at? names).map Node.entry = some (.file content) ↔
      node.at? names = some (.file content) := by
  cases node.at? names with
  | none => simp
  | some n => cases n <;> simp [Node.entry]

/-- A scan from anything in a tree lists, in the order of their paths and each once, just the paths
of the files there or below it that have the extension of source files and on whose way from the
root of the scan no name starts with a dot or is `target`. A tree with the same entries, in whatever
order its directories list them, has the same scan. -/
theorem scan_exact (t : FileTree) (ht : t.IsListed) (root : String) (node : Node)
    (hroot : t.node root = .ok node) :
    ∃ paths, t.scan root = .ok paths ∧
      (paths.Pairwise fun p q => List.Lex (· < ·) (Path.components p) (Path.components q)) ∧
      (∀ path, path ∈ paths ↔ ∃ names, path = Path.joinAll root names ∧
        (∃ content, t.entryAt (t.placeOf root ++ names) = some (.file content)) ∧
        (∃ stem, stem ≠ "" ∧ names.getLast?.getD (Path.lastSegment root) = stem ++ ".rs") ∧
        ∀ name ∈ names, name.toList.head? ≠ some '.' ∧ name ≠ "target") ∧
      ∀ t' : FileTree, t'.IsListed → t'.current = t.current →
        (∀ place, t'.entryAt place = t.entryAt place) → t'.scan root = .ok paths := by
  have hnode := node_eq_ok ht.grounded hroot
  have hlisted := ht.root.below hnode
  have hsorted := Node.pairwise_sourceFiles hlisted (Path.lastSegment root)
  have hscan : t.scan root = .ok ((node.sourceFiles (Path.lastSegment root)).map
      (Path.joinAll root)) := by
    simp only [scan, hroot]
  refine ⟨_, hscan, ?_, fun path => ?_, fun t' ht' hcurrent hentries => ?_⟩
  · refine List.pairwise_map.2 (hsorted.imp_of_mem fun {a b} ha hb hlt => ?_)
    -- both paths start with the components of the root
    obtain ⟨⟨_, ha⟩, -⟩ := (Node.mem_sourceFiles hlisted).1 ha
    obtain ⟨⟨_, hb⟩, -⟩ := (Node.mem_sourceFiles hlisted).1 hb
    have hne := ne_empty_of_node_eq_ok hroot
    rw [Path.components_joinAll hne (hlisted.isEntryName ha),
      Path.components_joinAll hne (hlisted.isEntryName hb)]
    exact List.append_left_lt hlt
  · simp only [List.mem_map, Node.mem_sourceFiles hlisted, entryAt_append hnode, entry_eq_file_iff]
    constructor
    · rintro ⟨names, h, rfl⟩
      exact ⟨names, rfl, h⟩
    · rintro ⟨names, rfl, h⟩
      exact ⟨names, h, rfl⟩
  · obtain ⟨node', hroot'⟩ := exists_node_of_entryAt ht.grounded hcurrent hentries hroot
    have hnode' := node_eq_ok ht'.grounded hroot'
    have hlisted' := ht'.root.below hnode'
    have hplace : t'.placeOf root = t.placeOf root := by
      unfold placeOf origin
      rw [hcurrent]
    have hsorted' := Node.pairwise_sourceFiles hlisted' (Path.lastSegment root)
    have heq : node'.sourceFiles (Path.lastSegment root) =
        node.sourceFiles (Path.lastSegment root) := by
      refine Node.eq_of_pairwise_lex hsorted' hsorted fun names => ?_
      have hentry := hentries (t.placeOf root ++ names)
      rw [entryAt_append hnode, ← hplace, entryAt_append hnode'] at hentry
      simp only [Node.mem_sourceFiles hlisted', Node.mem_sourceFiles hlisted,
        ← entry_eq_file_iff, hentry]
    simp only [scan, hroot', heq]

/-- A project with a directory that is called like a source file. -/
def nestedProject : Node :=
  .directory
    [("b.rs", .directory [("c.rs", .file .empty)]),
     ("a.rs", .file .empty),
     ("target", .directory [("built.rs", .file .empty)]),
     ("notes.md", .file .empty),
     (".rs", .file .empty),
     ("a", .directory [("z.rs", .file .empty), (".git", .directory [("d.rs", .file .empty)])])]

/-- The project is itself called like a directory that is passed over. -/
def nestedTree : FileTree :=
  { root := .directory [("target", nestedProject)], current := [] }

/-- What stands in a directory comes before a file whose name merely starts like it. -/
theorem scan_exact_nested : nestedTree.IsListed ∧
    nestedTree.scan "target" = .ok ["target/a/z.rs", "target/a.rs", "target/b.rs/c.rs"] ∧
    ∀ t' : FileTree, t'.IsListed → t'.current = [] →
      (∀ place, t'.entryAt place = nestedTree.entryAt place) →
      t'.scan "target" = nestedTree.scan "target" := by
  have hlisted : nestedTree.IsListed := by
    refine ⟨rfl, ?_⟩
    simp only [nestedTree, nestedProject, Node.isListed_directory_iff, Node.isListed_file,
      List.forall_mem_cons, List.not_mem_nil, false_implies, implies_true, and_true]
    decide
  have hnode : nestedTree.node "target" = .ok nestedProject := by rfl
  have hfiles : nestedProject.sourceFiles "target" =
      [["a", "z.rs"], ["a.rs"], ["b.rs", "c.rs"]] := by
    have hbelow : nestedProject.IsListed := hlisted.root.below (node_eq_ok hlisted.grounded hnode)
    refine Node.eq_of_pairwise_lex (Node.pairwise_sourceFiles hbelow _) (by decide) fun names => ?_
    have hmet : nestedProject.visibleFiles.filter
        (fun names => isSourceName (names.getLast?.getD "target")) =
          [["b.rs", "c.rs"], ["a.rs"], ["a", "z.rs"]] := by rfl
    rw [Node.sourceFiles, List.mem_mergeSort, hmet]
    exact (List.reverse_perm [["a", "z.rs"], ["a.rs"], ["b.rs", "c.rs"]]).mem_iff
  have hscan : nestedTree.scan "target" =
      .ok ["target/a/z.rs", "target/a.rs", "target/b.rs/c.rs"] := by
    have hname : Path.lastSegment "target" = "target" := by rfl
    simp only [scan, hnode, hname, hfiles]
    rfl
  obtain ⟨paths, hpaths, -, -, hsame⟩ := scan_exact nestedTree hlisted "target" _ hnode
  refine ⟨hlisted, hscan, fun t' ht' hcurrent hentries => ?_⟩
  rw [hpaths]
  exact hsame t' ht' hcurrent hentries

end FileTree

end ApiNotes
