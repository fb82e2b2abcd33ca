/-
Values can be told apart by their YAML text. A leaf, a list and a mapping start differently, and
each ends where a line is indented less than its own lines, or in the case of a list not with a
dash. So a value can be read off the front of what may follow it, by induction on the value, and no
two values without nulls and numbers have the same text.
-/
import ApiNotes.Proofs.Json.Members
import ApiNotes.Proofs.Yaml.Leaf

namespace ApiNotes.Yaml

/-! ## Items on lines of their own -/

/-- A way of writing lists puts each item on lines of its own, indented by `n`; the indentation of
the first line is left to the context. -/
def OnLines {α : Type} (n : Nat) (item : α → List Char) (write : List α → List Char) : Prop :=
  ∀ a rest, write (a :: rest) = item a ++ (if rest.isEmpty then [] else spaces n ++ write rest)

namespace OnLines

variable {α : Type} {n : Nat} {item : α → List Char} {write : List α → List Char}

/-- With its first line indented too, a list is written item by item. -/
theorem flatMap (hw : OnLines n item write) {l : List α} (h : l ≠ []) :
    spaces n ++ write l = l.flatMap fun a => spaces n ++ item a := by
  induction l with
  | nil => contradiction
  | cons a rest ih =>
    rw [hw, List.flatMap_cons, ← List.append_assoc]
    cases rest with
    | nil => rfl
    | cons b rest => rw [← ih (List.cons_ne_nil b rest)]; rfl

/-- If the items end their lines, so does a list of them. -/
theorem lineEnded (hw : OnLines n item write) (hitem : ∀ a, LineEnded false (item a)) {l : List α}
    (h : l ≠ []) : LineEnded false (write l) := by
  induction l with
  | nil => contradiction
  | cons a rest ih =>
    rw [hw]
    refine (hitem a).append ?_
    cases rest with
    | nil => rfl
    | cons b rest => exact (ih (List.cons_ne_nil b rest)).append_left (spaces n)

theorem front (hw : OnLines n item write) {l : List α} (h : l ≠ []) (r : List Char) :
    ∃ a s, write l ++ r = item a ++ s := by
  obtain ⟨a, rest, rfl⟩ := List.exists_cons_of_ne_nil h
  exact ⟨a, _, by rw [hw, List.append_assoc]⟩

end OnLines

/-- Items that stand on indented lines can be read off one by one, up to what is not the line of a
next item, if each can be read off the front of what may follow it. -/
theorem lines_inj {α : Type} {P : α → Prop} {n : Nat} {item : α → List Char}
    {Follows Ends : List Char → Prop} (hnext : ∀ a r, Follows (spaces n ++ (item a ++ r)))
    (hends : ∀ r, Ends r → Follows r) (hne : ∀ r a s, Ends r → r ≠ spaces n ++ (item a ++ s))
    {l l' : List α} {r s : List Char} (hl : ∀ a ∈ l, ∀ b r s, P b → Follows r → Follows s →
      item a ++ r = item b ++ s → a = b ∧ r = s)
    (hl' : ∀ b ∈ l', P b) (hr : Ends r) (hs : Ends s)
    (h : (l.flatMap fun a => spaces n ++ item a) ++ r =
      (l'.flatMap fun a => spaces n ++ item a) ++ s) : l = l' ∧ r = s := by
  have hfollows : ∀ (rest : List α) {r : List Char}, Ends r →
      Follows ((rest.flatMap fun a => spaces n ++ item a) ++ r) := by
    intro rest r hr
    cases rest with
    | nil => exact hends r hr
    | cons b rest =>
      rw [List.flatMap_cons, List.append_assoc, List.append_assoc]
      exact hnext b _
  induction l generalizing l' with
  | nil =>
    cases l' with
    | nil => exact ⟨rfl, h⟩
    | cons b rest =>
      rw [List.flatMap_cons, List.append_assoc, List.append_assoc] at h
      exact absurd h (hne r b _ hr)
  | cons a rest ih =>
    cases l' with
    | nil =>
      rw [List.flatMap_cons, List.append_assoc, List.append_assoc] at h
      exact absurd h.symm (hne s a _ hs)
    | cons b rest' =>
      obtain ⟨ha, hrest⟩ := List.forall_mem_cons.1 hl
      obtain ⟨hb, hrest'⟩ := List.forall_mem_cons.1 hl'
      rw [List.flatMap_cons, List.flatMap_cons, List.append_assoc, List.append_assoc,
        List.append_assoc, List.append_assoc, List.append_cancel_left_eq] at h
      obtain ⟨rfl, htail⟩ := ha b _ _ hb (hfollows rest hr) (hfollows rest' hs) h
      obtain ⟨rfl, hrs⟩ := ih hrest hrest' htail
      exact ⟨rfl, hrs⟩

/-! ## Lists and mappings -/

/-- An element of a list, with its line ended. -/
def element (n : Nat) (v : Json) : List Char :=
  '-' :: ' ' :: closeLine (node n v)

/-- A member of a mapping, with its line ended. -/
def entry (n : Nat) (e : String × Json) : List Char :=
  if isSimpleKey e.1 then scalar n e.1 ++ ':' :: closeLine (afterKey n e.2)
  else '?' :: ' ' :: closeLine (scalar n e.1) ++ spaces n ++ ':' :: ' ' :: closeLine (node n e.2)

theorem onLines_sequence (n : Nat) : OnLines n (element n) (sequence n) := by
  intro v rest
  rw [sequence, element, closeLine_cons (by decide), closeLine_cons (by decide)]

theorem onLines_mapping (n : Nat) : OnLines n (entry n) (mapping n) := by
  intro e rest
  rw [mapping, entry]
  split
  · rw [closeLine_append _ (List.cons_ne_nil _ _), closeLine_cons (by decide)]
  · rw [closeLine_append _ (List.cons_ne_nil _ _), closeLine_cons (by decide),
      closeLine_cons (by decide), closeLine_cons (by decide), closeLine_cons (by decide)]

theorem lineEnded_sequence {n : Nat} {l : List Json} (h : l ≠ []) :
    LineEnded false (sequence n l) :=
  (onLines_sequence n).lineEnded
    (fun v => (lineEnded_closeLine (node n v)).append_left ['-', ' ']) h

theorem lineEnded_entry (n : Nat) (e : String × Json) : LineEnded false (entry n e) := by
  unfold entry
  split
  · rw [List.append_cons]
    exact (lineEnded_closeLine _).append_left _
  · rw [List.append_cons, List.append_cons]
    exact (lineEnded_closeLine _).append_left _

theorem lineEnded_mapping {n : Nat} {m : List (String × Json)} (h : m ≠ []) :
    LineEnded false (mapping n m) :=
  (onLines_mapping n).lineEnded (lineEnded_entry n) h

/-- A member starts with a key or with the mark of one. -/
theorem entry_front (n : Nat) (e : String × Json) (r : List Char) :
    Opens (entry n e ++ r) ∨ ∃ s, entry n e ++ r = '?' :: ' ' :: s := by
  unfold entry
  split
  · rename_i hkey
    rw [List.append_assoc]
    exact .inl (inline_key n hkey).opens
  · exact .inr ⟨_, rfl⟩

/-- What can follow an element of a list or a value in a mapping that is indented by `n`. -/
structure Continues (n : Nat) (r : List Char) : Prop where
  outdented : Outdented (n + 1) r
  /-- The next line is none of a list. -/
  key : ∀ s, r ≠ spaces n ++ '-' :: ' ' :: s

/-- A mapping ends where a line is indented less. -/
theorem continues_of_outdented {n : Nat} {r : List Char} (h : Outdented n r) : Continues n r :=
  ⟨h.mono (Nat.le_succ n), fun _ => h.ne_spaces (List.cons_ne_nil _ _)⟩

theorem Opens.ne_mark {x r : List Char} (h : Opens x) {c : Char} (hc : c = '-' ∨ c = '?') :
    x ≠ c :: ' ' :: r := by
  rintro rfl
  exact h.2.2 hc rfl

/-- The line of a next member continues a mapping. -/
theorem continues_entry (n : Nat) (e : String × Json) (r : List Char) :
    Continues n (spaces n ++ (entry n e ++ r)) := by
  rcases entry_front n e r with hopens | ⟨s, hs⟩
  · cases hx : entry n e ++ r with
    | nil => rw [hx] at hopens; cases hopens
    | cons c rest =>
      rw [hx] at hopens
      refine ⟨.line n c rest (Nat.lt_succ_self n) hopens.1 hopens.2.1, fun s h => ?_⟩
      exact hopens.ne_mark (.inl rfl) (List.append_cancel_left h)
  · rw [hs]
    refine ⟨.line n '?' _ (Nat.lt_succ_self n) (by decide) (by decide), fun s h => ?_⟩
    exact absurd (List.cons.inj (List.append_cancel_left h)).1 (by decide)

/-! ## Values -/

/-- A value with its line ended: a leaf in a node that is indented by `n`, or a list or mapping that
is indented by `k` itself. -/
def block (n k : Nat) : Json → List Char
  | .array (v :: rest) => sequence k (v :: rest)
  | .object (e :: rest) => mapping k (e :: rest)
  | v => closeLine (leaf n v)

theorem closeLine_node (n : Nat) (v : Json) : closeLine (node n v) = block n (n + 2) v := by
  cases v with
  | array l =>
    cases l with
    | nil => rfl
    | cons v rest => exact closeLine_of_lineEnded (lineEnded_sequence (List.cons_ne_nil v rest))
  | object m =>
    cases m with
    | nil => rfl
    | cons e rest => exact closeLine_of_lineEnded (lineEnded_mapping (List.cons_ne_nil e rest))
  | _ => rfl

theorem toList_render (v : Json) : (render v).toList = block 0 0 v := by
  cases v with
  | array l => cases l <;> exact String.toList_ofList
  | object m => cases m <;> exact String.toList_ofList
  | _ => exact String.toList_ofList

/-- The values that a document consists of: leaves, and lists and mappings that are not empty. -/
theorem shape_of_isPlain {v : Json} (h : v.IsPlain) :
    IsLeaf v ∨ (∃ l, l ≠ [] ∧ v = .array l) ∨ ∃ m, m ≠ [] ∧ v = .object m := by
  cases h with
  | bool b => exact .inl (.bool b)
  | string s => exact .inl (.string s)
  | @array l =>
    cases l with
    | nil => exact .inl .array
    | cons v rest => exact .inr (.inl ⟨_, List.cons_ne_nil v rest, rfl⟩)
  | @object m =>
    cases m with
    | nil => exact .inl .object
    | cons e rest => exact .inr (.inr ⟨_, List.cons_ne_nil e rest, rfl⟩)

/-- A value can be read off the front of what may follow it, after a mark and after a key. -/
structure Reads (v : Json) : Prop where
  node : ∀ {n : Nat} {w : Json} {r s : List Char}, w.IsPlain → Outdented (n + 1) r →
    Outdented (n + 1) s → closeLine (node n v) ++ r = closeLine (node n w) ++ s → v = w ∧ r = s
  after : ∀ {n : Nat} {w : Json} {r s : List Char}, w.IsPlain → Continues n r → Continues n s →
    closeLine (afterKey n v) ++ r = closeLine (afterKey n w) ++ s → v = w ∧ r = s

theorem sequence_inj {n : Nat} {l l' : List Json} {r s : List Char} (hl : l ≠ []) (hl' : l' ≠ [])
    (hreads : ∀ v ∈ l, Reads v) (hplain : ∀ w ∈ l', w.IsPlain) (hr : Continues n r)
    (hs : Continues n s) (h : sequence n l ++ r = sequence n l' ++ s) : l = l' ∧ r = s := by
  have hnext : ∀ v r, Outdented (n + 1) (spaces n ++ (element n v ++ r)) := fun v r =>
    .line n '-' _ (Nat.lt_succ_self n) (by decide) (by decide)
  have hitem : ∀ v ∈ l, ∀ w r s, w.IsPlain → Outdented (n + 1) r → Outdented (n + 1) s →
      element n v ++ r = element n w ++ s → v = w ∧ r = s := by
    intro v hv w r s hw hr hs h
    exact (hreads v hv).node hw hr hs (List.cons.inj (List.cons.inj h).2).2
  refine lines_inj hnext (fun r hr => hr.outdented) (fun r v s hr => hr.key _) hitem hplain hr hs ?_
  rw [← (onLines_sequence n).flatMap hl, ← (onLines_sequence n).flatMap hl', List.append_assoc,
    List.append_assoc, h]

/-- A simple key ends where its value follows. -/
theorem delimits_afterKey (n : Nat) (v : Json) (r : List Char) :
    Delimits (':' :: closeLine (afterKey n v) ++ r) := by
  have hfront : ∃ c t, isSeparator c = true ∧ afterKey n v = c :: t := by
    unfold afterKey
    split
    · split <;> exact ⟨_, _, by decide, rfl⟩
    · split <;> exact ⟨_, _, by decide, rfl⟩
    · exact ⟨_, _, by decide, rfl⟩
  obtain ⟨c, t, hc, ht⟩ := hfront
  rw [ht, closeLine]
  split <;> exact .colon c _ hc

theorem entry_inj {n : Nat} {e e' : String × Json} {r s : List Char} (hreads : Reads e.2)
    (hplain : e'.2.IsPlain) (hr : Continues n r) (hs : Continues n s)
    (h : entry n e ++ r = entry n e' ++ s) : e = e' ∧ r = s := by
  obtain ⟨key, v⟩ := e
  obtain ⟨key', w⟩ := e'
  unfold entry at h
  dsimp only at h hreads hplain
  split at h <;> split at h
  · rename_i hkey hkey'
    rw [List.append_assoc, List.append_assoc] at h
    obtain ⟨heq, hrest⟩ := (inline_key n hkey).inj (inline_key n hkey')
      (delimits_afterKey n v r) (delimits_afterKey n w s) h
    obtain ⟨rfl, hrs⟩ := hreads.after hplain hr hs (List.cons.inj hrest).2
    cases heq
    exact ⟨rfl, hrs⟩
  · rename_i hkey hkey'
    rw [List.append_assoc] at h
    exact absurd h ((inline_key n hkey).opens.ne_mark (.inr rfl))
  · rename_i hkey hkey'
    rw [List.append_assoc (scalar n key')] at h
    exact absurd h.symm ((inline_key n hkey').opens.ne_mark (.inr rfl))
  · have hfollows : ∀ t, Outdented (n + 2) (spaces n ++ ':' :: t) := fun t =>
      .line n ':' t (Nat.lt_add_of_pos_right (by decide)) (by decide) (by decide)
    simp only [List.cons_append, List.append_assoc, List.cons.injEq, true_and] at h
    obtain ⟨heq, hrest⟩ :=
      (IsLeaf.string key).inj (IsLeaf.string key') (hfollows _) (hfollows _) h
    simp only [List.append_cancel_left_eq, List.cons.injEq, true_and] at hrest
    obtain ⟨rfl, hrs⟩ := hreads.node hplain hr.outdented hs.outdented hrest
    cases heq
    exact ⟨rfl, hrs⟩

theorem mapping_inj {n : Nat} {m m' : List (String × Json)} {r s : List Char} (hm : m ≠ [])
    (hm' : m' ≠ []) (hreads : ∀ e ∈ m, Reads e.2) (hplain : ∀ e ∈ m', e.2.IsPlain)
    (hr : Outdented n r) (hs : Outdented n s) (h : mapping n m ++ r = mapping n m' ++ s) :
    m = m' ∧ r = s := by
  have hne : ∀ r e s, Outdented n r → r ≠ spaces n ++ (entry n e ++ s) := by
    intro r e s hr
    refine hr.ne_spaces fun h => ?_
    rcases entry_front n e s with hopens | ⟨t, ht⟩
    · rw [h] at hopens; cases hopens
    · rw [ht] at h; cases h
  refine lines_inj (continues_entry n) (fun r hr => continues_of_outdented hr) hne
    (fun e he e' r s hp hr hs => entry_inj (hreads e he) hp hr hs) hplain hr hs ?_
  rw [← (onLines_mapping n).flatMap hm, ← (onLines_mapping n).flatMap hm', List.append_assoc,
    List.append_assoc, h]

/-! ## Different shapes -/

theorem sequence_front {n : Nat} {l : List Json} (h : l ≠ []) (r : List Char) :
    ∃ s, sequence n l ++ r = '-' :: ' ' :: s := by
  obtain ⟨v, s, hs⟩ := (onLines_sequence n).front h r
  exact ⟨_, hs⟩

theorem leaf_ne_sequence {n k : Nat} {v : Json} {l : List Json} {r s : List Char} (hv : IsLeaf v)
    (hl : l ≠ []) : closeLine (leaf n v) ++ r ≠ sequence k l ++ s := by
  obtain ⟨t, ht⟩ := sequence_front (n := k) hl s
  rw [ht]
  exact (hv.opens n r).ne_mark (.inl rfl)

theorem sequence_ne_mapping {k : Nat} {l : List Json} {m : List (String × Json)} {r s : List Char}
    (hl : l ≠ []) (hm : m ≠ []) : sequence k l ++ r ≠ mapping k m ++ s := by
  obtain ⟨t, ht⟩ := sequence_front (n := k) hl r
  obtain ⟨e, u, hu⟩ := (onLines_mapping k).front hm s
  rw [ht, hu]
  intro h
  rcases entry_front k e u with hopens | ⟨w, hw⟩
  · exact hopens.ne_mark (.inl rfl) h.symm
  · rw [hw] at h
    exact absurd (List.cons.inj h).1 (by decide)

/-- A leaf is not taken for the first key of a mapping: no colon follows it on its line. -/
theorem leaf_ne_mapping {n k : Nat} {v : Json} {m : List (String × Json)} {r s : List Char}
    (hv : IsLeaf v) (hm : m ≠ []) : closeLine (leaf n v) ++ r ≠ mapping k m ++ s := by
  obtain ⟨e, t, ht⟩ := (onLines_mapping k).front hm s
  rw [ht, entry]
  split
  · rename_i hkey
    rw [List.append_assoc, scalar_of_isSimpleKey hkey k n]
    rcases hv.cases n with hv | ⟨a, rfl, ha, hleaf⟩
    · rw [hv.closeLine_eq, List.append_assoc]
      intro h
      have hrest := (hv.inj (inline_key n hkey) (.lineEnd r) (delimits_afterKey k e.2 t) h).2
      exact absurd (List.cons.inj hrest).1 (by decide)
    · obtain ⟨u, hu⟩ := literal_front (n + 2) ha r
      rw [hleaf, hu]
      exact fun h => (inline_key n hkey).ne_bar h.symm
  · exact (hv.opens n r).ne_mark (.inr rfl)

/-! ## Reading values -/

/-- The elements and the values of the members of a value can be read. -/
structure PartsRead (v : Json) : Prop where
  elements : ∀ l, v = .array l → ∀ x ∈ l, Reads x
  members : ∀ m, v = .object m → ∀ e ∈ m, Reads e.2

theorem elements_isPlain {l : List Json} (h : (Json.array l).IsPlain) : ∀ v ∈ l, v.IsPlain := by
  cases h with
  | array h => exact h

theorem members_isPlain {m : List (String × Json)} (h : (Json.object m).IsPlain) :
    ∀ e ∈ m, e.2.IsPlain := by
  cases h with
  | object _ h => exact h

/-- Values on lines of their own can be told apart if their parts can be read. -/
theorem block_inj {n k : Nat} {v w : Json} {r s : List Char} (hv : v.IsPlain) (hw : w.IsPlain)
    (hparts : PartsRead v) (hr : Outdented (n + 2) r) (hs : Outdented (n + 2) s)
    (hr' : Outdented k r) (hs' : Outdented k s) (h : block n k v ++ r = block n k w ++ s) :
    v = w ∧ r = s := by
  have hleaf : ∀ {v : Json}, IsLeaf v → block n k v = closeLine (leaf n v) := by
    rintro _ (_ | _ | _ | _) <;> rfl
  have harray : ∀ {l : List Json}, l ≠ [] → block n k (.array l) = sequence k l := by
    intro l hl
    obtain ⟨v, rest, rfl⟩ := List.exists_cons_of_ne_nil hl
    rfl
  have hobject : ∀ {m : List (String × Json)}, m ≠ [] → block n k (.object m) = mapping k m := by
    intro m hm
    obtain ⟨e, rest, rfl⟩ := List.exists_cons_of_ne_nil hm
    rfl
  rcases shape_of_isPlain hv with hv' | ⟨l, hl, rfl⟩ | ⟨m, hm, rfl⟩ <;>
    rcases shape_of_isPlain hw with hw' | ⟨l', hl', rfl⟩ | ⟨m', hm', rfl⟩
  · rw [hleaf hv', hleaf hw'] at h
    exact hv'.inj hw' hr hs h
  · rw [hleaf hv', harray hl'] at h
    exact absurd h (leaf_ne_sequence hv' hl')
  · rw [hleaf hv', hobject hm'] at h
    exact absurd h (leaf_ne_mapping hv' hm')
  · rw [harray hl, hleaf hw'] at h
    exact absurd h.symm (leaf_ne_sequence hw' hl)
  · rw [harray hl, harray hl'] at h
    obtain ⟨rfl, hrs⟩ := sequence_inj hl hl' (hparts.elements l rfl) (elements_isPlain hw)
      (continues_of_outdented hr') (continues_of_outdented hs') h
    exact ⟨rfl, hrs⟩
  · rw [harray hl, hobject hm'] at h
    exact absurd h (sequence_ne_mapping hl hm')
  · rw [hobject hm, hleaf hw'] at h
    exact absurd h.symm (leaf_ne_mapping hw' hm)
  · rw [hobject hm, harray hl'] at h
    exact absurd h.symm (sequence_ne_mapping hl' hm)
  · rw [hobject hm, hobject hm'] at h
    obtain ⟨rfl, hrs⟩ := mapping_inj hm hm' (hparts.members m rfl) (members_isPlain hw) hr' hs' h
    exact ⟨rfl, hrs⟩

/-- Values after a key can be told apart if their parts can be read. -/
theorem afterKey_inj {n : Nat} {v w : Json} {r s : List Char} (hv : v.IsPlain) (hw : w.IsPlain)
    (hparts : PartsRead v) (hr : Continues n r) (hs : Continues n s)
    (h : closeLine (afterKey n v) ++ r = closeLine (afterKey n w) ++ s) : v = w ∧ r = s := by
  have hleaf : ∀ {v : Json}, IsLeaf v → closeLine (afterKey n v) = ' ' :: closeLine (leaf n v) := by
    intro v hv
    rw [← closeLine_cons (by decide)]
    cases hv <;> rfl
  have harray : ∀ {l : List Json}, l ≠ [] →
      closeLine (afterKey n (.array l)) = '\n' :: spaces n ++ sequence n l := by
    intro l hl
    rw [afterKey, if_neg (by simpa using hl)]
    exact closeLine_of_lineEnded ((lineEnded_sequence hl).append_left _)
  have hobject : ∀ {m : List (String × Json)}, m ≠ [] →
      closeLine (afterKey n (.object m)) = '\n' :: spaces (n + 2) ++ mapping (n + 2) m := by
    intro m hm
    rw [afterKey, if_neg (by simpa using hm)]
    exact closeLine_of_lineEnded ((lineEnded_mapping hm).append_left _)
  -- a list is indented less than a mapping
  have hshapes : ∀ {l : List Json} {m : List (String × Json)} {r s : List Char}, l ≠ [] →
      '\n' :: spaces n ++ sequence n l ++ r ≠ '\n' :: spaces (n + 2) ++ mapping (n + 2) m ++ s := by
    intro l m r s hl h
    obtain ⟨t, ht⟩ := sequence_front (n := n) hl r
    rw [List.append_assoc, ht, List.append_assoc] at h
    exact spaces_ne (Nat.lt_add_of_pos_right (by decide)) (by decide) (List.cons.inj h).2
  rcases shape_of_isPlain hv with hv' | ⟨l, hl, rfl⟩ | ⟨m, hm, rfl⟩ <;>
    rcases shape_of_isPlain hw with hw' | ⟨l', hl', rfl⟩ | ⟨m', hm', rfl⟩
  · rw [hleaf hv', hleaf hw'] at h
    exact hv'.inj hw' (hr.outdented.mono (Nat.le_succ _)) (hs.outdented.mono (Nat.le_succ _))
      (List.cons.inj h).2
  · rw [hleaf hv', harray hl'] at h
    exact absurd (List.cons.inj h).1 (by decide)
  · rw [hleaf hv', hobject hm'] at h
    exact absurd (List.cons.inj h).1 (by decide)
  · rw [harray hl, hleaf hw'] at h
    exact absurd (List.cons.inj h).1 (by decide)
  · rw [harray hl, harray hl', List.append_assoc, List.append_assoc,
      List.append_cancel_left_eq] at h
    obtain ⟨rfl, hrs⟩ := sequence_inj hl hl' (hparts.elements l rfl) (elements_isPlain hw) hr hs h
    exact ⟨rfl, hrs⟩
  · rw [harray hl, hobject hm'] at h
    exact absurd h (hshapes hl)
  · rw [hobject hm, hleaf hw'] at h
    exact absurd (List.cons.inj h).1 (by decide)
  · rw [hobject hm, harray hl'] at h
    exact absurd h.symm (hshapes hl')
  · rw [hobject hm, hobject hm', List.append_assoc, List.append_assoc,
      List.append_cancel_left_eq] at h
    obtain ⟨rfl, hrs⟩ := mapping_inj hm hm' (hparts.members m rfl) (members_isPlain hw)
      (hr.outdented.mono (Nat.le_succ _)) (hs.outdented.mono (Nat.le_succ _)) h
    exact ⟨rfl, hrs⟩

theorem reads_of_parts {v : Json} (hv : v.IsPlain) (hparts : PartsRead v) : Reads v where
  node {n w r s} hw hr hs h := by
    rw [closeLine_node, closeLine_node] at h
    have hmono := Nat.le_succ (n + 1)
    exact block_inj hv hw hparts (hr.mono hmono) (hs.mono hmono) (hr.mono hmono) (hs.mono hmono) h
  after hw hr hs h := afterKey_inj hv hw hparts hr hs h

/-- The parts of a value can be read, by induction on the value. -/
theorem partsRead_of_isPlain {v : Json} (h : v.IsPlain) : PartsRead v := by
  induction h with
  | bool b => exact ⟨nofun, nofun⟩
  | string s => exact ⟨nofun, nofun⟩
  | array hl ih =>
    refine ⟨?_, nofun⟩
    rintro _ ⟨⟩ v hv
    exact reads_of_parts (hl v hv) (ih v hv)
  | object _ hm ih =>
    refine ⟨nofun, ?_⟩
    rintro _ ⟨⟩ e he
    exact reads_of_parts (hm e he) (ih e he)

/-- Values without nulls and numbers have the same text only if they are the same. -/
theorem render_inj {v w : Json} (hv : v.IsPlain) (hw : w.IsPlain) (h : render v = render w) :
    v = w := by
  have htext : block 0 0 v ++ [] = block 0 0 w ++ [] := by
    rw [← toList_render, ← toList_render, h]
  exact (block_inj hv hw (partsRead_of_isPlain hv) .nil .nil .nil .nil htext).1

end ApiNotes.Yaml
