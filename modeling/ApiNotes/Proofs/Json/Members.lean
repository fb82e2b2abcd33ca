/-
Values that read back. A value is plain if it consists of texts, truth values, arrays, and objects
without repeated members: nothing a document contains is written as anything else. A part reads back
if it is written as a plain value from which its reader restores it, and a list, a map and the
members of a record read back when their parts do.
-/
import ApiNotes.Document.Encoding
import ApiNotes.Proofs.OrderedMap

namespace ApiNotes.Json

variable {α : Type}

/-! ## Plain values -/

/-- A value of texts, truth values, arrays and objects, without repeated members. -/
inductive IsPlain : Json → Prop
  | bool (b : Bool) : IsPlain (.bool b)
  | string (s : String) : IsPlain (.string s)
  | array {elements : List Json} : (∀ v ∈ elements, IsPlain v) → IsPlain (.array elements)
  | object {members : List (String × Json)} : (members.map Prod.fst).Nodup →
      (∀ e ∈ members, IsPlain e.2) → IsPlain (.object members)

theorem IsPlain.ne_null {v : Json} (h : v.IsPlain) : v ≠ .null := by
  rintro rfl
  cases h

/-- Members with plain values, at most one for each of the names and in the order of the names. -/
structure Writes (names : List String) (members : List (String × Json)) : Prop where
  keys : List.Sublist (members.map Prod.fst) names
  plain : ∀ e ∈ members, e.2.IsPlain

namespace Writes

variable {names names' : List String} {members members' : List (String × Json)}

theorem member {key : String} {v : Json} (h : v.IsPlain) : Writes [key] (member key v) :=
  ⟨List.Sublist.refl _, by simpa [Json.member] using h⟩

theorem optional {key : String} {o : Option Json} (h : ∀ v, o = some v → v.IsPlain) :
    Writes [key] (optional key o) := by
  cases o with
  | none => exact ⟨List.nil_sublist _, nofun⟩
  | some v => exact member (h v rfl)

theorem unlessEmpty {key : String} {v : Json} (empty : Bool) (h : v.IsPlain) :
    Writes [key] (unlessEmpty key empty v) := by
  cases empty with
  | true => exact ⟨List.nil_sublist _, nofun⟩
  | false => exact member h

theorem append (h : Writes names members) (h' : Writes names' members') :
    Writes (names ++ names') (members ++ members') := by
  refine ⟨?_, List.forall_mem_append.2 ⟨h.plain, h'.plain⟩⟩
  rw [List.map_append]
  exact h.keys.append h'.keys

theorem isPlain (h : Writes names members) (hnames : names.Nodup) : (Json.object members).IsPlain :=
  .object (hnames.sublist h.keys) h.plain

end Writes

/-! ## Looking up members -/

@[simp]
theorem lookup_member (key k : String) (v : Json) :
    (member key v).lookup k = if k = key then some v else none :=
  OrderedMap.lookup_cons_eq_ite k key v []

@[simp]
theorem lookup_optional (key k : String) (o : Option Json) :
    (optional key o).lookup k = if k = key then o else none := by
  cases o with
  | none => simp [optional]
  | some v => exact lookup_member key k v

@[simp]
theorem lookup_unlessEmpty (key k : String) (empty : Bool) (v : Json) :
    (unlessEmpty key empty v).lookup k =
      if k = key then (if empty then none else some v) else none := by
  cases empty with
  | true => simp [unlessEmpty]
  | false => exact lookup_member key k v

@[simp]
theorem record?_object (names : List String) (members : List (String × Json)) :
    record? names (object members) = some (List.lookup · members) :=
  rfl

@[simp]
theorem string?_string (s : String) : string? (string s) = some s :=
  rfl

@[simp]
theorem bool?_bool (b : Bool) : bool? (bool b) = some b :=
  rfl

/-! ## Parts that read back -/

/-- A part is written as a plain value, and the reader restores it. -/
structure ReadsBack (read : Json → Option α) (write : α → Json) (a : α) : Prop where
  plain : (write a).IsPlain
  read : read (write a) = some a

variable {read : Json → Option α} {write : α → Json}

theorem readsBack_string (s : String) : ReadsBack string? string s :=
  ⟨.string s, rfl⟩

theorem mapM_map_eq_some {β : Type} {f : β → Option α} {g : α → β} {l : List α}
    (h : ∀ a ∈ l, f (g a) = some a) : (l.map g).mapM f = some l := by
  induction l with
  | nil => rfl
  | cons a rest ih =>
    obtain ⟨ha, hrest⟩ := List.forall_mem_cons.1 h
    rw [List.map_cons, List.mapM_cons, ha, ih hrest]
    rfl

theorem ReadsBack.list {l : List α} (h : ∀ a ∈ l, ReadsBack read write a) :
    ReadsBack (list? read) (fun l => .array (l.map write)) l where
  plain := .array (List.forall_mem_map.2 fun a ha => (h a ha).plain)
  read := mapM_map_eq_some fun a ha => (h a ha).read

theorem readsBack_strings (l : List String) : ReadsBack (list? string?) strings l :=
  .list fun s _ => readsBack_string s

theorem ReadsBack.map {m : OrderedMap α} (h : ∀ a ∈ m.values, ReadsBack read write a) :
    ReadsBack (OrderedMap.ofJson? read) (OrderedMap.toJson write) m := by
  have hentries : ∀ e ∈ m.entries, ReadsBack read write e.2 := fun e he =>
    h e.2 (List.mem_map_of_mem he)
  refine ⟨.object ?_ ?_, ?_⟩
  · rw [List.map_map]
    exact OrderedMap.nodup_keys m.ordered
  · exact List.forall_mem_map.2 fun e he => (hentries e he).plain
  · have hread : entries? read (m.toJson write) = some m.entries := by
      refine mapM_map_eq_some fun ⟨k, a⟩ he => ?_
      show (read (write a)).map _ = _
      rw [(hentries (k, a) he).read]
      rfl
    rw [OrderedMap.ofJson?, hread, Option.map_some, OrderedMap.ofList_entries]

/-! ## Members that may be left out -/

theorem Writes.nullable {key : String} {o : Option α}
    (h : ∀ a, o = some a → ReadsBack read write a) :
    Writes [key] (Json.optional key (o.map write)) := by
  refine .optional fun v hv => ?_
  obtain ⟨a, ha, rfl⟩ := Option.map_eq_some_iff.1 hv
  exact (h a ha).plain

theorem nullable?_some {v : Json} (h : v ≠ .null) :
    nullable? read (some v) = (read v).map some := by
  cases v with
  | null => exact absurd rfl h
  | _ => rfl

theorem nullable?_map {o : Option α} (h : ∀ a, o = some a → ReadsBack read write a) :
    nullable? read (o.map write) = some o := by
  cases o with
  | none => rfl
  | some a =>
    obtain ⟨hplain, hread⟩ := h a rfl
    rw [Option.map_some, nullable?_some hplain.ne_null, hread]
    rfl

@[simp]
theorem nullable?_string (o : Option String) : nullable? string? (o.map .string) = some o :=
  nullable?_map fun s _ => readsBack_string s

theorem Writes.nullableString {key : String} (o : Option String) :
    Writes [key] (Json.optional key (o.map .string)) :=
  .nullable fun s _ => readsBack_string s

theorem orDefault?_some {fallback a : α} (h : ReadsBack read write a) :
    orDefault? fallback read (some (write a)) = some a :=
  h.read

/-- What is left out because it is the fallback is put back. -/
theorem orDefault?_ite {fallback a : α} {empty : Bool} (h : ReadsBack read write a)
    (hempty : empty = true → a = fallback) :
    orDefault? fallback read (if empty then none else some (write a)) = some a := by
  cases empty with
  | true => rw [hempty rfl]; rfl
  | false => exact h.read

end ApiNotes.Json
