/-
What a settled resolution adds to a document: schemas for exactly the names that can be reached
from the names the document mentions, each from its declaration, or a text where there is none.
Nothing else in the model changes.
-/
import ApiNotes.Proofs.Resolution.Levels

namespace ApiNotes

namespace Resolution

variable {table : SymbolTable}

/-! ## Needed names -/

/-- A name that a model mentions and that has no schema yet. -/
structure IsSeed (m : ApiModel) (n : String) : Prop where
  mentioned : n ∈ m.referenced ∨ n ∈ m.document.referencedSchemas
  missing : m.document.components.schemas.contains n = false

/-- A name that can be reached from a seed. -/
def Needs (table : SymbolTable) (m : ApiModel) (n : String) : Prop :=
  ∃ s, IsSeed m s ∧ Relation.ReflTransGen (Leads table m.document.components.schemas) s n

theorem mem_seeds_iff {m : ApiModel} {n : String} : n ∈ seeds m ↔ IsSeed m n := by
  rw [seeds, mem_newNames, List.mem_append, OrderedMap.mem_keys_iff, Bool.not_eq_true]
  exact ⟨fun h => ⟨h.1, h.2⟩, fun h => ⟨h.1, h.2⟩⟩

/-- A needed name has no schema. -/
theorem Needs.missing {m : ApiModel} {n : String} (h : Needs table m n) :
    m.document.components.schemas.contains n = false := by
  obtain ⟨s, hs, hpath⟩ := h
  cases hpath with
  | refl => exact hs.missing
  | tail _ hstep => exact hstep.target

/-- What a needed name leads to is needed too. -/
theorem Needs.step {m : ApiModel} {n k : String} (h : Needs table m n)
    (hl : Leads table m.document.components.schemas n k) : Needs table m k := by
  obtain ⟨s, hs, hpath⟩ := h
  exact ⟨s, hs, hpath.tail hl⟩

/-! ## The names of a resolution -/

theorem mem_names_needs {cap : Nat} {m : ApiModel} {n : String}
    (h : n ∈ (ofModel table cap m).names) : Needs table m n := by
  obtain ⟨s, hs, hpath⟩ := explore_reached table m.document.components.schemas cap
    (m.document.components.schemas.keys ++ seeds m) (seeds m)
    (fun n hn => List.mem_append_left _ ((OrderedMap.mem_keys_iff _ n).2 hn))
    (fun n hn => (mem_seeds_iff.1 hn).missing) n h
  exact ⟨s, mem_seeds_iff.1 hs, hpath⟩

theorem nodup_names (table : SymbolTable) (cap : Nat) (m : ApiModel) :
    (ofModel table cap m).names.Nodup :=
  (explore_nodup table cap _ _ (nodup_newNames _ _) (List.subset_append_right _ _)).1

/-- A settled resolution has found every needed name. -/
theorem Needs.mem_names {cap : Nat} {m : ApiModel} (hs : (ofModel table cap m).isSettled = true)
    {n : String} (h : Needs table m n) : n ∈ (ofModel table cap m).names := by
  obtain ⟨hfirst, hclosed⟩ := explore_closed table cap
    (m.document.components.schemas.keys ++ seeds m) (seeds m) (List.isEmpty_iff.1 hs)
  obtain ⟨s, hseed, hpath⟩ := h
  induction hpath with
  | refl => exact hfirst (mem_seeds_iff.2 hseed)
  | tail _ hstep ih =>
    rcases hclosed _ ih _ (mem_successors_iff.2 hstep.mentioned) with hk | hk
    · rcases List.mem_append.1 hk with hk | hk
      · -- the target of a step has no schema
        have hno := hstep.target
        rw [(OrderedMap.mem_keys_iff _ _).1 hk] at hno
        cases hno
      · exact hfirst hk
    · exact hk

theorem mem_names_iff {cap : Nat} {m : ApiModel} (hs : (ofModel table cap m).isSettled = true)
    {n : String} : n ∈ (ofModel table cap m).names ↔ Needs table m n :=
  ⟨mem_names_needs, fun h => h.mem_names hs⟩

/-! ## Adding schemas -/

theorem get?_addSchemas (table : SymbolTable) (schemas : OrderedMap Schema) (names : List String)
    (n : String) :
    (addSchemas table schemas names).get? n =
      if n ∈ names then some (schemaOf table n) else schemas.get? n := by
  unfold addSchemas
  induction names generalizing schemas with
  | nil => simp
  | cons x rest ih =>
    rw [List.foldl_cons, ih, OrderedMap.get?_insert]
    by_cases hr : n ∈ rest
    · simp [hr]
    · by_cases hx : n = x
      · subst hx; simp
      · simp [hr, hx]

theorem contains_addSchemas (table : SymbolTable) (schemas : OrderedMap Schema)
    (names : List String) (n : String) :
    (addSchemas table schemas names).contains n = true ↔
      n ∈ names ∨ schemas.contains n = true := by
  rw [OrderedMap.contains_iff, OrderedMap.contains_iff, get?_addSchemas]
  by_cases hn : n ∈ names <;> simp [hn]

theorem size_addSchemas (table : SymbolTable) (schemas : OrderedMap Schema) {names : List String}
    (hn : names.Nodup) (h : ∀ n ∈ names, schemas.contains n = false) :
    (addSchemas table schemas names).size = schemas.size + names.length := by
  unfold addSchemas
  induction names generalizing schemas with
  | nil => rfl
  | cons x rest ih =>
    obtain ⟨hx, hrest⟩ := List.nodup_cons.1 hn
    have hnew : ∀ n ∈ rest, (schemas.insert x (schemaOf table x)).contains n = false := by
      intro n hm
      rw [Bool.eq_false_iff, ne_eq, OrderedMap.contains_insert]
      rintro (rfl | hc)
      · exact hx hm
      · rw [h n (List.mem_cons_of_mem _ hm)] at hc
        cases hc
    rw [List.foldl_cons, ih _ hrest hnew,
      OrderedMap.size_insert_of_not_contains _ (h x (List.mem_cons_self ..)), List.length_cons]
    omega

/-! ## Resolving a model -/

/-- A successful resolution is the one of the model, and it is settled. -/
theorem resolve_eq_ok_iff {cap : Nat} {m : ApiModel} {r : Resolution} :
    (m.resolve table cap).2.result = .ok r ↔
      r = ofModel table cap m ∧ (ofModel table cap m).isSettled = true := by
  show (if (ofModel table cap m).isSettled then Except.ok (ofModel table cap m)
    else Except.error (Failure.unsettled m.name cap)) = Except.ok r ↔ _
  split
  · rename_i hs
    simp [hs, eq_comm]
  · rename_i hs
    simp [hs]

theorem schemas_resolve (table : SymbolTable) (cap : Nat) (m : ApiModel) :
    (m.resolve table cap).1.document.components.schemas =
      addSchemas table m.document.components.schemas (ofModel table cap m).names :=
  rfl

theorem mem_keys_resolve_iff {cap : Nat} {m : ApiModel} {n : String} :
    n ∈ (m.resolve table cap).1.document.components.schemas.keys ↔
      n ∈ m.document.components.schemas.keys ∨ n ∈ (ofModel table cap m).names := by
  rw [OrderedMap.mem_keys_iff, OrderedMap.mem_keys_iff, schemas_resolve, contains_addSchemas,
    or_comm]

/-- After a settled resolution the names with a schema are those that had one and the needed
ones. -/
theorem mem_keys_resolve {cap : Nat} {m : ApiModel} (hs : (ofModel table cap m).isSettled = true)
    {n : String} : n ∈ (m.resolve table cap).1.document.components.schemas.keys ↔
      n ∈ m.document.components.schemas.keys ∨ Needs table m n := by
  rw [mem_keys_resolve_iff, mem_names_iff hs]

/-- A name that has a schema keeps it, settled or not. -/
theorem get?_resolve_of_mem_keys {cap : Nat} {m : ApiModel} {n : String}
    (hn : n ∈ m.document.components.schemas.keys) :
    (m.resolve table cap).1.document.components.schemas.get? n =
      m.document.components.schemas.get? n := by
  have hno : n ∉ (ofModel table cap m).names := by
    intro hm
    have hmiss := (mem_names_needs hm).missing
    rw [(OrderedMap.mem_keys_iff _ n).1 hn] at hmiss
    cases hmiss
  rw [schemas_resolve, get?_addSchemas, if_neg hno]

/-- A name that was found has the schema of its declaration, settled or not. -/
theorem get?_resolve_of_mem_names {cap : Nat} {m : ApiModel} {n : String}
    (hn : n ∈ (ofModel table cap m).names) :
    (m.resolve table cap).1.document.components.schemas.get? n = some (schemaOf table n) := by
  rw [schemas_resolve, get?_addSchemas, if_pos hn]

theorem mem_undeclared_iff {cap : Nat} {m : ApiModel} {n : String} :
    n ∈ (ofModel table cap m).undeclared ↔
      n ∈ (ofModel table cap m).names ∧ table.get? n = none := by
  show n ∈ (ofModel table cap m).names.filter (!table.contains ·) ↔ _
  simp [OrderedMap.contains]

/-- A successful resolution adds exactly the needed names, each with the schema of its declaration
or as a text, and reports those without a declaration; the rest of the model stays as it was. -/
theorem resolve_closure (table : SymbolTable) (cap : Nat) (m : ApiModel) (r : Resolution)
    (h : (m.resolve table cap).2.result = .ok r) :
    let after := (m.resolve table cap).1
    let old := m.document.components.schemas
    let new := after.document.components.schemas
    (∀ n, n ∈ new.keys ↔ n ∈ old.keys ∨ Needs table m n) ∧
    (∀ n ∈ old.keys, new.get? n = old.get? n) ∧
    (∀ n, Needs table m n → new.get? n = some (match table.get? n with
      | some s => s.schema
      | none => .ofType "string")) ∧
    after = { m with document := { m.document with components :=
      { m.document.components with schemas := new } } } ∧
    new.size = old.size + r.names.length ∧
    r.undeclared.Nodup ∧
    (∀ n, n ∈ r.undeclared ↔ Needs table m n ∧ table.get? n = none) := by
  intro after old new
  obtain ⟨rfl, hs⟩ := resolve_eq_ok_iff.1 h
  have hnew : new = addSchemas table old (ofModel table cap m).names := schemas_resolve table cap m
  refine ⟨fun n => mem_keys_resolve hs, fun n hn => get?_resolve_of_mem_keys hn,
    fun n hn => get?_resolve_of_mem_names (hn.mem_names hs), rfl, ?_, ?_, fun n => ?_⟩
  · rw [hnew, size_addSchemas table old (nodup_names table cap m) fun n hn =>
      (mem_names_needs hn).missing]
  · exact (nodup_names table cap m).filter _
  · rw [mem_undeclared_iff, mem_names_iff hs]

/-- Declarations that mention each other, one of a name that has a schema, and a missing one. -/
def cyclicTable : SymbolTable := .ofList
  [("Order", .record [("items", .list (.named "Item")), ("total", .named "Money")]),
   ("Item", .synonym (.named "Order")),
   ("Money", .record [("currency", .named "Currency")]),
   ("Rates", .dictionary (.primitive .string) (.named "Rate"))]

/-- A model that mentions two of the declarations and has a schema for a third. -/
def cyclicModel : ApiModel :=
  { name := "shop", referenced := ["Order", "Rates"],
    document := { components := { schemas := .singleton "Money" (.ofType "number") } } }

/-- Two levels settle the cycle; what only `Money` mentions is not needed. -/
theorem resolve_closure_cyclic :
    (cyclicModel.resolve cyclicTable 2).2.result =
      .ok ⟨[["Order", "Rates"], ["Item", "Rate"]], [], ["Rate"]⟩ ∧
    ∀ n, n ∈ ["Item", "Money", "Order", "Rate", "Rates"] ↔
      n ∈ ["Money"] ∨ Needs cyclicTable cyclicModel n := by
  have h : (cyclicModel.resolve cyclicTable 2).2.result =
      .ok ⟨[["Order", "Rates"], ["Item", "Rate"]], [], ["Rate"]⟩ := by rfl
  exact ⟨h, (resolve_closure cyclicTable 2 cyclicModel _ h).1⟩

end Resolution

end ApiNotes
