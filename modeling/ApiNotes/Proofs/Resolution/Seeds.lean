/-
What a resolution starts from. Of the names that a model mentions only those count that have no
schema yet, so a model that has a schema for each of them is left alone. A settled resolution
completes a model: what its document mentioned before has a schema then, and what the new schemas
refer to was found with the names they belong to. Hence a second resolution has nothing to do,
whatever its table and cap.

Listing a name among the first ones twice, or later than it could be found, changes nothing either.
-/
import ApiNotes.Proofs.Resolution.References

namespace ApiNotes

/-- Every name that the model mentions has a schema. -/
structure ApiModel.IsComplete (m : ApiModel) : Prop where
  referenced : ∀ n ∈ m.referenced, n ∈ m.document.components.schemas.keys
  mentioned : ∀ n ∈ m.document.mentions, n ∈ m.document.components.schemas.keys

namespace Resolution

variable {table : SymbolTable} {cap : Nat} {m : ApiModel}

/-! ## Complete models -/

/-- A model is complete exactly if a resolution has nothing to start from. -/
theorem seeds_eq_nil_iff : seeds m = [] ↔ m.IsComplete := by
  have hseed : (∀ n, ¬ IsSeed m n) ↔ m.IsComplete := by
    constructor
    · intro h
      have hall : ∀ n, n ∈ m.referenced ∨ n ∈ m.document.referencedSchemas →
          n ∈ m.document.components.schemas.keys := by
        intro n hn
        by_contra hk
        rw [OrderedMap.mem_keys_iff, Bool.not_eq_true] at hk
        exact h n ⟨hn, hk⟩
      exact ⟨fun n hn => hall n (.inl hn),
        fun n hn => hall n (.inr (Document.mem_referencedSchemas_iff.2 hn))⟩
    · intro h n hn
      have hk : n ∈ m.document.components.schemas.keys := hn.mentioned.elim (h.referenced n)
        fun hm => h.mentioned n (Document.mem_referencedSchemas_iff.1 hm)
      rw [OrderedMap.mem_keys_iff, hn.missing] at hk
      cases hk
  rw [← hseed, List.eq_nil_iff_forall_not_mem]
  simp only [mem_seeds_iff]

/-- Resolving a complete model finds nothing, says nothing and changes nothing. -/
theorem resolve_of_isComplete (h : m.IsComplete) (table : SymbolTable) (cap : Nat) :
    m.resolve table cap = (m, ⟨[], .ok ⟨[], [], []⟩⟩) := by
  have hnone : ofModel table cap m = ⟨[], [], []⟩ := by
    unfold ofModel
    rw [seeds_eq_nil_iff.2 h]
    dsimp only
    rw [explore_nil]
    rfl
  unfold ApiModel.resolve
  rw [hnone]
  rfl

/-- A settled resolution completes a model. -/
theorem isComplete_resolve (hs : (ofModel table cap m).isSettled = true) :
    (m.resolve table cap).1.IsComplete := by
  constructor
  · intro n (hn : n ∈ m.referenced)
    rw [mem_keys_resolve hs]
    cases hc : m.document.components.schemas.contains n with
    | true => exact .inl ((OrderedMap.mem_keys_iff _ n).2 hc)
    | false => exact .inr ⟨n, ⟨.inl hn, hc⟩, .refl⟩
  · intro n hn
    rw [mem_keys_resolve hs]
    obtain ⟨s, hschema, hmem⟩ := Document.mem_mentions.1 hn
    -- the schema stood in the document before, or it is the one of a name that was found
    rcases hasSchema_resolve hschema with hold | ⟨k, hk, rfl⟩
    · exact needs_of_mention (Document.mem_mentions.2 ⟨s, hold, hmem⟩)
    · exact needs_of_successor hk ((refersIn_schemaOf table k).of_mem_references hmem)

/-- After a successful resolution a second one, with whatever table and cap, is successful, takes no
pass, finds no name, leaves none undeclared, says nothing and changes nothing. -/
theorem resolve_twice (table : SymbolTable) (cap : Nat) (m : ApiModel) (r : Resolution)
    (h : (m.resolve table cap).2.result = .ok r) (table' : SymbolTable) (cap' : Nat) :
    let after := (m.resolve table cap).1
    (after.resolve table' cap').1 = after ∧
    (after.resolve table' cap').2.log = [] ∧
    ∃ again, (after.resolve table' cap').2.result = .ok again ∧
      again.names.length = 0 ∧ again.passes = 0 ∧ again.undeclared = [] := by
  intro after
  have hcomplete := isComplete_resolve (resolve_eq_ok_iff.1 h).2
  rw [resolve_of_isComplete hcomplete table' cap']
  exact ⟨rfl, rfl, _, rfl, rfl, rfl, rfl⟩

/-- A document that starts with a schema of its own, which refers to a type. -/
def ledgerModel : ApiModel :=
  { name := "ledger"
    document := { components :=
      { schemas := .singleton "Ledger" (.arrayOf (.referTo "Entry")) } } }

/-- Two fields of one name, and a dictionary from a type to itself. -/
def ledgerTable : SymbolTable := .ofList
  [("Entry", .record [("sum", .named "Amount"), ("sum", .list (.named "Currency"))]),
   ("Amount", .dictionary (.named "Unit") (.named "Unit"))]

/-- Nothing is left to do for another table with no pass to spend, though that table declares a name
that the first one left undeclared. -/
theorem resolve_twice_ledger :
    (ledgerModel.resolve ledgerTable 3).2.result =
      .ok ⟨[["Entry"], ["Amount", "Currency"], ["Unit"]], [], ["Currency", "Unit"]⟩ ∧
    let after := (ledgerModel.resolve ledgerTable 3).1
    (after.resolve (.singleton "Unit" (.synonym (.named "Scale"))) 0).1 = after := by
  have h : (ledgerModel.resolve ledgerTable 3).2.result =
      .ok ⟨[["Entry"], ["Amount", "Currency"], ["Unit"]], [], ["Currency", "Unit"]⟩ := by rfl
  exact ⟨h, (resolve_twice ledgerTable 3 ledgerModel _ h _ 0).1⟩

/-! ## First names -/

/-- Explores what a model needs that starts from a list of names. -/
def ofNames (names : List String) (table : SymbolTable) (cap : Nat) (m : ApiModel) : Resolution :=
  let first := newNames m.document.components.schemas.keys names
  let (levels, leftOver) :=
    explore table cap (m.document.components.schemas.keys ++ first) first
  { levels, leftOver, undeclared := levels.flatten.filter (!table.contains ·) }

end Resolution

/-- The model with the shared schemas that are found from a list of names alone, whatever else the
document mentions. -/
def ApiModel.resolveFrom (names : List String) (table : SymbolTable) (cap : Nat) (m : ApiModel) :
    ApiModel × Logged Failure Resolution :=
  let r := Resolution.ofNames names table cap m
  (r.complete table m,
    ⟨(r.warnings m).map .warning,
      if r.isSettled then .ok r else .error (.unsettled m.name cap)⟩)

namespace Resolution

/-- Names that a list has already are no new ones. -/
theorem newNames_append_of_subset {known names more : List String} (h : ∀ n ∈ more, n ∈ names) :
    newNames known (names ++ more) = newNames known names := by
  have hnone : ((firstOccurrences more).filter fun n => !names.contains n) = [] := by
    refine List.filter_eq_nil_iff.2 fun n hn => ?_
    simpa using h n (mem_firstOccurrences.1 hn)
  unfold newNames
  rw [firstOccurrences_append, hnone, List.append_nil]

/-- A resolution starts from what the commands mention and then from what the document mentions. -/
theorem resolve_eq_resolveFrom (table : SymbolTable) (cap : Nat) (m : ApiModel) :
    m.resolve table cap =
      m.resolveFrom (m.referenced ++ m.document.referencedSchemas) table cap :=
  rfl

/-- Starting from names that are listed already makes no difference. -/
theorem resolveFrom_append_of_subset {names more : List String} (h : ∀ n ∈ more, n ∈ names)
    (table : SymbolTable) (cap : Nat) (m : ApiModel) :
    m.resolveFrom (names ++ more) table cap = m.resolveFrom names table cap := by
  have hsame : ofNames (names ++ more) table cap m = ofNames names table cap m := by
    unfold ofNames
    rw [newNames_append_of_subset h]
  unfold ApiModel.resolveFrom
  rw [hsame]

end Resolution

end ApiNotes
