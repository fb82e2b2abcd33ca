/-
The order in which a model mentions names does not matter to its resolution. Two models that differ
only in this order have the same names on each level, in another order, so they are given the same
schemas, are settled by the same number of levels, and leave the same names undeclared.
-/
import ApiNotes.Proofs.Resolution.Closure
import Mathlib.Data.List.Perm.Basic

namespace ApiNotes

namespace Resolution

/-- Two resolutions come to the same end: both settle, with as many levels and names and the same
undeclared names in some order, or both fail in the same way. -/
inductive SameOutcome : Except Failure Resolution → Except Failure Resolution → Prop
  | settled {r r' : Resolution} : r.passes = r'.passes → r.names.length = r'.names.length →
      r.undeclared.Perm r'.undeclared → SameOutcome (.ok r) (.ok r')
  | unsettled (e : Failure) : SameOutcome (.error e) (.error e)

variable {table : SymbolTable}

/-! ## Levels -/

/-- The new names are told, up to their order, by what is known and what is mentioned. -/
theorem newNames_perm {known known' names names' : List String}
    (hknown : ∀ n, n ∈ known ↔ n ∈ known') (hnames : ∀ n, n ∈ names ↔ n ∈ names') :
    (newNames known names).Perm (newNames known' names') :=
  (List.perm_ext_iff_of_nodup (nodup_newNames _ _) (nodup_newNames _ _)).2 fun n => by
    rw [mem_newNames, mem_newNames, hknown, hnames]

/-- Explorations from the same names, in whatever order, have the same names on each level. -/
theorem explore_perm (cap : Nat) {known known' level level' : List String}
    (hknown : ∀ n, n ∈ known ↔ n ∈ known') (hlevel : level.Perm level') :
    List.Forall₂ List.Perm (explore table cap known level).1 (explore table cap known' level').1 ∧
      (explore table cap known level).2.Perm (explore table cap known' level').2 := by
  induction cap generalizing known known' level level' with
  | zero => exact ⟨.nil, hlevel⟩
  | succ cap ih =>
    by_cases hne : level = []
    · subst hne
      obtain rfl := hlevel.nil_eq
      simp
    · have hne' : level' ≠ [] := fun h => hne (h ▸ hlevel).eq_nil
      have hnext : (nextLevel table known level).Perm (nextLevel table known' level') :=
        newNames_perm hknown fun n => (hlevel.flatMap_right _).mem_iff
      have hknown : ∀ n, n ∈ known ++ nextLevel table known level ↔
          n ∈ known' ++ nextLevel table known' level' :=
        fun n => by rw [List.mem_append, List.mem_append, hknown, hnext.mem_iff]
      rw [explore_succ table cap known hne, explore_succ table cap known' hne']
      obtain ⟨hlevels, hover⟩ := ih hknown hnext
      exact ⟨.cons hlevel hlevels, hover⟩

/-! ## Models -/

section Model

variable {m m' : ApiModel}

/-- Two models with the same name and document whose commands mention the same names. -/
structure SameNames (m m' : ApiModel) : Prop where
  name : m.name = m'.name
  document : m.document = m'.document
  referenced : m.referenced.Perm m'.referenced

theorem SameNames.levels (h : SameNames m m') (table : SymbolTable) (cap : Nat) :
    List.Forall₂ List.Perm (ofModel table cap m).levels (ofModel table cap m').levels ∧
      (ofModel table cap m).leftOver.Perm (ofModel table cap m').leftOver := by
  have hseeds : (seeds m).Perm (seeds m') := by
    unfold seeds
    rw [h.document]
    refine newNames_perm (fun n => Iff.rfl) fun n => ?_
    rw [List.mem_append, List.mem_append, h.referenced.mem_iff]
  unfold ofModel
  rw [h.document]
  exact explore_perm cap (fun n => by rw [List.mem_append, List.mem_append, hseeds.mem_iff]) hseeds

theorem SameNames.names (h : SameNames m m') (table : SymbolTable) (cap : Nat) :
    (ofModel table cap m).names.Perm (ofModel table cap m').names :=
  .flatten_congr (h.levels table cap).1

/-- Models that mention the same names are given the same schemas, settled or not. -/
theorem SameNames.document_resolve (h : SameNames m m') (table : SymbolTable) (cap : Nat) :
    (m.resolve table cap).1.document = (m'.resolve table cap).1.document := by
  have hschemas : addSchemas table m.document.components.schemas (ofModel table cap m).names =
      addSchemas table m'.document.components.schemas (ofModel table cap m').names :=
    OrderedMap.ext_get? fun n => by
      simp only [get?_addSchemas, (h.names table cap).mem_iff, h.document]
  show ((ofModel table cap m).complete table m).document =
    ((ofModel table cap m').complete table m').document
  unfold complete
  rw [hschemas, h.document]

/-- Models that mention the same names are resolved with the same outcome. -/
theorem SameNames.outcome (h : SameNames m m') (table : SymbolTable) (cap : Nat) :
    SameOutcome (m.resolve table cap).2.result (m'.resolve table cap).2.result := by
  obtain ⟨hlevels, hover⟩ := h.levels table cap
  have hsettled : (ofModel table cap m).isSettled = (ofModel table cap m').isSettled := by
    unfold isSettled
    rw [Bool.eq_iff_iff, List.isEmpty_iff, List.isEmpty_iff]
    exact ⟨fun hn => (hn ▸ hover).nil_eq.symm, fun hn => (hn ▸ hover).eq_nil⟩
  show SameOutcome
    (if (ofModel table cap m).isSettled then .ok (ofModel table cap m)
      else .error (.unsettled m.name cap))
    (if (ofModel table cap m').isSettled then .ok (ofModel table cap m')
      else .error (.unsettled m'.name cap))
  rw [hsettled, h.name]
  split
  · exact .settled hlevels.length_eq (h.names table cap).length_eq
      ((h.names table cap).filter _)
  · exact .unsettled _

end Model

end Resolution

end ApiNotes
