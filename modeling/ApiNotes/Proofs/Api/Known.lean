/-
Streams with unknown commands. An unknown command changes no document, but the API that it names
counts among those of the stream: if no known command names it, it gets a document of its own, and
takes the place of the API without a name. So a stream and its known commands have the same result
just if they have the same APIs in the same order, or fail alike.
-/
import ApiNotes.Proofs.Api.Isolation
import Mathlib.Data.List.Induction

namespace ApiNotes

/-- The known commands of a stream. -/
def knownOf (cs : List Command) : List Command :=
  cs.filter (·.kind.isKnown)

/-! ## Documents have the names of their APIs -/

theorem applyAll_name {cs : List Command} {d d' : Draft} (h : d.applyAll cs = .ok d') :
    d'.model.name = d.model.name := by
  induction cs generalizing d with
  | nil => cases h; rfl
  | cons c rest ih =>
    obtain ⟨d₁, w, hs, hrest⟩ := Draft.applyAll_cons_eq_ok_iff.1 h
    exact (ih hrest).trans (Draft.apply_name (Draft.apply_eq_ok_iff.2 hs))

theorem finish_name {d : Draft} {m : ApiModel} {w : List Warning} (h : d.finish = .ok (m, w)) :
    m.name = d.model.name := by
  unfold Draft.finish at h
  split at h
  · cases h
  · cases h; rfl

theorem solo_name {api : String} {cs : List Command} {m : ApiModel} (h : solo api cs = .ok m) :
    m.name = api := by
  obtain ⟨d, hd, w, hf⟩ := ofCommands_eq_ok_iff.1 h
  exact (finish_name hf).trans (applyAll_name hd)

theorem names_of_solo {cs : List Command} {apis : List String} {ms : List ApiModel}
    (h : List.Forall₂ (fun api m => solo api cs = .ok m) apis ms) :
    ms.map ApiModel.name = apis := by
  induction h with
  | nil => rfl
  | cons hm _ ih => rw [List.map_cons, ih, solo_name hm]

theorem interpret_names {cs : List Command} {ms : List ApiModel}
    (h : (interpret cs).result = .ok ms) : ms.map ApiModel.name = apisOf cs :=
  names_of_solo (interpret_eq_ok_iff.1 h)

/-! ## Running without the unknown commands -/

theorem solo_known (api : String) (cs : List Command) : solo api (knownOf cs) = solo api cs := by
  unfold solo commandsFor knownOf
  rw [List.filter_filter]
  congr 2
  funext c
  cases hk : c.kind.isKnown <;> simp [Command.reaches, hk]

theorem draftAll_known (ds : List Draft) (cs : List Command) :
    (draftAll ds (knownOf cs)).result = (draftAll ds cs).result := by
  unfold knownOf
  induction cs generalizing ds with
  | nil => rfl
  | cons c rest ih =>
    rw [result_draftAll_cons, List.filter_cons]
    cases hk : c.kind.isKnown with
    | true =>
      rw [if_pos rfl, result_draftAll_cons]
      exact congrArg (_ >>= ·) (funext ih)
    | false =>
      -- no draft hears the command
      have hall : ds.mapM (Draft.hear · c) = .ok ds :=
        mapM_eq_ok_iff.2 (List.forall₂_same.2 fun d _ => hear_of_not_known hk)
      rw [if_neg (by simp), hall]
      exact ih ds

/-! ## The APIs of the known commands -/

theorem target_of_not_known {c : Command} (hk : c.kind.isKnown = false) : c.target = c.api := by
  unfold Command.target
  split
  · rename_i h; rw [h]
  · rename_i hc _; rw [hc] at hk; cases hk
  · rename_i h _
    cases hapi : c.api with
    | none => rfl
    | some api => exact absurd hapi (h api)

theorem knownOf_append_singleton (cs : List Command) (c : Command) :
    knownOf (cs ++ [c]) = if c.kind.isKnown then knownOf cs ++ [c] else knownOf cs := by
  unfold knownOf
  rw [List.filter_append]
  cases hk : c.kind.isKnown <;> simp [hk]

theorem firstTargets_append_singleton (cs : List Command) {c : Command} {api : String}
    (ht : c.target = some api) :
    firstOccurrences ((cs ++ [c]).filterMap Command.target) =
      if api ∈ cs.filterMap Command.target then firstOccurrences (cs.filterMap Command.target)
      else firstOccurrences (cs.filterMap Command.target) ++ [api] := by
  have happ : (cs ++ [c]).filterMap Command.target = cs.filterMap Command.target ++ [api] := by
    simp [ht]
  rw [happ, firstOccurrences_append_singleton]

/-- The APIs are those of the known commands if each unknown command names none, or one that a known
command before it addresses. -/
theorem apisOf_known {cs : List Command}
    (h : ∀ before c after api, cs = before ++ c :: after → c.kind.isKnown = false →
      c.api = some api → ∃ k ∈ before, k.kind.isKnown = true ∧ k.target = some api) :
    apisOf (knownOf cs) = apisOf cs := by
  suffices firstOccurrences ((knownOf cs).filterMap Command.target) =
      firstOccurrences (cs.filterMap Command.target) by
    unfold apisOf
    rw [this]
  -- the induction is from the end: whether a name is new depends on what stands before it
  induction cs using List.reverseRecOn with
  | nil => rfl
  | append_singleton init c ih =>
    have hinit : firstOccurrences ((knownOf init).filterMap Command.target) =
        firstOccurrences (init.filterMap Command.target) := by
      refine ih fun before u after api heq => h before u (after ++ [c]) api ?_
      rw [heq, List.append_assoc, List.cons_append]
    have hmem : ∀ api, api ∈ (knownOf init).filterMap Command.target ↔
        api ∈ init.filterMap Command.target := by
      intro api
      rw [← mem_firstOccurrences, hinit, mem_firstOccurrences]
    rw [knownOf_append_singleton]
    cases ht : c.target with
    | none =>
      -- a command without a target leaves the names as they are
      have hnone : ∀ l : List Command,
          (l ++ [c]).filterMap Command.target = l.filterMap Command.target := by simp [ht]
      split <;> simp only [hnone, hinit]
    | some api =>
      rw [firstTargets_append_singleton init ht]
      cases hk : c.kind.isKnown with
      | true => rw [if_pos rfl, firstTargets_append_singleton _ ht, hinit]; simp only [hmem]
      | false =>
        have hapi : c.api = some api := (target_of_not_known hk).symm.trans ht
        obtain ⟨k, hkmem, -, hkt⟩ := h init c [] api rfl hk hapi
        rw [if_pos (List.mem_filterMap.2 ⟨k, hkmem, hkt⟩)]
        exact hinit

/-! ## Skipping unknown commands -/

/-- What unknown commands change: no API by itself comes to another end without them, and a stream
has the result of its known commands exactly if these have the same APIs in the same order, or both
fail alike. The APIs are the same if no unknown command is the first to name one. -/
theorem interpret_known_iff (cs : List Command) :
    (∀ api, solo api (knownOf cs) = solo api cs) ∧
    ((interpret (knownOf cs)).result = (interpret cs).result ↔
      apisOf (knownOf cs) = apisOf cs ∨
      ∃ e, (interpret (knownOf cs)).result = .error e ∧ (interpret cs).result = .error e) ∧
    ((∀ before c after api, cs = before ++ c :: after → c.kind.isKnown = false →
        c.api = some api → ∃ k ∈ before, k.kind.isKnown = true ∧ k.target = some api) →
      apisOf (knownOf cs) = apisOf cs) := by
  refine ⟨fun api => solo_known api cs, ⟨fun h => ?_, ?_⟩, apisOf_known⟩
  · cases hr : (interpret cs).result with
    | ok ms =>
      -- the documents bear the names of the APIs
      exact .inl ((interpret_names (h.trans hr)).symm.trans (interpret_names hr))
    | error e => exact .inr ⟨e, h.trans hr, rfl⟩
  · rintro (hapis | ⟨e, hknown, hall⟩)
    · rw [result_interpret, result_interpret, hapis, draftAll_known]
    · rw [hknown, hall]

/-- A command for all APIs, and one for an API that no known command names. -/
def misspelledCommands : List Command :=
  [⟨.title, ["Pets"], none, none⟩, ⟨.unknown "titel", ["Shop"], some "shop", none⟩]

/-- An unknown command is not always skipped: without the misspelled one there is a document for the
API without a name, and with it there is one for the API that it names. -/
theorem interpret_misspelled :
    ¬ (interpret (knownOf misspelledCommands)).result = (interpret misspelledCommands).result := by
  intro h
  have hknown : (interpret (knownOf misspelledCommands)).result.toOption.map
      (·.map ApiModel.name) = some [""] := by rfl
  have hall : (interpret misspelledCommands).result.toOption.map
      (·.map ApiModel.name) = some ["shop"] := by rfl
  rw [h, hall] at hknown
  exact absurd hknown (by decide)

end ApiNotes
