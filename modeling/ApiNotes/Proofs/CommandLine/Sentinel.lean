/-
Which sentinels are of use. A request is refused if its sentinel has blanks only. A sentinel that
starts with a blank and goes on is let through, and yet no line is an annotation under it, since
lines are trimmed before they are compared with it; under every other sentinel that is let through
annotations are read.
-/
import ApiNotes.CommandLine.Run
import ApiNotes.Proofs.Annotation.Reader

namespace ApiNotes

open Text

/-! ## Sentinels and lines -/

namespace Command

/-- Under a sentinel that starts with no blank a title is read. -/
theorem ofLine?_title {sentinel w : String} (hs : StartsInked sentinel.toList) (hne : w ≠ "")
    (hw : ∀ c ∈ w.toList, isBlank c = false) :
    ofLine? sentinel (sentinel ++ ": title " ++ w) = some ⟨.title, [w], none, none⟩ := by
  have hword : IsToken w.toList := by
    refine ⟨by simpa using hne, fun hspace => ?_⟩
    exact absurd (hw ' ' hspace) (by decide)
  have hlegible : IsLegible ⟨.title, [w], none, none⟩ := by
    refine ⟨rfl, nofun, ⟨"title", by rfl, by decide, by decide⟩, by simpa using hword, ?_⟩
    rintro t ⟨⟩ c hc
    exact hw c (List.mem_of_getLast? hc)
  have hline : render sentinel ⟨.title, [w], none, none⟩ = sentinel ++ ": title " ++ w := by
    rw [← String.toList_inj, toList_render]
    simp [tokens, Kind.keyword]
  rw [← hline]
  exact ofLine?_render_of_isLegible hs hlegible

/-- Under a sentinel that starts with a blank nothing is read. -/
theorem ofLine?_of_not_startsInked {sentinel : String} (hs : ¬ StartsInked sentinel.toList)
    (line : String) : ofLine? sentinel line = none := by
  refine Option.eq_none_iff_forall_ne_some.2 fun c hc => hs ?_
  exact (isLegible_of_ofLine? hc).1

end Command

/-! ## Requests that are let through -/

namespace CommandLine.Request

/-- A request that is let through is for a directory, and its sentinel does not have blanks only. -/
theorem validate_eq_ok_iff {r : Request} {t : FileTree} :
    r.validate t = .ok () ↔ t.hasNode r.projectPath = true ∧ t.hasDirectory r.projectPath = true ∧
      (∃ c ∈ r.sentinel.toList, isBlank c = false) ∧ r.levelCap ≠ 0 := by
  have hblank : (trim r.sentinel.toList).isEmpty = false ↔
      ∃ c ∈ r.sentinel.toList, isBlank c = false := by
    rw [← Bool.not_eq_true, List.isEmpty_iff, trim_eq_nil_iff]
    simp
  rw [← hblank]
  unfold validate
  cases t.hasNode r.projectPath <;> cases t.hasDirectory r.projectPath <;>
    cases (trim r.sentinel.toList).isEmpty <;> by_cases hcap : r.levelCap = 0 <;> simp [hcap]

/-- Of a request that is let through the sentinel is of use exactly if it does not start with a
blank: then a line that is made of the sentinel, a colon and a title is read as that title. A
sentinel that starts with a blank is let through if not all of it is blank, and no line is an
annotation under it. -/
theorem validate_usable_iff (r : Request) (t : FileTree) (h : r.validate t = .ok ()) :
    ((∀ w : String, w ≠ "" → (∀ c ∈ w.toList, isBlank c = false) →
        Command.ofLine? r.sentinel (r.sentinel ++ ": title " ++ w) =
          some ⟨.title, [w], none, none⟩) ↔
      StartsInked r.sentinel.toList) ∧
    (¬ StartsInked r.sentinel.toList →
      (∃ c ∈ r.sentinel.toList, isBlank c = false) ∧
      ∀ line, Command.ofLine? r.sentinel line = none) := by
  refine ⟨⟨fun hread => ?_, fun hs w hne hw => Command.ofLine?_title hs hne hw⟩, fun hs => ?_⟩
  · by_contra hs
    have hx := hread "x" (by decide) (by simpa using (by decide : isBlank 'x' = false))
    rw [Command.ofLine?_of_not_startsInked hs] at hx
    cases hx
  · exact ⟨(validate_eq_ok_iff.1 h).2.2.1, Command.ofLine?_of_not_startsInked hs⟩

/-- A tree with a directory for a project. -/
def projectTree : FileTree :=
  ⟨.directory [("project", .directory [])], []⟩

/-- Blanks at the end of a sentinel do no harm. -/
theorem validate_usable_iff_trailing :
    validate { projectPath := "project", sentinel := "// docapi \t" } projectTree = .ok () ∧
    Command.ofLine? "// docapi \t" "// docapi \t: title v1" = some ⟨.title, ["v1"], none, none⟩ := by
  have hvalid : validate { projectPath := "project", sentinel := "// docapi \t" } projectTree =
      .ok () := by decide +kernel
  have hinked : isBlank 'v' = false ∧ isBlank '1' = false := by decide
  refine ⟨hvalid, (validate_usable_iff _ _ hvalid).1.2 ?_ "v1" (by decide) (by simpa using hinked)⟩
  rintro c ⟨⟩
  decide

/-- The default sentinel after a space is let through, and its own title line is not read. -/
theorem validate_indentedSentinel :
    validate { projectPath := "project", sentinel := " // docapi" } projectTree = .ok () ∧
    '\n' ∉ " // docapi".toList ∧
    Command.ofLine? " // docapi" (" // docapi" ++ ": title " ++ "Pets") = none := by
  decide +kernel

end CommandLine.Request

end ApiNotes
