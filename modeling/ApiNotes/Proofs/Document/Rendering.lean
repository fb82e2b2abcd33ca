/-
Rendering a document as YAML loses nothing. The values that documents are written as have different
texts, and a document can be read back from its value, so two documents with the same text are one.
-/
import ApiNotes.Proofs.Document.Encoding
import ApiNotes.Proofs.Yaml.Text

namespace ApiNotes.Document

/-- Documents whose properties are maps have the same YAML text exactly if they are the same. -/
theorem render_yaml_inj {d₁ d₂ : Document} (h₁ : d₁.IsOrdered) (h₂ : d₂.IsOrdered) :
    d₁.render .yaml = d₂.render .yaml ↔ d₁ = d₂ := by
  constructor
  · intro h
    have hback₁ : Json.ReadsBack ofJson? toJson d₁ := readsBack h₁
    have hback₂ : Json.ReadsBack ofJson? toJson d₂ := readsBack h₂
    have hvalue : d₁.toJson = d₂.toJson := Yaml.render_inj hback₁.plain hback₂.plain h
    have hread : some d₁ = some d₂ := by rw [← hback₁.read, ← hback₂.read, hvalue]
    exact Option.some.inj hread
  · intro h
    rw [h]

/-- A document without paths and components has no schemas. -/
theorem isOrdered_of_info (info : Info) : Document.IsOrdered { info } := by
  intro s hs
  cases hs with
  | operation o ho =>
    obtain ⟨item, hitem, -⟩ := ho
    cases hitem
  | response r hr => cases hr
  | shared hs => cases hs

/-- Texts that spell a null, a truth value or a number, that end with a line or start with a blank,
and a missing text: no two of them are rendered alike. -/
def trickyDescriptions : List (Option String) :=
  [none, some "", some "~", some "null", some "true", some "0x1F", some " a", some "a: b",
   some "a #b", some "- a", some "a\n", some "a\n\n", some "\n a", some "'a'", some "a\u2028b",
   some "a\tb"]

theorem render_yaml_inj_tricky :
    (∀ description, Document.IsOrdered { info := { description } }) ∧
    (trickyDescriptions.map fun description =>
      Document.render { info := { description } } .yaml).Nodup := by
  have hordered : ∀ description, Document.IsOrdered { info := { description } } :=
    fun description => isOrdered_of_info { description }
  refine ⟨hordered, ?_⟩
  have hnodup : trickyDescriptions.Nodup := by decide
  refine List.pairwise_map.2 (hnodup.imp fun {description description'} hne h => hne ?_)
  have heq := (render_yaml_inj (hordered description) (hordered description')).1 h
  exact congrArg (fun d => d.info.description) heq

end ApiNotes.Document
