/-
The names that an API mentions. Each command with a type token records the name that the token
mentions as soon as it is applied, while the schema of the type only reaches the document if the
handler is closed, routed and not replaced. So the recorded names are the ones that the commands
mention, first mention first, and the document mentions no others: a resolution that starts from the
recorded names alone does the same.
-/
import ApiNotes.Proofs.Api.Content
import ApiNotes.Proofs.Api.Inline
import ApiNotes.Proofs.Resolution.Seeds

namespace ApiNotes

/-- What the schema of a type refers to is the declared type that the type mentions. -/
theorem referencedName_of_mem_references {t : TypeRef} {name : String}
    (h : name ∈ (Schema.ofTypeRef t).references) : t.referencedName = some name :=
  (Schema.refersIn_ofTypeRef t).of_mem_references h

theorem Command.Mentions.mentioned? {c : Command} {t : TypeRef} (h : c.Mentions t) :
    c.mentioned? = t.referencedName := by
  obtain ⟨token, htoken, ht⟩ := h
  rw [Command.mentioned?, htoken, typeOfToken_eq ht]
  rfl

/-- The schemas of a finished document refer only to names that its commands mention. -/
theorem mentioned_of_mem_mentions {api : String} {cs : List Command} {m : ApiModel}
    (h : ApiModel.ofCommands api cs = .ok m) {n : String} (hn : n ∈ m.document.mentions) :
    n ∈ cs.filterMap Command.mentioned? := by
  have hlinked : m.document.IsLinked fun s => ∀ n ∈ s.references,
      n ∈ cs.filterMap Command.mentioned? := by
    refine ofCommands_isLinked h fun c hc t ht n hn => ?_
    have hname := referencedName_of_mem_references hn
    exact List.mem_filterMap.2 ⟨c, hc, ht.mentioned?.trans hname⟩
  obtain ⟨s, hs, hmem⟩ := Document.mem_mentions.1 hn
  exact hlinked.schemas s hs n hmem

/-- The names that an accepted sequence of commands records are those that the type tokens of its
commands mention, each once, first mention first. They cover all that the finished document refers
to, so a resolution, with whatever table and cap, does the same if it starts from them alone. -/
theorem ofCommands_referenced (api : String) (cs : List Command) (m : ApiModel)
    (h : ApiModel.ofCommands api cs = .ok m) :
    m.referenced = firstOccurrences (cs.filterMap Command.mentioned?) ∧
    m.referenced.Nodup ∧
    (∀ n ∈ m.document.referencedSchemas, n ∈ m.referenced) ∧
    ∀ table cap, m.resolve table cap = m.resolveFrom m.referenced table cap := by
  have hreferenced : m.referenced = firstOccurrences (cs.filterMap Command.mentioned?) := by
    rw [ofCommands_eq_told h]
    rfl
  have hcovered : ∀ n ∈ m.document.referencedSchemas, n ∈ m.referenced := by
    intro n hn
    rw [hreferenced, mem_firstOccurrences]
    exact mentioned_of_mem_mentions h (Document.mem_referencedSchemas_iff.1 hn)
  refine ⟨hreferenced, hreferenced ▸ nodup_firstOccurrences _, hcovered, fun table cap => ?_⟩
  rw [Resolution.resolve_eq_resolveFrom, Resolution.resolveFrom_append_of_subset hcovered]

/-- A handler that is described twice, and one without a route. -/
def shelfCommands : List Command :=
  [⟨.code, ["404", "\x7bProblem\x7d"], none, none⟩,
   ⟨.beginHandler, ["list"], none, none⟩,
   ⟨.body, ["[][]Book"], none, none⟩,
   ⟨.query, ["after", "Cursor"], none, none⟩,
   ⟨.endHandler, [], none, none⟩,
   ⟨.beginHandler, ["list"], none, none⟩,
   ⟨.method, ["GET"], none, none⟩,
   ⟨.query, ["limit", "int"], none, none⟩,
   ⟨.response, ["200", "\x7b[]Shelf\x7d"], none, none⟩,
   ⟨.response, ["404"], none, none⟩,
   ⟨.endHandler, ["list"], none, none⟩,
   ⟨.beginHandler, ["lost"], none, none⟩,
   ⟨.body, ["Book"], none, none⟩,
   ⟨.endHandler, [], none, none⟩,
   ⟨.route, ["/shelves", "list"], none, none⟩]

/-- The document mentions only two of the four names, and in another order. -/
theorem ofCommands_referenced_shelves : ∃ m,
    ApiModel.ofCommands "" shelfCommands = .ok m ∧
    m.document.referencedSchemas = ["Shelf", "Problem"] ∧
    m.referenced = ["Problem", "Book", "Cursor", "Shelf"] ∧
    ∀ table cap, m.resolve table cap =
      m.resolveFrom ["Problem", "Book", "Cursor", "Shelf"] table cap := by
  obtain ⟨m, hm⟩ : ∃ m, ApiModel.ofCommands "" shelfCommands = .ok m := ⟨_, by rfl⟩
  obtain ⟨hreferenced, -, -, hresolve⟩ := ofCommands_referenced "" shelfCommands m hm
  have hdocument : m.document.referencedSchemas = ["Shelf", "Problem"] := by
    rw [ofCommands_eq_told hm]
    decide +kernel
  have hnames : m.referenced = ["Problem", "Book", "Cursor", "Shelf"] := hreferenced.trans rfl
  rw [hnames] at hresolve
  exact ⟨m, hm, hdocument, hnames, hresolve⟩

end ApiNotes
