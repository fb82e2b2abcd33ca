/-
Which declaration of a name counts. A source is a tree, and the place of a node in it is told from
the root downward; first comes which of several sources it is. A walk records the declarations at
all places in their order, each before those inside it, and the table keeps the last one of each
name. So the table of further sources, merged into a table, counts over it.
-/
import ApiNotes.Symbol.Extraction
import ApiNotes.Proofs.OrderedMap
import ApiNotes.Proofs.Places

namespace ApiNotes

namespace Code

/-! ## Places of nodes -/

/-- The node at a place of a tree; the tree itself stands at the empty place. -/
def Tree.at? (t : Tree) : List Nat → Option Tree
  | [] => some t
  | i :: place => t.parts[i]?.bind (·.at? place)

/-- The declaration that a tree records at its root. -/
def Tree.declaration? (t : Tree) : Option Declaration :=
  t.form.declaration?

/-- The node at a place of a source. -/
def SourceUnit.at? (source : SourceUnit) : List Nat → Option Tree :=
  rowAt? Tree.at? (source.attributes ++ source.items)

/-- The node at a place of a list of sources. -/
def nodeAt? (sources : List SourceUnit) : List Nat → Option Tree :=
  rowAt? SourceUnit.at? sources

/-- A declaration is recorded at a place of a list of sources. -/
def DeclaredAt (sources : List SourceUnit) (place : List Nat) (d : Declaration) : Prop :=
  ∃ t, nodeAt? sources place = some t ∧ t.declaration? = some d

/-! ## The walk by place -/

/-- A walk of a tree records the declaration at its root, and then those in its parts. -/
theorem Tree.enumerates_declarations (t : Tree) :
    Enumerates t.at? Tree.declaration? t.declarations := by
  obtain ⟨form, parts⟩ := t
  have hparts : Enumerates (rowAt? Tree.at? parts) Tree.declaration?
      (parts.flatMap Tree.declarations) :=
    enumerates_row fun t _ => t.enumerates_declarations
  rw [declarations, declarationsOf_eq_flatMap]
  show Enumerates (Tree.at? ⟨form, parts⟩) declaration?
    ((declaration? ⟨form, parts⟩).toList ++ parts.flatMap Tree.declarations)
  exact hparts.node rfl fun _ _ => rfl

/-- A walk of a list of sources records the declarations in the order of their places. -/
theorem enumerates_declarations (sources : List SourceUnit) :
    Enumerates (nodeAt? sources) Tree.declaration? (sources.flatMap SourceUnit.declarations) := by
  refine enumerates_row fun source _ => ?_
  rw [SourceUnit.declarations, declarationsOf_eq_flatMap]
  exact enumerates_row fun t _ => t.enumerates_declarations

end Code

/-! ## Tables of declarations -/

namespace SymbolTable

theorem declareAll_eq_foldl (t : SymbolTable) (l : List (String × Symbol)) :
    (declareAll t l).1 = l.foldl (fun t e => t.insert e.1 e.2) t := by
  induction l generalizing t with
  | nil => rfl
  | cons e rest ih => exact ih (t.insert e.1 e.2)

theorem get?_declareAll (t : SymbolTable) (l : List (String × Symbol)) (name : String) :
    (declareAll t l).1.get? name =
      ((l.filter (·.1 = name)).getLast?.map Prod.snd).or (t.get? name) := by
  rw [declareAll_eq_foldl, OrderedMap.get?_foldl_insert]

theorem get?_ofDeclarations (l : List (String × Symbol)) (name : String) :
    (ofDeclarations l).1.get? name = (l.filter (·.1 = name)).getLast?.map Prod.snd := by
  rw [ofDeclarations, get?_declareAll, OrderedMap.get?_empty, Option.or_none]

/-- In a merged table the other one counts over the first. -/
theorem get?_merge (t other : SymbolTable) (name : String) :
    (merge t other).1.get? name = (other.get? name).or (t.get? name) := by
  rw [merge, get?_declareAll, ← OrderedMap.get?_ofList, OrderedMap.ofList_entries]

theorem ofDeclarations_append (l more : List (String × Symbol)) :
    (ofDeclarations (l ++ more)).1 = (merge (ofDeclarations l).1 (ofDeclarations more).1).1 := by
  refine OrderedMap.ext_get? fun name => ?_
  rw [get?_merge, get?_ofDeclarations more, ofDeclarations, declareAll_eq_foldl, List.foldl_append,
    ← declareAll_eq_foldl _ l, OrderedMap.get?_foldl_insert]
  rfl

end SymbolTable

namespace Code

/-- The table of a list of sources has for each name the last declaration of that name among those
that the walk records. -/
theorem get?_ofSources (sources : List SourceUnit) (name : String) :
    (SymbolTable.ofSources sources).1.get? name =
      ((sources.flatMap SourceUnit.declarations).filter (·.name = name)).getLast?.map
        fun d => d.definition.symbol := by
  have hsymbols : sources.flatMap SourceUnit.symbols =
      (sources.flatMap SourceUnit.declarations).map fun d => (d.name, d.definition.symbol) :=
    (List.map_flatMap ..).symm
  rw [SymbolTable.ofSources, SymbolTable.get?_ofDeclarations, hsymbols, List.filter_map,
    List.getLast?_map, Option.map_map]
  rfl

/-- The table of a list of sources gives a name the declaration at the last place where one of that
name is recorded, and has no other names. The walk that fills it records the declarations at all
places of the trees of all sources, in the order of the places. The table of further sources, merged
into it, gives the table of all of them. -/
theorem ofSources_last (sources more : List SourceUnit) :
    (∀ name symbol, (SymbolTable.ofSources sources).1.get? name = some symbol ↔
      ∃ place d, DeclaredAt sources place d ∧ d.name = name ∧ d.definition.symbol = symbol ∧
        ∀ place' d', Precedes place place' → DeclaredAt sources place' d' → d'.name ≠ name) ∧
    (∀ name, (SymbolTable.ofSources sources).1.get? name =
      ((sources.flatMap SourceUnit.declarations).filter (·.name = name)).getLast?.map
        fun d => d.definition.symbol) ∧
    Enumerates (nodeAt? sources) Tree.declaration? (sources.flatMap SourceUnit.declarations) ∧
    (SymbolTable.ofSources (sources ++ more)).1 =
      (SymbolTable.merge (SymbolTable.ofSources sources).1 (SymbolTable.ofSources more).1).1 := by
  have hwalk := enumerates_declarations sources
  refine ⟨fun name symbol => ?_, get?_ofSources sources, hwalk, ?_⟩
  · rw [get?_ofSources, Option.map_eq_some_iff]
    simp only [hwalk.getLast?_filter, decide_eq_true_eq, decide_eq_false_iff_not]
    constructor
    · rintro ⟨d, ⟨place, t, ht, hd, hname, hlast⟩, hsymbol⟩
      exact ⟨place, d, ⟨t, ht, hd⟩, hname, hsymbol, fun place' d' hlt ⟨t', ht', hd'⟩ =>
        hlast place' t' d' hlt ht' hd'⟩
    · rintro ⟨place, d, ⟨t, ht, hd⟩, hname, hsymbol, hlast⟩
      exact ⟨d, ⟨place, t, ht, hd, hname, fun place' t' d' hlt ht' hd' =>
        hlast place' d' hlt ⟨t', ht', hd'⟩⟩, hsymbol⟩
  · rw [SymbolTable.ofSources, List.flatMap_append, SymbolTable.ofDeclarations_append]
    rfl

/-- Declarations are found in modules, functions, types and values, but not in macros. -/
example :
    let text := "mod a \x7b fn f() \x7b enum B \x7b X \x7d \x7d \x7d
      struct A([u8; \x7b type C = u8; 3 \x7d]);
      const N: u8 = \x7b m!(struct D;); type B = A; 1 \x7d;"
    (SourceUnit.ofText? text).map (fun source => (SymbolTable.ofSources [source]).1.entries) =
      some [("A", .synonym (.list (.primitive .integer32))), ("B", .synonym (.named "A")),
        ("C", .synonym (.primitive .integer32))] := by
  decide +kernel

end Code

end ApiNotes
