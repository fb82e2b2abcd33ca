/-
The declared types of a project by name.
A later declaration of a name replaces the earlier one and is reported. Merging two tables declares
the names of the second one after those of the first, in the order of the names.
-/
import ApiNotes.Symbol.Basic

namespace ApiNotes

/-- Declared types by name. -/
abbrev SymbolTable := OrderedMap Symbol

namespace SymbolTable

/-- What there is to say about a declaration: it may replace an earlier one. -/
def repeats (t : SymbolTable) (name : String) (s : Symbol) : List Warning :=
  match t.get? name with
  | some old => [.declarationRepeated name s.kind old.kind]
  | none => []

/-- The table with one more declaration. -/
def declare (t : SymbolTable) (name : String) (s : Symbol) : SymbolTable × List Warning :=
  (t.insert name s, repeats t name s)

/-- The table with a list of declarations, added in order. -/
def declareAll (t : SymbolTable) : List (String × Symbol) → SymbolTable × List Warning
  | [] => (t, [])
  | (name, s) :: rest =>
    let (t, first) := declare t name s
    let (t, others) := declareAll t rest
    (t, first ++ others)

/-- The table with the declarations of another one, which count over its own. -/
def merge (t other : SymbolTable) : SymbolTable × List Warning :=
  declareAll t other.entries

/-- The table of a list of declarations. -/
def ofDeclarations (declarations : List (String × Symbol)) : SymbolTable × List Warning :=
  declareAll .empty declarations

end SymbolTable

end ApiNotes
