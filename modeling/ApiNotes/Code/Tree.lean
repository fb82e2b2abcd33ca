/-
Syntax trees.
The nodes of a tree are the items of a source and all they are made of: modules, functions, blocks,
initial values, expressions, patterns, types. The parts of a node stand in the order in which a
walk meets them. Attributes come first, those inside a body included, and the requirements on
generic parameters come right after these. A macro keeps its tokens, and they are no parts of it.

A walk records what declares a type, structures, enumerations and synonyms, and goes on into the
parts of every node, of those that declare a type as well.
-/
import ApiNotes.Code.Declaration

namespace ApiNotes.Code

/-- What a node of a tree is. Besides the tokens of macros only what tells of a declared type is
kept. -/
inductive Form where
  /-- A structure with named fields. -/
  | record (name : String) (fields : List Field)
  /-- A structure with fields that have no names. -/
  | tuple (name : String) (types : List TypeExpr)
  /-- A structure without fields. -/
  | unit (name : String)
  | enumeration (name : String) (variants : List Variant)
  | synonym (name : String) (target : TypeExpr)
  | union
  | module
  | function
  | constant
  | static
  | trait
  | implementation
  /-- A block of items that are defined elsewhere. -/
  | foreign
  /-- A type that belongs to a trait or an implementation, or one that is defined elsewhere. -/
  | memberType
  | imports
  | block
  /-- A local binding. -/
  | binding
  /-- The value of a constant, a static or a binding. -/
  | initializer
  | expression
  /-- An arm of a match. -/
  | arm
  | pattern
  | type
  | bound
  /-- A generic parameter. -/
  | parameter
  /-- A requirement on generic parameters. -/
  | requirement
  /-- An argument of a path. -/
  | argument
  /-- An input of a function or a closure. -/
  | input
  | field
  | variant
  | attribute
  | invocation (tokens : List Token)
  /-- A form that is not taken apart. -/
  | verbatim
deriving Repr

/-- The declaration that a node records. -/
def Form.declaration? : Form → Option Declaration
  | .record name fields => some ⟨name, .record fields⟩
  | .tuple name types => some ⟨name, .tuple types⟩
  | .unit name => some ⟨name, .unit⟩
  | .enumeration name variants => some ⟨name, .enumeration variants⟩
  | .synonym name target => some ⟨name, .synonym target⟩
  | .union | .module | .function | .constant | .static | .trait | .implementation | .foreign
  | .memberType | .imports | .block | .binding | .initializer | .expression | .arm | .pattern
  | .type | .bound | .parameter | .requirement | .argument | .input | .field | .variant
  | .attribute | .invocation _ | .verbatim => none

/-- A syntax tree: a node and its parts. -/
structure Tree where
  form : Form
  parts : List Tree
deriving Repr

/-- A tree with attributes before the parts it has. -/
def Tree.attributed (attributes : List Tree) (t : Tree) : Tree :=
  ⟨t.form, attributes ++ t.parts⟩

mutual

/-- The declarations that a walk of a tree records, each before those inside it. -/
def Tree.declarations : Tree → List Declaration
  | ⟨form, parts⟩ => form.declaration?.toList ++ declarationsOf parts

/-- The declarations that a walk of several trees in a row records. -/
def declarationsOf : List Tree → List Declaration
  | [] => []
  | t :: rest => t.declarations ++ declarationsOf rest

end

theorem declarationsOf_eq_flatMap (trees : List Tree) :
    declarationsOf trees = trees.flatMap Tree.declarations := by
  induction trees with
  | nil => rfl
  | cons t rest ih => rw [declarationsOf, ih, List.flatMap_cons]

end ApiNotes.Code
