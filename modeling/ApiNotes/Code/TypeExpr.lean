/-
Types as source code writes them.
References, pointers, parentheses, slices and arrays keep what they enclose. A path keeps the names
along it and the arguments of its last name; among those, lifetimes, constants and bindings are
told from types. Every other form of type is opaque.
-/

namespace ApiNotes.Code

mutual

/-- A type in source code. -/
inductive TypeExpr where
  | reference (target : TypeExpr)
  | pointer (target : TypeExpr)
  | parenthesized (inner : TypeExpr)
  | slice (element : TypeExpr)
  | array (element : TypeExpr)
  /-- The names before the last one, the last name, and its arguments. -/
  | path (qualifier : List String) (name : String) (arguments : List TypeArgument)
  /-- A tuple, a function type, a set of traits, a macro, or one of the types without name. -/
  | other
deriving Repr

/-- An argument of a path in a type. -/
inductive TypeArgument where
  | type (t : TypeExpr)
  /-- A lifetime, a constant or a binding. -/
  | other
deriving Repr

end

/-- The type that an argument is, if it is one. -/
def TypeArgument.type? : TypeArgument → Option TypeExpr
  | type t => some t
  | other => none

/-- The types among a list of arguments. -/
def typeArguments (arguments : List TypeArgument) : List TypeExpr :=
  arguments.filterMap TypeArgument.type?

end ApiNotes.Code
