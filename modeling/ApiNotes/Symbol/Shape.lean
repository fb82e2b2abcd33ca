/-
The exposed shape of a type in source code.
Wrappers such as `Option` or `Box` have the shape of what they hold, and so have references,
pointers and parentheses. Slices, arrays and collections are lists, dictionaries are objects, and
every other path is a type of that name. Qualification does not matter: the last name of a path
decides.
-/
import ApiNotes.Code.TypeExpr
import ApiNotes.TypeRef

namespace ApiNotes

/-- The types that have the shape of their first argument. -/
def wrapperNames : List String :=
  ["Option", "Box", "Rc", "Arc", "Cow", "RefCell", "Cell"]

/-- The types that are lists of their first argument. -/
def sequenceNames : List String :=
  ["Vec", "VecDeque", "LinkedList", "HashSet", "BTreeSet"]

/-- The types that are dictionaries from their first argument to their second. -/
def dictionaryNames : List String :=
  ["HashMap", "BTreeMap", "IndexMap"]

namespace Code

/-- The shape of a path, given its last name and the shape of its first argument. -/
def shapeOfName (name : String) (argument : Option TypeRef) : TypeRef :=
  if wrapperNames.contains name then argument.getD .object
  else if sequenceNames.contains name then .list (argument.getD .object)
  else if dictionaryNames.contains name then .object
  else .ofBareName name

mutual

/-- The exposed shape of a type. -/
def TypeExpr.shape : TypeExpr → TypeRef
  | .reference target => target.shape
  | .pointer target => target.shape
  | .parenthesized inner => inner.shape
  | .slice element => .list element.shape
  | .array element => .list element.shape
  | .path _ name arguments => shapeOfName name (firstShape arguments)
  | .other => .object

/-- The shape of the first type among a list of arguments. -/
def firstShape : List TypeArgument → Option TypeRef
  | [] => none
  | .type t :: _ => some t.shape
  | .other :: rest => firstShape rest

end

mutual

/-- The shapes of the keys and values of a dictionary, looking through wrappers. A dictionary that
lacks one of its two arguments tells neither. -/
def TypeExpr.dictionary? : TypeExpr → Option (TypeRef × TypeRef)
  | .path _ name arguments =>
    if wrapperNames.contains name then firstDictionary? arguments
    else if dictionaryNames.contains name then
      match typeArguments arguments with
      | key :: value :: _ => some (key.shape, value.shape)
      | _ => none
    else none
  | _ => none

/-- The dictionary that the first type among a list of arguments is. -/
def firstDictionary? : List TypeArgument → Option (TypeRef × TypeRef)
  | [] => none
  | .type t :: _ => t.dictionary?
  | .other :: rest => firstDictionary? rest

end

end Code

end ApiNotes
