/-
Paths as text.
A path is a list of segments between slashes. It starts at the root if the first segment is empty,
and at the current directory otherwise. Empty segments and dots stay where they are, two dots go up,
and every other segment is the name of an entry.
-/

namespace ApiNotes.Path

/-! ## Segments -/

/-- The texts between the slashes of a path. -/
def segments (path : String) : List String :=
  (path.toList.splitOn '/').map String.ofList

/-- Whether a path starts at the root. -/
def isAbsolute (path : String) : Bool :=
  path.toList.head? == some '/'

/-- Whether a path ends with a slash and so can only mean a directory. -/
def endsWithSlash (path : String) : Bool :=
  path.toList.getLast? == some '/'

/-- The segments of a path without the empty ones at the end. -/
def trimmedSegments (path : String) : List String :=
  ((segments path).reverse.dropWhile (·.isEmpty)).reverse

/-- Whether a segment names an entry of a directory. -/
def isName (segment : String) : Bool :=
  segment != "" && segment != "." && segment != ".."

/-- The last segment that is not empty. -/
def lastSegment (path : String) : String :=
  (trimmedSegments path).getLast?.getD ""

/-! ## Joining -/

/-- A path seen from a directory. A path that starts at the root stays as it is, and otherwise one
slash stands between the two. -/
def join (directory path : String) : String :=
  if isAbsolute path || directory.isEmpty then path
  else if endsWithSlash directory then directory ++ path
  else directory ++ "/" ++ path

/-- The path of an entry below a directory. -/
def joinAll (directory : String) (names : List String) : String :=
  names.foldl join directory

/-! ## Going up -/

/-- The directories on the way to the end of a path, nearest first and starting with the end itself;
segments are listed from the last to the first. The first segment counts even if it is a dot. -/
def upward : List String → List (List String)
  | [] => [[]]
  | [""] => [[""]]
  | segment :: rest =>
    if (segment == "" || segment == ".") && !rest.isEmpty then upward rest
    else (segment :: rest) :: upward rest

/-- The text of a path whose segments are listed from the last to the first. -/
def ofReversed : List String → String
  | [""] => "/"
  | segments => "/".intercalate segments.reverse

/-- The directories above a path, nearest first. The last of them is the root or the current
directory, which is the empty path. -/
def parents (path : String) : List String :=
  ((upward (segments path).reverse).drop 1).map ofReversed

end ApiNotes.Path
