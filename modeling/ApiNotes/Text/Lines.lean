/-
Lines of a text.
A line ends at a line feed, and a carriage return directly before that line feed is not part of
it. What follows the last line feed is a line only when it is not empty, and keeps a carriage
return at its end.
-/

namespace ApiNotes.Text

/-- Drops a carriage return from the end of a line held last character first. -/
def dropReturn : List Char → List Char
  | '\r' :: line => line
  | line => line

/-- The lines of the rest of a text; `line` is what the current line has so far, last character
first. -/
def linesAfter (line : List Char) : List Char → List (List Char)
  | [] => if line.isEmpty then [] else [line.reverse]
  | c :: rest =>
    if c = '\n' then (dropReturn line).reverse :: linesAfter [] rest
    else linesAfter (c :: line) rest

/-- The lines of a text, without their line ends. -/
def lines (text : String) : List String :=
  (linesAfter [] text.toList).map String.ofList

end ApiNotes.Text
