/-
Reading annotations out of source lines.
An annotation is a line that, after trimming, starts with a sentinel. The rest is split at spaces,
and only at spaces: an optional `:name` comes first and names an API, then the keyword, then the
arguments. A sentinel that ends inside a word must not run on into the rest of the line.

`Command.render` writes a command in the form that reading gives back.
-/
import ApiNotes.Text.Blank
import ApiNotes.Text.Word
import ApiNotes.Annotation.Command

namespace ApiNotes

/-- The sentinel in use unless another one is asked for. -/
def defaultSentinel : String :=
  "// docapi"

/-- Whether a word runs across the point between two texts. -/
def joinsWords (before after : List Char) : Bool :=
  before.getLast?.any Text.isWordChar && after.head?.any Text.isWordChar

/-- The non-empty pieces between spaces. -/
def spaced (text : List Char) : List String :=
  ((text.splitOn ' ').filter (!·.isEmpty)).map String.ofList

/-- The command that a list of tokens spells, if it has a keyword. -/
def Command.ofTokens? : List String → Option Command
  | [] => none
  | first :: rest =>
    match first.toList with
    | ':' :: name =>
      match rest with
      | [] => none
      | keyword :: args =>
        some ⟨.ofKeyword keyword, args, if name.isEmpty then none else some (.ofList name), none⟩
    | _ => some ⟨.ofKeyword first, rest, none, none⟩

/-- The command on a line, if the line is an annotation under the sentinel. -/
def Command.ofLine? (sentinel line : String) : Option Command :=
  match sentinel.toList.isPrefixOf? (Text.trim line.toList) with
  | none => none
  | some rest =>
    if joinsWords sentinel.toList rest then none
    else Command.ofTokens? (spaced (Text.trim rest))

/-- The command as an annotation line: sentinel, colon, API, keyword and arguments. -/
def Command.render (sentinel : String) (c : Command) : String :=
  sentinel ++ ":" ++ c.api.getD "" ++ String.join ((c.kind.keyword :: c.args).map (" " ++ ·))

end ApiNotes
