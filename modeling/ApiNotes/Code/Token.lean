/-
The tokens of Rust source code.
Brackets come in matching pairs, so what stands between two of them is one token, a group. An
operator of several characters is a run of marks, each joined to the next.
-/

namespace ApiNotes.Code

/-- The kinds of bracket. -/
inductive Delimiter where
  | parenthesis
  | bracket
  | brace
deriving DecidableEq, Repr

/-- A literal. Only the contents that matter later on are kept. -/
inductive Literal where
  | text (value : String)
  | byteText
  /-- A text that ends with a zero byte. -/
  | zeroText
  | character
  | byte
  | integer (value : Nat) (suffix : String)
  /-- A number with a point or an exponent, as written. -/
  | decimal (spelling : String)
  /-- The mark that a compiler prints in place of a macro whose expansion failed. -/
  | failedExpansion
deriving DecidableEq, Repr

/-- A token, or a group of tokens between brackets. -/
inductive Token where
  /-- A name or a keyword; a raw name keeps its `r#`. -/
  | word (text : String)
  /-- A punctuation character, and whether another one follows it directly. -/
  | mark (c : Char) (joint : Bool)
  | lifetime (name : String)
  | literal (l : Literal)
  | group (d : Delimiter) (content : List Token)
deriving Repr

mutual

/-- The number of tokens in a token, itself included. -/
def Token.size : Token → Nat
  | .group _ content => sizeOfTokens content + 1
  | _ => 1

/-- The number of tokens in a list, those in groups included. -/
def sizeOfTokens : List Token → Nat
  | [] => 0
  | t :: rest => t.size + sizeOfTokens rest

end

/-- The words that are no names. -/
def keywords : List String :=
  ["_", "abstract", "as", "async", "await", "become", "box", "break", "const", "continue", "crate",
   "do", "dyn", "else", "enum", "extern", "false", "final", "fn", "for", "if", "impl", "in", "let",
   "loop", "macro", "match", "mod", "move", "mut", "override", "priv", "pub", "ref", "return",
   "Self", "self", "static", "struct", "super", "trait", "true", "try", "type", "typeof", "unsafe",
   "unsized", "use", "virtual", "where", "while", "yield"]

/-- Whether a word is a name. -/
def isName (word : String) : Bool :=
  !keywords.contains word

end ApiNotes.Code
