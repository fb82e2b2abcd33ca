/-
White space and trimming.
A blank is any character with the property White_Space, so the byte order mark and the zero width
space are not blank. Trimming drops the blanks at both ends and nothing in between.
-/
import ApiNotes.Text.CharClass

namespace ApiNotes.Text

/-- Characters with the property White_Space. -/
def blankClass : CharClass :=
  [(0x9, 0xd), (0x20, 0x20), (0x85, 0x85), (0xa0, 0xa0), (0x1680, 0x1680), (0x2000, 0x200a),
   (0x2028, 0x2029), (0x202f, 0x202f), (0x205f, 0x205f), (0x3000, 0x3000)]

/-- A white space character. -/
def isBlank (c : Char) : Bool :=
  blankClass.contains c

/-- Drops the blanks at the start. -/
def trimStart (text : List Char) : List Char :=
  text.dropWhile isBlank

/-- Drops the blanks at the end. -/
def trimEnd (text : List Char) : List Char :=
  (text.reverse.dropWhile isBlank).reverse

/-- Drops the blanks at both ends. -/
def trim (text : List Char) : List Char :=
  trimEnd (trimStart text)

end ApiNotes.Text
