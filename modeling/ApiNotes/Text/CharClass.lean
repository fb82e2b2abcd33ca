/-
Classes of characters, given as ascending ranges of code points.
A look-up walks the ranges and stops at the first one that ends at or after the code point, so the
ranges of a class are listed in order and do not overlap.
-/

namespace ApiNotes.Text

/-- A class of characters: inclusive ranges of code points in ascending order. -/
abbrev CharClass := List (Nat × Nat)

/-- Whether the code point lies in one of the ranges. -/
def CharClass.holds : CharClass → Nat → Bool
  | [], _ => false
  | (lo, hi) :: rest, n => if n < lo then false else if n ≤ hi then true else CharClass.holds rest n

/-- Whether the character belongs to the class. -/
def CharClass.contains (cls : CharClass) (c : Char) : Bool :=
  cls.holds c.toNat

end ApiNotes.Text
