/-!
Code points: the characters, and the halves of surrogate pairs, which are no characters but can be
named one by one where a text is written with the numbers of its code points.
-/

namespace OutlineCalc

/-- A code point. -/
inductive CodePoint where
  | char (c : Char)
  | half (code : Nat)
deriving DecidableEq, Repr

namespace CodePoint

/-- The code point with a number. -/
def ofCode (code : Nat) : CodePoint :=
  if 0xD800 ≤ code ∧ code ≤ 0xDFFF then half code else char (Char.ofNat code)

/-- The number of a code point. -/
def code : CodePoint → Nat
  | char c => c.toNat
  | half code => code

/-- The character that a code point is. -/
def char? : CodePoint → Option Char
  | char c => some c
  | half _ => none

/-- The code points of some characters. -/
def ofChars (cs : List Char) : List CodePoint := cs.map char

/-- The code points of a text. -/
def ofText (text : String) : List CodePoint := ofChars text.toList

/-- The characters that code points are, if they all are. -/
def chars? (points : List CodePoint) : Option (List Char) := points.mapM char?

end CodePoint

end OutlineCalc
