import OutlineCalc.CharRange

/-!
Blank characters and what is cut along them: the ends of a text and its last word. Every
character that Unicode counts as white space is blank, and so are the four information
separators U+001C to U+001F.
-/

namespace OutlineCalc.Blank

/-- The code points of blank characters. -/
def blankRanges : List (Nat × Nat) :=
  [(0x0009, 0x000D), (0x001C, 0x0020), (0x0085, 0x0085), (0x00A0, 0x00A0), (0x1680, 0x1680),
   (0x2000, 0x200A), (0x2028, 0x2029), (0x202F, 0x202F), (0x205F, 0x205F), (0x3000, 0x3000)]

/-- Whether a character is blank. -/
def isBlank (c : Char) : Bool := CharRange.covers blankRanges c.toNat

/-- A text without the blanks it ends in. -/
def trimEnd (cs : List Char) : List Char := (cs.reverse.dropWhile isBlank).reverse

/-- A text without the blanks it starts with and ends in. -/
def trim (cs : List Char) : List Char := trimEnd (cs.dropWhile isBlank)

/-- The last maximal run of characters that are not blank; empty for a blank text. -/
def lastWord (cs : List Char) : List Char :=
  ((cs.reverse.dropWhile isBlank).takeWhile (!isBlank ·)).reverse

/-- The end of a trimmed text is not blank. -/
theorem isBlank_getLast_trimEnd {cs : List Char} {c : Char} (last : (trimEnd cs).getLast? = some c) :
    isBlank c = false := by
  have first : (cs.reverse.dropWhile isBlank).head? = some c := by
    simpa [trimEnd] using last
  have := List.head?_dropWhile_not isBlank cs.reverse
  rw [first] at this
  simpa using this

end OutlineCalc.Blank
