import OutlineCalc.Binary64
import OutlineCalc.Letter

/-!
Written numbers: digits, and after a point more digits. A point belongs to the number only if a
digit follows it.
-/

namespace OutlineCalc

open Letter (isDigit)

/-- A written number: its digits before the point and those after it, if any. -/
structure Numeral where
  whole : List Char
  fraction : List Char
deriving DecidableEq, Repr

namespace Numeral

/-- The characters of a written number; the point is left out when nothing follows it. -/
def chars (n : Numeral) : List Char :=
  if n.fraction.isEmpty then n.whole else n.whole ++ '.' :: n.fraction

/-- The text of a written number. -/
def lexeme (n : Numeral) : String := String.ofList n.chars

/-- The number that a row of decimal digits stands for. -/
def digitsValue (digits : List Char) : Nat :=
  digits.foldl (fun total c => 10 * total + (c.toNat - '0'.toNat)) 0

/-- The double nearest to the number as written. -/
def value (n : Numeral) : Float :=
  Binary64.nearest (digitsValue (n.whole ++ n.fraction)) (Nat.pow 10 n.fraction.length)

/-- The longest number that a text starts with, and what follows it. -/
def read (cs : List Char) : Numeral × List Char :=
  let whole := cs.takeWhile isDigit
  match cs.dropWhile isDigit with
  | '.' :: d :: more =>
    if isDigit d then (⟨whole, d :: more.takeWhile isDigit⟩, more.dropWhile isDigit)
    else (⟨whole, []⟩, '.' :: d :: more)
  | rest => (⟨whole, []⟩, rest)

/-- Nothing is lost by reading a number. -/
theorem chars_read_append (cs : List Char) : (read cs).1.chars ++ (read cs).2 = cs := by
  have joined : cs.takeWhile isDigit ++ cs.dropWhile isDigit = cs := List.takeWhile_append_dropWhile
  simp only [read]
  split
  · rename_i d more shape
    rw [shape] at joined
    split
    · simp only [chars, List.isEmpty_cons, Bool.false_eq_true, ↓reduceIte, List.append_assoc, List.cons_append,
        List.takeWhile_append_dropWhile, joined]
    · simpa [chars] using joined
  · simp [chars]

/-- A number is read only where a digit stands, and takes at least that. -/
theorem length_read_lt {c : Char} (cs : List Char) (digit : isDigit c = true) :
    (read (c :: cs)).2.length < (c :: cs).length := by
  have joined := congrArg List.length (chars_read_append (c :: cs))
  have nonempty : (read (c :: cs)).1.chars ≠ [] := by
    simp only [read]
    split
    · split <;> simp [chars, digit]
    · simp [chars, digit]
  have := List.length_pos_iff.2 nonempty
  simp only [List.length_append] at joined
  omega

end Numeral

end OutlineCalc
