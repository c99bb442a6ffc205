/-!
Sets of characters given as ascending ranges of code points, which is how the Unicode
properties used by the calculator are stored. Membership stops at the first range that starts
beyond the character.
-/

namespace OutlineCalc.CharRange

/-- Whether `code` lies in one of the ranges; the ranges are disjoint and ascending. -/
def covers : List (Nat × Nat) → Nat → Bool
  | [], _ => false
  | (low, high) :: more, code =>
    if code < low then false else if code ≤ high then true else covers more code

theorem covers_before {low high code : Nat} (more : List (Nat × Nat)) (before : code < low) :
    covers ((low, high) :: more) code = false := by
  simp [covers, before]

end OutlineCalc.CharRange
