/-!
Values of expressions: numbers, texts, and the value of a name that nothing was bound to.
-/

namespace OutlineCalc

/-- A value. The value of an unbound name counts as zero in all arithmetic; it differs from the
number zero in having no sign, so that its negation is again the value of an unbound name. -/
inductive Value where
  | number (x : Float)
  | text (s : String)
  | unset
deriving Repr

/-- The number that a value adds to an outline, where a text adds nothing. -/
def Value.amount : Value → Float
  | number x => x
  | text _ => 0
  | unset => 0

end OutlineCalc
