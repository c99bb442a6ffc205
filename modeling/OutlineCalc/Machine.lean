import OutlineCalc.Parse

/-!
What the calculator leaves to the machine that it runs on: the trigonometric functions, the room there
is for calls within calls, and how a number looks that has more digits than can be counted. Nothing in
the calculator depends on more of it than is said here.
-/

namespace OutlineCalc

/-- What a machine provides. Reading a line takes room for rules within rules, evaluating an expression
for operands of operands, and walking through an outline for lines below lines. How much of it there is,
and how much of it is taken, is up to the machine, but one level of nesting has room everywhere. -/
class Machine where
  sin : Float → Float
  cos : Float → Float
  tan : Float → Float
  asin : Float → Float
  acos : Float → Float
  atan : Float → Float
  /-- Whether a rule has no room, below some calls, to read what some tokens start with. -/
  readsTooDeep : (calls : Nat) → Parse.Rule → List Token → Bool
  /-- Whether there is no room to turn to the first of some expressions, each an operand of the next. -/
  entersTooDeep : List Expr → Bool
  /-- Whether there is no room left for the first of some expressions, each an operand of the next, when
  its own operands have values. -/
  appliesTooDeep : List Expr → Bool
  /-- For how many lines, each below the one before, a walk has room. -/
  walkRoom : Nat
  /-- How a number is shown to so many places that its digits have no number. -/
  uncounted : (group : Bool) → (places : Nat) → Float → String
  reads_shallow : ∀ calls rule tokens, (rule.within 2 tokens).isTooDeep = false → readsTooDeep calls rule tokens = false
  evaluates_shallow : ∀ path, path.length ≤ 2 → entersTooDeep path = false ∧ appliesTooDeep path = false

end OutlineCalc
