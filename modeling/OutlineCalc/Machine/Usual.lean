import OutlineCalc.Amount
import OutlineCalc.Machine
import OutlineCalc.Trig

/-!
A machine of the usual kind. Its trigonometric functions are rounded correctly, it has room for about
a thousand calls within calls, and it counts digits in thirty-two bits.
-/

namespace OutlineCalc.Machine

/-- How many calls within calls some tokens take at most when they are read. Each minus sign in front of
an operand takes one, a parenthesis eight, and the parenthesis of a call ten; `levels` are how many are
taken outside of the parentheses that are open, the innermost first, and `taken` how many are taken
here. -/
def callsToRead : List Token → (levels : List Nat) → (taken : Nat) → Nat
  | [], _, taken => taken
  | .mark .minus :: rest, levels, taken => max taken (callsToRead rest levels (taken + 1))
  | .mark .leftParen :: rest, levels, taken => callsToRead rest ((taken + 8) :: levels) (taken + 8)
  | .name _ :: .mark .leftParen :: rest, levels, taken => callsToRead rest ((taken + 10) :: levels) (taken + 10)
  | .mark .rightParen :: rest, levels, taken => max taken (callsToRead rest levels.tail (levels.tail.headD 0))
  | _ :: rest, levels, taken => max taken (callsToRead rest levels (levels.headD 0))

/-- How many calls within calls lead to the first of some expressions, each an operand of the next. The
arguments of a call take two. -/
def callsToEvaluate : List Expr → Nat
  | [] => 0
  | .call _ _ :: path => callsToEvaluate path + 2
  | _ :: path => callsToEvaluate path + 1

/-- A number whose digits cannot be counted: a whole number below a thousand million million is shown as
ever, and any other as zero. -/
def withoutCount (group : Bool) (x : Float) : String :=
  let whole := Binary64.magnitude x / Binary64.unitsPerOne
  if Binary64.magnitude x % Binary64.unitsPerOne = 0 ∧ whole < Nat.pow 10 15 then Amount.text group 0 x else "0"

theorem callsToEvaluate_le (path : List Expr) : callsToEvaluate path ≤ 2 * path.length := by
  induction path with
  | nil => exact Nat.le_refl 0
  | cons expr path ih => cases expr <;> simp only [callsToEvaluate, List.length_cons] <;> omega

/-- A machine of the usual kind. -/
@[reducible] def usual : Machine where
  sin := Trig.sin
  cos := Trig.cos
  tan := Trig.tan
  asin := Trig.asin
  acos := Trig.acos
  atan := Trig.atan
  readsTooDeep calls rule tokens := (rule.within 2 tokens).isTooDeep && decide (971 < calls + callsToRead tokens [] 0)
  entersTooDeep path := decide (991 < callsToEvaluate path)
  appliesTooDeep path := decide (989 < callsToEvaluate path)
  walkRoom := 990
  uncounted group _ x := withoutCount group x
  reads_shallow calls rule tokens shallow := by rw [shallow, Bool.false_and]
  evaluates_shallow path short := by
    have few := callsToEvaluate_le path
    constructor <;> exact decide_eq_false (by omega)

end OutlineCalc.Machine
