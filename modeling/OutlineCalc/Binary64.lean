/-!
Double-precision numbers as exact quantities. Every finite double is a whole number of units of
`2 ^ -1074`, so its size is the natural number `magnitude`, and the nearest double of a quotient
is found in exact arithmetic.
-/

namespace OutlineCalc.Binary64

/-- Whether the sign bit is set; it is for the negative zero. -/
def isNegative (x : Float) : Bool := x.toBits.toNat / Nat.pow 2 63 == 1

/-- The eleven bits that hold the exponent. -/
def exponentField (x : Float) : Nat := x.toBits.toNat / Nat.pow 2 52 % Nat.pow 2 11

/-- The fifty-two bits that hold the fraction. -/
def fractionField (x : Float) : Nat := x.toBits.toNat % Nat.pow 2 52

/-- Whether a double is neither an infinity nor a NaN. -/
def isFinite (x : Float) : Bool := exponentField x != 2047

/-- Whether a double is a NaN. -/
def isNaN (x : Float) : Bool := exponentField x == 2047 && fractionField x != 0

/-- The fraction of a double, with its hidden bit unless the double is subnormal. -/
def significand (x : Float) : Nat :=
  if exponentField x = 0 then fractionField x else Nat.pow 2 52 + fractionField x

/-- The size of a finite double in units of `2 ^ -1074`. -/
def magnitude (x : Float) : Nat := significand x * Nat.pow 2 (exponentField x - 1)

/-- How many units of a finite double make one. -/
def unitsPerOne : Nat := Nat.pow 2 1074

/-- The whole number nearest to a quotient; a tie goes to the even neighbour. -/
def roundQuotient (a d : Nat) : Nat :=
  let whole := a / d
  let twice := 2 * (a % d)
  if twice < d then whole else if d < twice then whole + 1 else whole + whole % 2

/-- The bits of positive infinity. -/
def infinityBits : Nat := 2047 * Nat.pow 2 52

/-- The bits of the double nearest to the quotient `a / d`; a tie goes to the even significand,
and a quotient of at least `2 ^ 1024 - 2 ^ 970` to infinity. A significand that rounds up to the
next power of two carries into the exponent field, as it has to. -/
def nearestBits (a d : Nat) : Nat :=
  let units := a * unitsPerOne
  let shift := Nat.log2 (units / d) - 52
  min (shift * Nat.pow 2 52 + roundQuotient units (d * Nat.pow 2 shift)) infinityBits

/-- The double nearest to the quotient `a / d`. -/
def nearest (a d : Nat) : Float := Float.ofBits (UInt64.ofNat (nearestBits a d))

/-- A double with the sign bit set as asked. -/
def withSign (negative : Bool) (x : Float) : Float := if negative then -x else x

theorem roundQuotient_zero (d : Nat) : roundQuotient 0 d = 0 := by
  simp [roundQuotient]

/-- Rounding moves a quotient by at most one half. -/
theorem roundQuotient_near (a : Nat) {d : Nat} (pos : 0 < d) :
    2 * a ≤ 2 * (roundQuotient a d * d) + d ∧ 2 * (roundQuotient a d * d) ≤ 2 * a + d := by
  have split : d * (a / d) + a % d = a := Nat.div_add_mod a d
  have below : a % d < d := Nat.mod_lt a pos
  have next : (a / d + 1) * d = d * (a / d) + d := by rw [Nat.add_mul, Nat.mul_comm]; simp
  simp only [roundQuotient]
  have comm : a / d * d = d * (a / d) := Nat.mul_comm _ _
  split
  · omega
  · split
    · omega
    · rcases Nat.mod_two_eq_zero_or_one (a / d) with even | odd
      · rw [even, Nat.add_zero]; omega
      · rw [odd]; omega

end OutlineCalc.Binary64
