import OutlineCalc.Binary64

/-!
Trigonometric functions, correctly rounded: each gives the double nearest to the exact value. A
function is enclosed between two fractions computed in fixed point; as soon as both ends have
the same nearest double, that is the answer, and until then the precision is raised. No value of
these functions at a double other than zero (one for `acos`) lies half-way between two doubles,
so the ends come to agree.

Fixed-point numbers are whole numbers of units of `2 ^ -p` for a number `p` of fraction bits.
-/

namespace OutlineCalc.Trig

open Binary64 (magnitude unitsPerOne nearestBits isNegative isFinite isNaN withSign)

/-- A value that is no number. -/
def undefined : Float := Float.ofBits 0x7ff8000000000000

/-- Two fractions, as numerators over denominators, with a value between them. -/
structure Enclosure where
  low : Nat × Nat
  high : Nat × Nat

/-- The double nearest to the value enclosed ever more narrowly, by the first precision that
settles it. -/
def settle (enclose : Nat → Enclosure) : List Nat → Float
  | [] => undefined
  | p :: more =>
    let bounds := enclose p
    let bits := nearestBits bounds.low.1 bounds.low.2
    if bits = nearestBits bounds.high.1 bounds.high.2 then Float.ofBits (UInt64.ofNat bits)
    else settle enclose more

/-- The precisions tried, as numbers of fraction bits. -/
def precisions : List Nat := [192, 384, 768, 1536]

/-- How far a fixed-point result can be from the exact value, in units. -/
def slack : Nat := Nat.pow 2 16

/-- The size of a double in fixed point. -/
def fixed (p : Nat) (x : Float) : Nat := magnitude x * Nat.pow 2 p / unitsPerOne

/-- The fixed-point value `value`, give or take the slack. -/
def around (p : Nat) (value : Int) : Enclosure :=
  ⟨(value.natAbs - slack, Nat.pow 2 p), (value.natAbs + slack, Nat.pow 2 p)⟩

/-- The quotient of two fixed-point values, each give or take the slack. -/
def aroundQuotient (value divisor : Int) : Enclosure :=
  ⟨(value.natAbs - slack, divisor.natAbs + slack), (value.natAbs + slack, divisor.natAbs - slack)⟩

/-! ## Series -/

/-- Terms of alternating sign, from the term of index `k` on: each term is the one before it
times `square`, divided by the next two indices. -/
def sineTerms (p square : Nat) : (steps k term : Nat) → Int
  | 0, _, _ => 0
  | steps + 1, k, term =>
    if term = 0 then 0
    else term - sineTerms p square steps (k + 2) (term * square / Nat.pow 2 p / ((k + 1) * (k + 2)))

/-- The sine of a fixed-point number. -/
def sineFixed (p r : Nat) : Int := sineTerms p (r * r / Nat.pow 2 p) p 1 r

/-- The cosine of a fixed-point number. -/
def cosineFixed (p r : Nat) : Int := sineTerms p (r * r / Nat.pow 2 p) p 0 (Nat.pow 2 p)

/-- Terms of alternating sign, from the odd index `n` on: powers, each divided by its index. -/
def arctanTerms (next : Nat → Nat) : (steps n power : Nat) → Int
  | 0, _, _ => 0
  | steps + 1, n, power =>
    if power = 0 then 0 else (power / n : Nat) - arctanTerms next steps (n + 2) (next power)

/-- The arc tangent of the reciprocal of a whole number. -/
def arctanReciprocal (p k : Nat) : Int := arctanTerms (· / (k * k)) p 1 (Nat.pow 2 p / k)

/-- The circle number, from the arc tangents of 1/5 and 1/239. -/
def pi (p : Nat) : Nat := (16 * arctanReciprocal p 5 - 4 * arctanReciprocal p 239).toNat

/-- The arc tangent of a fraction of at most one half. -/
def arctanSmall (p a b : Nat) : Int :=
  let y := a * Nat.pow 2 p / b
  arctanTerms (· * (y * y / Nat.pow 2 p) / Nat.pow 2 p) p 1 y

/-- The arc tangent of a fraction. -/
def arctanFixed (p a b : Nat) : Int :=
  if 2 * a ≤ b then arctanSmall p a b
  else if a ≤ b then (pi p / 4 : Nat) - arctanSmall p (b - a) (a + b)
  else if a ≤ 2 * b then (pi p / 4 : Nat) + arctanSmall p (a - b) (a + b)
  else (pi p / 2 : Nat) - arctanSmall p b a

/-- The whole square root, within a number of steps that each settle one bit. -/
def sqrtWithin : (steps n : Nat) → Nat
  | 0, _ => 0
  | steps + 1, n =>
    if n = 0 then 0
    else
      let root := 2 * sqrtWithin steps (n / 4)
      if (root + 1) * (root + 1) ≤ n then root + 1 else root

/-- The whole square root. -/
def sqrtFloor (n : Nat) : Nat := sqrtWithin (n.log2 / 2 + 1) n

/-- The arc sine of a double between zero and one: the arc tangent of its quotient by the
cosine that belongs to it. -/
def arcsinFixed (p : Nat) (x : Float) : Int :=
  let size := magnitude x
  arctanFixed p (size * Nat.pow 2 p) (sqrtFloor ((unitsPerOne * unitsPerOne - size * size) * Nat.pow 4 p))

/-! ## Reduction to the first half quadrant -/

/-- The sine and the cosine of the size of a double. The size is reduced by the nearest
multiple of a quarter turn, which is known to as many further bits as that multiple has. -/
def sineCosine (p : Nat) (x : Float) : Int × Int :=
  let extra := (magnitude x).log2 - 1074 + 32
  let quarter := pi (p + extra) / 2
  let size := fixed (p + extra) x
  let turns := (2 * size + quarter) / (2 * quarter)
  let rest : Int := size - turns * quarter
  let r := rest.natAbs / Nat.pow 2 extra
  let s := if rest < 0 then -sineFixed p r else sineFixed p r
  let c := cosineFixed p r
  match turns % 4 with
  | 0 => (s, c)
  | 1 => (c, -s)
  | 2 => (-s, -c)
  | _ => (-c, s)

/-- Whether a double is so small that its sine, tangent, arc sine and arc tangent round to the
double itself and its cosine to one. -/
def isTiny (x : Float) : Bool := magnitude x < Nat.pow 2 (1074 - 27)

/-- Whether a double is at most one in size. -/
def isAtMostOne (x : Float) : Bool := isFinite x && magnitude x ≤ unitsPerOne

/-- Whether the sign of a fixed-point function is to be turned over for a negative argument. -/
def signed (value : Int) (x : Float) : Bool := decide (value < 0) != isNegative x

/-! ## The functions -/

/-- The sine. -/
def sin (x : Float) : Float :=
  if !isFinite x then undefined
  else if isTiny x then x
  else withSign (signed (sineCosine 192 x).1 x) (settle (fun p => around p (sineCosine p x).1) precisions)

/-- The cosine. -/
def cos (x : Float) : Float :=
  if !isFinite x then undefined
  else if isTiny x then 1
  else withSign ((sineCosine 192 x).2 < 0) (settle (fun p => around p (sineCosine p x).2) precisions)

/-- The tangent. -/
def tan (x : Float) : Float :=
  if !isFinite x then undefined
  else if isTiny x then x
  else
    let (s, c) := sineCosine 192 x
    let ratio := fun p => let (s, c) := sineCosine p x; aroundQuotient s c
    withSign (signed (s * c) x) (settle ratio precisions)

/-- The arc sine of a number between minus one and one. -/
def asin (x : Float) : Float :=
  if !isAtMostOne x then undefined
  else if isTiny x then x
  else withSign (isNegative x) (settle (fun p => around p (arcsinFixed p x)) precisions)

/-- The arc cosine of a number between minus one and one: a quarter turn less its arc sine. -/
def acos (x : Float) : Float :=
  if !isAtMostOne x then undefined
  else if magnitude x = unitsPerOne && !isNegative x then 0
  else
    let angle := fun p => if isNegative x then (pi p / 2 : Nat) + arcsinFixed p x
      else (pi p / 2 : Nat) - arcsinFixed p x
    settle (fun p => around p (angle p)) precisions

/-- The arc tangent. -/
def atan (x : Float) : Float :=
  if isNaN x then undefined
  else if isTiny x then x
  else
    let angle := fun p => if isFinite x then arctanFixed p (magnitude x) unitsPerOne else (pi p / 2 : Nat)
    withSign (isNegative x) (settle (fun p => around p (angle p)) precisions)

end OutlineCalc.Trig
