import OutlineCalc.Binary64

/-!
The shortest decimal text that reads back as the same double, of several the nearest one. It is
positional from `10 ^ -4` up to `10 ^ 16` and in scientific notation beyond, and always shows that
it is no whole number by a point or an exponent.
-/

namespace OutlineCalc.Shortest

open Binary64 (magnitude unitsPerOne nearestBits roundQuotient isNegative isFinite isNaN)

/-- The quotient `a / d` of a number by a power of ten, which may be a negative power. -/
def scaledDown (a d : Nat) (exponent : Int) : Nat × Nat :=
  (a * Nat.pow 10 (-exponent).toNat, d * Nat.pow 10 exponent.toNat)

/-- The exponent of the first digit of a size in units, searched for downwards. -/
def leadingExponent (units : Nat) : (steps : Nat) → Int → Int
  | 0, exponent => exponent
  | steps + 1, exponent =>
    let (a, d) := scaledDown units unitsPerOne exponent
    if d ≤ a then exponent else leadingExponent units steps (exponent - 1)

/-- The whole number of units of `10 ^ exponent` that reads back as the given bits, of two the
nearer one. -/
def onGrid? (units bits : Nat) (exponent : Int) : Option Nat :=
  let (a, d) := scaledDown units unitsPerOne exponent
  let near := roundQuotient a d
  let other := if near * d ≤ a then near + 1 else near - 1
  [near, other].find? fun n =>
    let (num, den) := scaledDown n 1 (-exponent)
    nearestBits num den = bits

/-- The digits and the exponent of the last one, from the coarsest grid that reads back. -/
def digitsFrom (units bits : Nat) : (steps : Nat) → Int → Nat × Int
  | 0, exponent => (roundQuotient units unitsPerOne, exponent)
  | steps + 1, exponent =>
    match onGrid? units bits exponent with
    | some n => (n, exponent)
    | none => digitsFrom units bits steps (exponent - 1)

/-- Digits with an exponent as they are written. -/
def written (digits : List Char) (last : Int) : List Char :=
  let first : Int := last + digits.length - 1
  if -4 ≤ first ∧ first < 16 then
    if first < 0 then ['0', '.'] ++ List.replicate (-first - 1).toNat '0' ++ digits
    else
      let whole := digits.take (first.toNat + 1)
      let fraction := digits.drop (first.toNat + 1)
      whole ++ List.replicate (first.toNat + 1 - whole.length) '0' ++
        '.' :: (if fraction.isEmpty then ['0'] else fraction)
  else
    let fraction := digits.drop 1
    let exponent := Nat.toDigits 10 first.natAbs
    digits.take 1 ++ (if fraction.isEmpty then [] else '.' :: fraction) ++ ['e', if first < 0 then '-' else '+'] ++
      (if exponent.length = 1 then '0' :: exponent else exponent)

/-- A double as its shortest text. -/
def text (x : Float) : String :=
  if isNaN x then "nan"
  else
    let sign := if isNegative x then "-" else ""
    if !isFinite x then sign ++ "inf"
    else if magnitude x = 0 then sign ++ "0.0"
    else
      let units := magnitude x
      let bits := x.toBits.toNat % Nat.pow 2 63
      let (n, last) := digitsFrom units bits 17 (leadingExponent units 640 309)
      let digits := Nat.toDigits 10 n
      let kept := (digits.reverse.dropWhile (· == '0')).reverse
      sign ++ String.ofList (written kept (last + (digits.length - kept.length)))

end OutlineCalc.Shortest
