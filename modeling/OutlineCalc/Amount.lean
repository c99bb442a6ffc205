import OutlineCalc.Binary64
import OutlineCalc.Machine
import OutlineCalc.Store

/-!
Numbers as they are shown: rounded to a number of decimal places, half to even on the exact
binary value, in decimal digits. A result drops the zeros its fraction ends in and can have its
whole digits in groups of three; a percentage keeps its one place. Digits are counted in thirty-two
bits, so there are no more places than that.
-/

namespace OutlineCalc.Amount

open Binary64 (magnitude unitsPerOne roundQuotient isNegative isFinite isNaN)

/-- The size of a double in units of the last of `places` decimal places. -/
def scaled (places : Nat) (x : Float) : Nat := roundQuotient (magnitude x * Nat.pow 10 places) unitsPerOne

/-- The character of a digit. -/
def digit (d : Nat) : Char := Char.ofNat ('0'.toNat + d % 10)

/-- The digits of a number in exactly `places` decimal places. -/
def placeDigits : (places n : Nat) → List Char
  | 0, _ => []
  | places + 1, n => digit (n / Nat.pow 10 places) :: placeDigits places (n % Nat.pow 10 places)

/-- The digits of a whole number, without leading zeros. -/
def wholeDigits (n : Nat) : List Char := Nat.toDigits 10 n

/-- Digits with a comma in front of every group of three that others precede. -/
def grouped : List Char → List Char
  | [] => []
  | c :: cs => if cs.length % 3 = 0 && !cs.isEmpty then c :: ',' :: grouped cs else c :: grouped cs

/-- Digits without the zeros they end in. -/
def dropZeros (cs : List Char) : List Char := (cs.reverse.dropWhile (· == '0')).reverse

/-- A number of units of the last of `places` decimal places, as a result is shown. -/
def shown (group negative : Bool) (places units : Nat) : List Char :=
  let whole := wholeDigits (units / Nat.pow 10 places)
  let fraction := dropZeros (placeDigits places (units % Nat.pow 10 places))
  (if negative && units != 0 then ['-'] else []) ++ (if group then grouped whole else whole) ++
    (if fraction.isEmpty then [] else '.' :: fraction)

/-- A result as it is shown. -/
def text (group : Bool) (places : Nat) (x : Float) : String :=
  if isNaN x then "NaN"
  else if isFinite x then String.ofList (shown group (isNegative x) places (scaled places x))
  else if isNegative x then "-∞" else "∞"

/-- Why finite numbers cannot be shown to some number of places: it is negative, has more than
thirty-one bits, more than sixty-three, or more digits than a whole number is written in. -/
inductive PlacesFault where
  | negative | tooMany | farTooMany | unwritten
deriving DecidableEq, Repr

/-- The wording of why numbers cannot be shown. -/
def PlacesFault.message : PlacesFault → String
  | negative => "Format specifier missing precision"
  | tooMany => "precision too big"
  | farTooMany => "Too many decimal digits in format string"
  | unwritten => "Exceeds the limit (4300 digits) for integer string conversion; use " ++
      "sys.set_int_max_str_digits() to increase the limit"

/-- How many digits there are at most: as many as thirty-two bits with a sign can count. -/
def mostDigits : Nat := Nat.pow 2 31 - 1

/-- What is wrong with a number of places. -/
def placesFault? (places : Int) : Option PlacesFault :=
  if Nat.pow 10 4300 ≤ places.natAbs then some .unwritten
  else if places < 0 then some .negative
  else if places ≤ mostDigits then none
  else if places < Nat.pow 2 63 then some .tooMany
  else some .farTooMany

/-- How many digits in front of the point are counted with the places behind it: none of a number below
one, and one too many of a number so large that they are estimated. -/
def countedDigits (x : Float) : Nat :=
  let whole := magnitude x / unitsPerOne
  if whole = 0 then 0 else (wholeDigits whole).length + if Nat.pow 10 22 ≤ whole then 1 else 0

/-- A result as it is shown to a number of places, or why it cannot be. What is no finite number has no
places, and digits beyond count are up to the machine. -/
def textTo [Machine] (group : Bool) (places : Int) (x : Float) : Except PlacesFault String :=
  if isFinite x then
    match placesFault? places with
    | some fault => .error fault
    | none =>
      .ok (if places.toNat + countedDigits x ≤ mostDigits then text group places.toNat x
        else Machine.uncounted group places.toNat x)
  else .ok (text group 0 x)

/-- A percentage as it is shown: to one place, with the sign of a negative zero kept. -/
def percent (x : Float) : String :=
  if isNaN x then "nan"
  else
    let sign := if isNegative x then "-" else ""
    if isFinite x then
      let tenths := scaled 1 x
      sign ++ String.ofList (wholeDigits (tenths / 10) ++ ['.', digit tenths])
    else sign ++ "inf"

end OutlineCalc.Amount

/-- A result as a store shows it, or why it cannot. -/
def OutlineCalc.Store.format [OutlineCalc.Machine] (store : Store) (x : Float) :
    Except Amount.PlacesFault String :=
  Amount.textTo store.groupDigits store.fractionDigits x
