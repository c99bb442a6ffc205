import OutlineCalc.Binary64
import OutlineCalc.Blank
import OutlineCalc.Digit
import OutlineCalc.Lowercase
import OutlineCalc.Pieces
import OutlineCalc.Yaml.Base64
import OutlineCalc.Yaml.Cursor
import OutlineCalc.Yaml.Timestamp

/-!
The values that scalars have for their types: booleans, whole numbers, numbers with a point,
bytes and timestamps.
-/

namespace OutlineCalc.Yaml.Scalar

/-- The words for true and false, in lower case. -/
def truths : List (List CodePoint × Bool) :=
  [("yes", true), ("no", false), ("true", true), ("false", false), ("on", true), ("off", false)].map
    fun (word, b) => (CodePoint.ofText word, b)

/-- The boolean that a scalar is, in letters of either case. -/
def bool (text : List CodePoint) : Except Fault Bool :=
  let word := Lowercase.lower text
  match truths.lookup word with
  | some b => .ok b
  | none => .error (.notBoolean word)

/-! ## Characters of numbers -/

/-- A code point as numbers are read: digits of all scripts are alike, blanks beyond ASCII are
spaces, and nothing else beyond ASCII has a place in a number. -/
def plain : CodePoint → Char
  | .char c =>
    if c.toNat < 128 then c
    else if Blank.isBlank c then ' '
    else match Digit.value? c with
      | some digit => Nat.digitChar digit
      | none => '?'
  | .half _ => '?'

/-- Whether a character is one of the blanks that can stand around a number. -/
def isPadding (c : Char) : Bool := c == ' ' || ('\t' ≤ c && c ≤ '\r')

/-- A text as numbers are read, without the blanks around it. -/
def plainForm (text : List CodePoint) : List Char :=
  (((text.map plain).dropWhile isPadding).reverse.dropWhile isPadding).reverse

/-- Whether a number has a minus in front, and what is left of it without its sign. -/
def unsigned : List Char → Bool × List Char
  | '-' :: cs => (true, cs)
  | '+' :: cs => (false, cs)
  | cs => (false, cs)

/-- Whether a scalar has a minus in front, and what is left of it without its sign. -/
def withoutSign : List CodePoint → Bool × List CodePoint
  | .char '-' :: points => (true, points)
  | .char '+' :: points => (false, points)
  | points => (false, points)

/-- A scalar without underscores, which do not count in numbers; something has to be left. -/
def withoutUnderscores (text : List CodePoint) : Except Fault (List CodePoint) :=
  match text.filter (· != .char '_') with
  | [] => .error .noDigit
  | points => .ok points

/-- The parts of a number that count sixty each. -/
def sixtieths (text : List CodePoint) : List (List CodePoint) := Pieces.between (.char ':') text

/-! ## Whole numbers -/

/-- Digits without the mark of their base in front. -/
def withoutMark (base : Nat) (digits : List Char) : List Char :=
  let marks := if base = 2 then ['b', 'B'] else if base = 8 then ['o', 'O'] else if base = 16 then ['x', 'X'] else []
  match digits with
  | '0' :: c :: more => if marks.contains c then more else digits
  | _ => digits

/-- The whole number that a text is in a base, with blanks around it, a sign and the mark of the
base allowed. Decimal digits are counted before what follows them is looked at. -/
def integer (base : Nat) (text : List CodePoint) : Except Fault Int :=
  let (negative, digits) := unsigned (plainForm text)
  let digits := withoutMark base digits
  let run := digits.takeWhile fun c => isHex c && digitValue c < base
  if base = 10 ∧ mostDigits < run.length then .error (.tooManyDigits run.length)
  else if run.isEmpty || run.length < digits.length then .error (.notInteger text base)
  else
    let size : Int := digitsValue base run
    .ok (if negative then -size else size)

/-- The whole number that a scalar without sign and underscores is. -/
def unsignedInt (digits : List CodePoint) : Except Fault Int :=
  match digits with
  | [] => .error .noDigit
  | [.char '0'] => .ok 0
  | .char '0' :: .char 'b' :: more => integer 2 more
  | .char '0' :: .char 'x' :: more => integer 16 more
  | .char '0' :: _ => integer 8 digits
  | _ =>
    if digits.contains (.char ':') then do
      let parts ← (sixtieths digits).mapM (integer 10)
      return parts.foldl (fun total part => 60 * total + part) 0
    else integer 10 digits

/-- The whole number that a scalar is. -/
def int (text : List CodePoint) : Except Fault Int := do
  let (negative, digits) := withoutSign (← withoutUnderscores text)
  let size ← unsignedInt digits
  return if negative then -size else size

/-! ## Numbers with a point -/

/-- The double nearest to digits with a power of ten. Beyond four hundred digits in front of the
point it is infinite, and zero with as many zeros after it. -/
def nearestDecimal (digits : List Char) (exponent : Int) : Float :=
  let digits := digits.dropWhile (· == '0')
  let size : Int := digits.length + exponent
  if digits.isEmpty ∨ size < -400 then 0
  else if 400 < size then 1 / 0
  else Binary64.nearest (digitsValue 10 digits * Nat.pow 10 exponent.toNat) (Nat.pow 10 (-exponent).toNat)

/-- The exponent that a text is. -/
def exponent? : List Char → Option Int
  | [] => some 0
  | e :: cs =>
    let (negative, digits) := unsigned cs
    if (e == 'e' || e == 'E') && !digits.isEmpty && digits.all Char.isDigit then
      let size : Int := digitsValue 10 digits
      some (if negative then -size else size)
    else none

/-- The number that digits with a point and an exponent are. -/
def decimal? (text : List Char) : Option Float :=
  let whole := text.takeWhile Char.isDigit
  let rest := text.dropWhile Char.isDigit
  let (fraction, rest) := match rest with
    | '.' :: more => (more.takeWhile Char.isDigit, more.dropWhile Char.isDigit)
    | _ => ([], rest)
  if whole.isEmpty && fraction.isEmpty then none
  else (exponent? rest).map fun e => nearestDecimal (whole ++ fraction) (e - fraction.length)

/-- The number that a text is, with blanks around it and a sign allowed. -/
def number (text : List CodePoint) : Except Fault Float :=
  let (negative, size) := unsigned (plainForm text)
  let word := String.ofList (size.map Char.toLower)
  let value :=
    if word = "inf" ∨ word = "infinity" then some (1 / 0)
    else if word = "nan" then some (0 / 0)
    else decimal? size
  match value with
  | some x => .ok (Binary64.withSign negative x)
  | none => .error (.notNumber text)

/-- The sum of the parts of a number that count sixty each, given from the last on; `unit` is what
the first of them counts. A unit beyond all doubles is a fault even where its part is zero. -/
def sumOfSixtieths : (unit : Nat) → (total : Float) → List Float → Except Fault Float
  | _, total, [] => .ok total
  | unit, total, part :: parts =>
    let factor := Binary64.nearest unit 1
    if Binary64.isFinite factor then sumOfSixtieths (60 * unit) (total + part * factor) parts
    else .error .tooManyParts

/-- The number that a scalar without sign and underscores is. -/
def unsignedFloat (digits : List CodePoint) : Except Fault Float :=
  if digits = CodePoint.ofText ".inf" then .ok (1 / 0)
  else if digits = CodePoint.ofText ".nan" then .ok (0 / 0)
  else if digits.contains (.char ':') then do sumOfSixtieths 1 0 (← (sixtieths digits).mapM number).reverse
  else number digits

/-- The number that a scalar is, in letters of either case. -/
def float (text : List CodePoint) : Except Fault Float := do
  let (negative, digits) := withoutSign (Lowercase.lower (← withoutUnderscores text))
  let size ← unsignedFloat digits
  return Binary64.withSign negative size

/-! ## Bytes and timestamps -/

/-- The bytes that a scalar in ASCII stands for. -/
def bytes (text : List CodePoint) : Except Fault (List UInt8) :=
  match if text.all (·.code < 128) then Base64.bytes? (text.filterMap CodePoint.char?) else none with
  | some bytes => .ok bytes
  | none => .error .malformed

/-- The timestamp that a scalar is. -/
def timestamp (text : List CodePoint) : Except Fault Timestamp :=
  match (CodePoint.chars? text).bind Timestamp.read? with
  | none => .error .notTimestamp
  | some t =>
    match t.fault? with
    | some reason => .error (.notDate reason)
    | none => .ok t

end OutlineCalc.Yaml.Scalar
