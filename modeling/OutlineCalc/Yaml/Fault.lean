import OutlineCalc.Printable

/-!
What can be wrong with a YAML text: it breaks the rules of the language, or one of its scalars has
no value of the type that its tag says.
-/

namespace OutlineCalc.Yaml

/-- What can be wrong with a date, its time of day and its offset from universal time. -/
inductive DateFault where
  | year | month | day | hour | minute | second
  | offset (minutes : Int)
deriving DecidableEq, Repr

/-- What can be wrong with a YAML text: it is not well formed, an escape names no code point or a
number far beyond them, a scalar is not what its tag says, a number has too many digits or parts, a
timestamp is written as a mapping, or nodes are nested too deep. -/
inductive Fault where
  | malformed
  | noCodePoint
  | farFromCodePoint
  | noDigit
  | notInteger (text : List CodePoint) (base : Nat)
  | tooManyDigits (count : Nat)
  | notNumber (text : List CodePoint)
  | tooManyParts
  | notBoolean (text : List CodePoint)
  | notTimestamp
  | timestampMapping
  | notDate (reason : DateFault)
  | tooDeep
deriving DecidableEq, Repr

/-- How many digits a whole number in decimal has at most. -/
def mostDigits : Nat := 4300

/-- A span of time as messages name it: its days and the seconds left over, without what is
zero. -/
def spanText (minutes : Int) : String :=
  let days := Int.fdiv minutes 1440
  let seconds := 60 * Int.fmod minutes 1440
  let parts := (if days = 0 then [] else ["days=" ++ days.repr]) ++
    (if seconds = 0 then [] else ["seconds=" ++ seconds.repr])
  "datetime.timedelta(" ++ ", ".intercalate parts ++ ")"

/-- The wording of what is wrong with a date. -/
def DateFault.message : DateFault → String
  | year => "year 0 is out of range"
  | month => "month must be in 1..12"
  | day => "day is out of range for month"
  | hour => "hour must be in 0..23"
  | minute => "minute must be in 0..59"
  | second => "second must be in 0..59"
  | offset minutes => "offset must be a timedelta strictly between -timedelta(hours=24) and " ++
      "timedelta(hours=24), not " ++ spanText minutes ++ "."

/-- The wording of what is wrong with a text. A text that is no whole number is shown up to two
hundred characters. -/
def Fault.message : Fault → String
  | malformed => "invalid YAML"
  | noCodePoint => "chr() arg not in range(0x110000)"
  | farFromCodePoint => "Python int too large to convert to C int"
  | noDigit => "string index out of range"
  | notInteger text base => "invalid literal for int() with base " ++ base.repr ++ ": " ++
      String.ofList ((Printable.quotedPoints text).take 200)
  | tooManyDigits count => "Exceeds the limit (" ++ mostDigits.repr ++ " digits) for integer string conversion: " ++
      "value has " ++ count.repr ++ " digits; use sys.set_int_max_str_digits() to increase the limit"
  | notNumber text => "could not convert string to float: " ++ String.ofList (Printable.quotedPoints text)
  | tooManyParts => "int too large to convert to float"
  | notBoolean text => String.ofList (Printable.quotedPoints text)
  | notTimestamp => "'NoneType' object has no attribute 'groupdict'"
  | timestampMapping => "expected string or bytes-like object, got 'list'"
  | notDate reason => reason.message
  | tooDeep => "maximum recursion depth exceeded"

end OutlineCalc.Yaml
