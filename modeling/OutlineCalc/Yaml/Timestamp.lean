import OutlineCalc.Yaml.Fault

/-!
Dates, and dates with a time of day and perhaps an offset from universal time.
-/

namespace OutlineCalc.Yaml

/-- A time of day, to the second. -/
structure TimeOfDay where
  hour : Nat
  minute : Nat
  second : Nat
deriving DecidableEq, Repr

/-- A date as it is written, with the time of day and the offset in minutes if there are any. -/
structure Timestamp where
  year : Nat
  month : Nat
  day : Nat
  time : Option TimeOfDay := none
  offset : Option Int := none
deriving DecidableEq, Repr

namespace Timestamp

/-! ## Reading -/

/-- What reads a part of a timestamp off the start of a text. -/
abbrev Reading (α : Type) := StateT (List Char) Option α

/-- The number that the next decimal digits stand for, at least `least` of them and at most `most`. -/
def number (least most : Nat) : Reading Nat := do
  let digits := ((← get).take most).takeWhile Char.isDigit
  guard (least ≤ digits.length)
  modify (·.drop digits.length)
  return digits.foldl (fun total c => 10 * total + (c.toNat - '0'.toNat)) 0

/-- Passes over a character if it comes next. -/
def accept (c : Char) : Reading Bool := do
  if (← get).head? = some c then modify List.tail; return true else return false

/-- Passes over a character that has to come next. -/
def expect (c : Char) : Reading Unit := do guard (← accept c)

/-- Passes over spaces and tabs and says whether there were any. -/
def gap : Reading Bool := do
  let rest := (← get).dropWhile fun c => c == ' ' || c == '\t'
  let any := rest.length < (← get).length
  set rest
  return any

/-- Whether nothing is left but perhaps one line break. -/
def finished : Reading Bool := return (← get).isEmpty || (← get) == ['\n']

/-- A time of day with two digits for all but the hour; a fraction of a second is passed over. -/
def timeOfDay : Reading TimeOfDay := do
  let hour ← number 1 2
  expect ':'
  let minute ← number 2 2
  expect ':'
  let second ← number 2 2
  if ← accept '.' then modify (·.dropWhile Char.isDigit)
  return ⟨hour, minute, second⟩

/-- An offset in minutes. -/
def offsetMinutes : Reading Int := do
  if ← accept 'Z' then return 0
  let behind ← accept '-'
  unless behind do expect '+'
  let hours ← number 1 2
  let minutes ← if ← accept ':' then number 2 2 else pure 0
  let total : Int := 60 * hours + minutes
  return if behind then -total else total

/-- A whole timestamp. -/
def whole : Reading Timestamp := do
  let year ← number 4 4
  expect '-'
  let month ← number 1 2
  expect '-'
  let day ← number 1 2
  if ← finished then return { year, month, day }
  unless ← accept 'T' do
    unless ← accept 't' do guard (← gap)
  let time ← timeOfDay
  if ← finished then return { year, month, day, time }
  discard gap
  let offset ← offsetMinutes
  guard (← finished)
  return { year, month, day, time, offset }

/-- The timestamp that a text is. -/
def read? (text : List Char) : Option Timestamp := whole.run' text

/-! ## Checking -/

/-- Whether a year has a day more than others. -/
def isLeap (year : Nat) : Bool := year % 4 = 0 && (year % 100 ≠ 0 || year % 400 = 0)

/-- How many days a month has. -/
def daysIn (year month : Nat) : Nat :=
  if month = 2 then (if isLeap year then 29 else 28)
  else if [4, 6, 9, 11].contains month then 30
  else 31

/-- What is wrong with a timestamp, first its offset, then its parts from the largest on. -/
def fault? (t : Timestamp) : Option DateFault :=
  let time := t.time.getD ⟨0, 0, 0⟩
  if 1440 ≤ (t.offset.getD 0).natAbs then some (.offset (t.offset.getD 0))
  else if t.year = 0 then some .year
  else if t.month = 0 || 12 < t.month then some .month
  else if t.day = 0 || daysIn t.year t.month < t.day then some .day
  else if 23 < time.hour then some .hour
  else if 59 < time.minute then some .minute
  else if 59 < time.second then some .second
  else none

end Timestamp

end OutlineCalc.Yaml
