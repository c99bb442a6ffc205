import OutlineCalc.Amount
import OutlineCalc.Outline

/-!
The rows in which an outline is shown.
-/

namespace OutlineCalc

/-- A row as it is shown: its number, its text, its result and what is wrong with it. -/
structure Row where
  index : Int
  text : String
  result : String
  error : Option String
deriving DecidableEq, Repr

namespace Row

/-- Why an outline has no rows: a result cannot be shown, or lines stand below one another too deep. -/
inductive Fault where
  | places (fault : Amount.PlacesFault)
  | tooDeep
deriving DecidableEq, Repr

/-- The wording of why there are no rows. -/
def Fault.message : Fault → String
  | places fault => fault.message
  | tooDeep => "maximum recursion depth exceeded"

/-- What a row reports as its error; an empty report counts as none. -/
def report (row : Row) : String := row.error.getD ""

/-- The total as a line, unless there is exactly one line on the top level, which shows it
already. -/
def totalOf (outline : Outline) : List Line :=
  if (outline.children 0).length = 1 then [] else outline.linesAt [0]

section
variable [Machine]

/-- The result of a line as a store shows it, with the currency mark if the line is marked. -/
def resultText (line : Line) (store : Store) : Except Fault String := do
  let text ← (store.format line.result).mapError .places
  return if line.marked then "$" ++ text else text

/-- A line as it is shown. -/
def ofLine (store : Store) (line : Line) : Except Fault Row := do
  return ⟨line.row, line.source, ← resultText line store, line.fault.map LineFault.message⟩

/-- The lines that are shown above the total, as far as a walk comes to them. -/
def linesOf (outline : Outline) : List Line := (outline.linesAt (outline.walkFrom 0).places).filter (!·.isRoot)

/-- The rows of an outline, each line before those below it and the total last. -/
def ofOutline (outline : Outline) (store : Store) : Except Fault (List Row) := do
  let rows ← (linesOf outline).mapM (ofLine store)
  if (outline.walkFrom 0).isCutOff then throw .tooDeep
  let total ← (totalOf outline).mapM (ofLine store)
  return rows ++ total.map ({ · with error := none })

end

end Row

end OutlineCalc
