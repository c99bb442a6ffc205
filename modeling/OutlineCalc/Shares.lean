import OutlineCalc.Document
import OutlineCalc.Newline
import OutlineCalc.Sheet

/-!
The report on a document: its table, and the share that each line on the top level has in the
total.
-/

namespace OutlineCalc.Shares

/-- The share of a result in a total, in percent; of a total of zero there are no shares. -/
def share (result total : Float) : Float := if total == 0 then 0 else 100 * result / total

/-- A text padded with spaces on the right. -/
def padRight (width : Nat) (cs : List Char) : List Char := cs ++ List.replicate (width - cs.length) ' '

/-- A text padded with spaces on the left. -/
def padLeft (width : Nat) (cs : List Char) : List Char := List.replicate (width - cs.length) ' ' ++ cs

/-- The report's line on what is wrong with a line. -/
def faultReport (line : Line) : Option String :=
  line.fault.map fun fault => "  row " ++ line.row.repr ++ ": " ++ fault.message

/-- The line above and below the report's title. -/
def rule : String := String.ofList (List.replicate 40 '=')

section
variable [Machine]

/-- The report's line on one line of the outline. -/
def lineReport (store : Store) (total : Float) (line : Line) : Except Row.Fault String := do
  let result ← (store.format line.result).mapError .places
  return String.ofList (padRight 20 (Blank.trim line.source.toList) ++ ' ' :: padLeft 10 result.toList ++
    ' ' :: padLeft 6 (Amount.percent (share line.result total)).toList ++ ['%'])

/-- The report on a document, whatever its line ends are, unless its outline has no rows. -/
def report (document : String) : Except Row.Fault String := do
  let (outline, store) := Document.build (Newline.unify document) {}
  let rows ← Row.ofOutline outline store
  let shares ← (outline.linesAt (outline.children 0)).mapM (lineReport store outline.total)
  let faults := (outline.linesAt (outline.walkFrom 0).places).filterMap faultReport
  let lines := [Sheet.table true rows, "", rule, "SHARE OF TOTAL", rule] ++ shares ++
    (if faults.isEmpty then [] else "" :: "Lines with errors:" :: faults)
  return String.join (lines.map (· ++ "\n"))

end

end OutlineCalc.Shares
