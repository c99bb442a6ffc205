import OutlineCalc.Eval
import OutlineCalc.Reading
import OutlineCalc.Scan

/-!
The calculation of one line: its tokens, the expression in them, and the value of that
expression over a store.
-/

namespace OutlineCalc

/-- The value of a line and what went wrong in each stage. -/
structure Calculation where
  value : Value
  evalFault : Option Fault
  parseFault : Option Parse.Fault
  scanFault : Option Scan.Fault
deriving Repr

namespace Calculation

variable [Machine]

/-- The expression of a line. -/
def tree (line : String) : Except Parse.Fault (Option Expr) := Parse.line (Scan.line line).tokens

/-- Calculates a line over a store. A line nested too deep has no expression, and so the value
zero. -/
def run (line : String) (store : Store) : Calculation × Store :=
  let scanned := Scan.line line
  match Parse.line scanned.tokens with
  | .error fault =>
    let (result, store) := Eval.run none store
    (⟨result.value, result.fault, some fault, scanned.fault⟩, store)
  | .ok tree =>
    let (result, store) := Eval.run tree store
    (⟨result.value, result.fault, none, scanned.fault⟩, store)

end Calculation

end OutlineCalc
