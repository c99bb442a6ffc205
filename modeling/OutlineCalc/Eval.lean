import OutlineCalc.Builtin
import OutlineCalc.Expr
import OutlineCalc.Store

/-!
Evaluation of an expression over a store. Operands are evaluated from left to right before their
operator, and an assignment binds its name at once, so that what was bound before a fault stays
bound after it. Where the machine has no room left, the evaluation ends there.
-/

namespace OutlineCalc.Eval

/-- An evaluation: over a store it gives a value or a fault, and the store it leaves. -/
abbrev Step (α : Type) := EStateM Fault Store α

/-- What does not look at the store. -/
def lift {α : Type} : Except Fault α → Step α
  | .ok value => pure value
  | .error fault => throw fault

/-- Goes on if there is room. -/
def room (isFull : Bool) : Step Unit := if isFull then throw .tooDeep else pure ()

section
variable [Machine]

/-- The value of the first expression of a path, each of which is an operand of the next: first its
operands, and then what it makes of their values. -/
def node {α : Type} (path : List Expr) (operands : Step α) (last : α → Step Value) : Step Value := do
  room (Machine.entersTooDeep path)
  let values ← operands
  room (Machine.appliesTooDeep path)
  last values

mutual

/-- The value of an expression that is an operand of the first of the expressions `above`, each of which
is an operand of the next. -/
def value (above : List Expr) : Expr → Step Value
  | .number x => node (.number x :: above) (pure ()) fun _ => pure (.number x)
  | .text s => node (.text s :: above) (pure ()) fun _ => pure (.text s)
  | .name name => node (.name name :: above) (pure ()) fun _ => return (← get).get name
  | .assign name expr => node (.assign name expr :: above) (value (.assign name expr :: above) expr) fun value => do
    modify (·.set name value)
    return value
  | .unary op expr =>
    node (.unary op expr :: above) (value (.unary op expr :: above) expr) fun value => lift (Builtin.unary op value)
  | .binary op left right =>
    node (.binary op left right :: above)
      (do return (← value (.binary op left right :: above) left, ← value (.binary op left right :: above) right))
      fun values => lift (Builtin.binary op values.1 values.2)
  | .call name args =>
    node (.call name args :: above) (values (.call name args :: above) args) fun values => lift (Builtin.call name values)

/-- The values of some expressions, each an operand of the first of the expressions `above`. -/
def values (above : List Expr) : List Expr → Step (List Value)
  | [] => pure []
  | expr :: more => do return (← value above expr) :: (← values above more)

end

/-- The value of an expression; where there is none, zero. -/
def expr : Option Expr → Step Value
  | none => pure (.number 0)
  | some e => value [] e

end

/-- A value, or zero and the fault in its place. -/
structure Result where
  value : Value
  fault : Option Fault
deriving Repr

/-- Evaluates an expression; a fault gives zero and is kept. -/
def run [Machine] (tree : Option Expr) (store : Store) : Result × Store :=
  match expr tree store with
  | .ok value store => (⟨value, none⟩, store)
  | .error fault store => (⟨.number 0, some fault⟩, store)

end OutlineCalc.Eval
