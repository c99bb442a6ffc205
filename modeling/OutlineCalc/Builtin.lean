import OutlineCalc.Machine
import OutlineCalc.Value

/-!
The operators and the functions that every line can use, on values. What the trigonometric functions
give is up to the machine.
-/

namespace OutlineCalc

/-- What can go wrong in evaluating an expression. -/
inductive Fault where
  | textOperand (op : String) (content : String)
  | unknownOp (op : String)
  | unknownUnaryOp (op : String)
  | unknownFunction (name : String)
  | argumentCount (name : String) (takes given : Nat)
  | tooDeep
deriving DecidableEq, Repr

/-- The wording of a fault. -/
def Fault.message : Fault → String
  | textOperand op content => "unsupported operand for " ++ op ++ ": '" ++ content ++ "'"
  | unknownOp op => "unknown op: " ++ op
  | unknownUnaryOp op => "unknown unary op: " ++ op
  | unknownFunction name => "unknown function '" ++ name ++ "'"
  | argumentCount name takes given =>
    name ++ "() takes " ++ takes.repr ++ " argument(s) (" ++ given.repr ++ " given)"
  | tooDeep => "expression too deeply nested"

namespace Builtin

/-- The number that a value counts as for an operator or function, which takes no text. -/
def operand (op : String) : Value → Except Fault Float
  | .number x => .ok x
  | .unset => .ok 0
  | .text s => .error (.textOperand op s)

/-- Negation; the value of an unbound name stays what it is. -/
def negation : Value → Value
  | .number x => .number (-x)
  | v => v

/-- A unary operator on a value. -/
def unary (op : String) (v : Value) : Except Fault Value :=
  match operand op v with
  | .error fault => .error fault
  | .ok _ => if op = "-" then .ok (negation v) else .error (.unknownUnaryOp op)

/-- The arithmetic operator of a sign. -/
def arithmetic? (op : String) : Option (Float → Float → Float) :=
  if op = "+" then some (· + ·)
  else if op = "-" then some (· - ·)
  else if op = "*" then some (· * ·)
  else if op = "/" then some (· / ·)
  else none

/-- A binary operator on numbers; the left operand is looked at first, and both before the
operator. -/
def onNumbers (op : String) (left right : Value) : Except Fault Value := do
  let x ← operand op left
  let y ← operand op right
  match arithmetic? op with
  | some f => .ok (.number (f x y))
  | none => .error (.unknownOp op)

/-- A binary operator on values: two texts are joined by a plus sign, all else is arithmetic. -/
def binary (op : String) (left right : Value) : Except Fault Value :=
  match left, right with
  | .text s, .text t => if op = "+" then .ok (.text (s ++ t)) else onNumbers op left right
  | _, _ => onNumbers op left right

/-- The first of two numbers unless the second is greater. -/
def larger (x y : Float) : Float := if x < y then y else x

/-- The first of two numbers unless the second is less. -/
def smaller (x y : Float) : Float := if y < x then y else x

/-- A number moved up to a lower bound and then down to an upper one. -/
def clamp (x low high : Float) : Float := smaller (larger x low) high

/-- A function of one or of three numbers. -/
inductive Function where
  | one (f : Float → Float)
  | three (f : Float → Float → Float → Float)

/-- How many arguments a function takes. -/
def Function.arity : Function → Nat
  | one _ => 1
  | three _ => 3

/-- The functions by name. -/
def function? [Machine] (name : String) : Option Function :=
  match name with
  | "sin" => some (.one Machine.sin)
  | "cos" => some (.one Machine.cos)
  | "tan" => some (.one Machine.tan)
  | "asin" => some (.one Machine.asin)
  | "acos" => some (.one Machine.acos)
  | "atan" => some (.one Machine.atan)
  | "abs" => some (.one Float.abs)
  | "clamp" => some (.three clamp)
  | _ => none

/-- A function on numbers, if their number is right. -/
def Function.result? : Function → List Float → Option Float
  | one f, [x] => some (f x)
  | three f, [x, y, z] => some (f x y z)
  | _, _ => none

/-- The value of a call: the name is looked at first, then the number of arguments, then each
argument. -/
def call [Machine] (name : String) (args : List Value) : Except Fault Value :=
  match function? name with
  | none => .error (.unknownFunction name)
  | some function =>
    if args.length = function.arity then do
      let numbers ← args.mapM (operand (name ++ "()"))
      match function.result? numbers with
      | some result => .ok (.number result)
      | none => .error (.argumentCount name function.arity args.length)
    else .error (.argumentCount name function.arity args.length)

/-- A function applies to as many numbers as it takes. -/
theorem Function.isSome_result? (function : Function) (numbers : List Float) :
    (function.result? numbers).isSome = decide (numbers.length = function.arity) := by
  match function, numbers with
  | one f, [] | one f, [_] | one f, _ :: _ :: _ => simp [result?, arity]
  | three f, [] | three f, [_] | three f, [_, _] | three f, [_, _, _] | three f, _ :: _ :: _ :: _ :: _ =>
    simp [result?, arity]

end Builtin

end OutlineCalc
