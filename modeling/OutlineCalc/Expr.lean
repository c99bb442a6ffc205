/-!
Expressions of the calculator, as trees.
-/

namespace OutlineCalc

/-- An expression. Operators are kept as written; which of them have a meaning is up to
evaluation. -/
inductive Expr where
  | number (value : Float)
  | text (content : String)
  | name (name : String)
  | unary (op : String) (operand : Expr)
  | binary (op : String) (left right : Expr)
  | assign (name : String) (value : Expr)
  | call (name : String) (args : List Expr)
deriving Repr

/-- Whether an expression is nothing but a name. -/
def Expr.isName : Expr → Bool
  | name _ => true
  | _ => false

end OutlineCalc
