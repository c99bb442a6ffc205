import OutlineCalc.Expr
import OutlineCalc.Token

/-!
The grammar of a line, read from left to right with one alternative tried after the other:

    expression = statement
    statement  = NAME ("=" | ":") term | term
    term       = factor (("+" | "-") factor)*
    factor     = unary (("*" | "/") unary)*
    unary      = "-" unary | primary
    primary    = call | NUMBER | QUOTED | NAME | "(" expression ")"
    call       = NAME "(" [arguments] ")"
    arguments  = expression ("," expression)*

A rule takes the tokens from some place on and gives a node with the tokens it left, so a failed
alternative leaves no trace. Each minus sign, parenthesis and call in front of an operand takes the
operand one level down; a rule that has no level left for it is too deep, which is an outcome of its
own.
-/

namespace OutlineCalc.Parse

/-- How a rule ends: it was too deep, nothing of its kind stands there, or it read a node and left
some tokens. -/
inductive Outcome (α : Type) where
  | tooDeep
  | absent
  | found (node : α) (rest : List Token)
deriving Repr

/-- Whether a rule was too deep. -/
def Outcome.isTooDeep {α : Type} : Outcome α → Bool
  | tooDeep => true
  | absent | found _ _ => false

/-- The sign of addition or subtraction that a token is. -/
def termOp? : Token → Option String
  | .mark .plus => some "+"
  | .mark .minus => some "-"
  | _ => none

/-- The sign of multiplication or division that a token is. -/
def factorOp? : Token → Option String
  | .mark .star => some "*"
  | .mark .slash => some "/"
  | _ => none

/-- Whether a mark makes the name before it an assignment. -/
def Assigns (m : Mark) : Prop := m = .equal ∨ m = .colon

instance (m : Mark) : Decidable (Assigns m) := inferInstanceAs (Decidable (_ ∨ _))

/-- The operators and operands after a first operand, in at most `steps` steps; an operator that
no operand follows is left. -/
def chainFrom (operand : List Token → Outcome Expr) (op? : Token → Option String) :
    (steps : Nat) → Expr → List Token → Outcome Expr
  | steps + 1, left, token :: rest =>
    match op? token with
    | none => .found left (token :: rest)
    | some op =>
      match operand rest with
      | .tooDeep => .tooDeep
      | .absent => .found left (token :: rest)
      | .found right rest => chainFrom operand op? steps (.binary op left right) rest
  | _, left, rest => .found left rest

/-- Operands joined by operators, grouped from the left. Each step takes a token, so there are no
more steps than tokens. -/
def chain (operand : List Token → Outcome Expr) (op? : Token → Option String) (tokens : List Token) :
    Outcome Expr :=
  match operand tokens with
  | .tooDeep => .tooDeep
  | .absent => .absent
  | .found left rest => chainFrom operand op? rest.length left rest

/-! The rules above a unary operand, each over the rule `unary` for operands at one depth. -/

/-- Operands joined by signs of multiplication and division. -/
def factorOver (unary : List Token → Outcome Expr) : List Token → Outcome Expr :=
  chain unary factorOp?

/-- Factors joined by signs of addition and subtraction. -/
def termOver (unary : List Token → Outcome Expr) : List Token → Outcome Expr :=
  chain (factorOver unary) termOp?

/-- An assignment, or else a term. -/
def statementOver (unary : List Token → Outcome Expr) (tokens : List Token) : Outcome Expr :=
  match tokens with
  | .name name :: .mark m :: rest =>
    if Assigns m then
      match termOver unary rest with
      | .tooDeep => .tooDeep
      | .absent => termOver unary tokens
      | .found value rest => .found (.assign name value) rest
    else termOver unary tokens
  | _ => termOver unary tokens

/-- An expression is a statement. -/
def expressionOver (unary : List Token → Outcome Expr) : List Token → Outcome Expr :=
  statementOver unary

/-- The arguments after the first ones, in at most `steps` steps; a comma has to be followed by
an argument. -/
def argumentsFrom (expression : List Token → Outcome Expr) :
    (steps : Nat) → List Expr → List Token → Outcome (List Expr)
  | steps + 1, args, .mark .comma :: rest =>
    match expression rest with
    | .tooDeep => .tooDeep
    | .absent => .absent
    | .found arg rest => argumentsFrom expression steps (args ++ [arg]) rest
  | _, args, rest => .found args rest

/-- One or more expressions separated by commas. -/
def argumentsOf (expression : List Token → Outcome Expr) (tokens : List Token) : Outcome (List Expr) :=
  match expression tokens with
  | .tooDeep => .tooDeep
  | .absent => .absent
  | .found first rest => argumentsFrom expression rest.length [first] rest

/-- A name followed by arguments in parentheses. -/
def callOver (unary : List Token → Outcome Expr) : List Token → Outcome Expr
  | .name name :: .mark .leftParen :: .mark .rightParen :: rest => .found (.call name []) rest
  | .name name :: .mark .leftParen :: rest =>
    match argumentsOf (expressionOver unary) rest with
    | .tooDeep => .tooDeep
    | .found args (.mark .rightParen :: rest) => .found (.call name args) rest
    | _ => .absent
  | _ => .absent

/-- A call, or else a number, a quoted text, a name or an expression in parentheses; a name that
starts no call stands for itself. -/
def primaryOver (unary : List Token → Outcome Expr) (tokens : List Token) : Outcome Expr :=
  match callOver unary tokens with
  | .tooDeep => .tooDeep
  | .found node rest => .found node rest
  | .absent =>
    match tokens with
    | .number numeral :: rest => .found (.number numeral.value) rest
    | .quoted content :: rest => .found (.text content) rest
    | .name name :: rest => .found (.name name) rest
    | .mark .leftParen :: rest =>
      match expressionOver unary rest with
      | .tooDeep => .tooDeep
      | .found node (.mark .rightParen :: rest) => .found node rest
      | _ => .absent
    | _ => .absent

/-- An operand with any number of minus signs, nested at most `depth` deep. -/
def unaryWithin : (depth : Nat) → List Token → Outcome Expr
  | 0, _ => .tooDeep
  | depth + 1, .mark .minus :: rest =>
    match unaryWithin depth rest with
    | .found operand rest => .found (.unary "-" operand) rest
    | failed => failed
  | depth + 1, tokens => primaryOver (unaryWithin depth) tokens

/-- The rules of the grammar that give one expression. -/
inductive Rule where
  | expression | statement | term | factor | unary | primary | call
deriving DecidableEq, Repr

/-- A rule over operands nested at most `depth` deep. -/
def Rule.within (depth : Nat) : Rule → List Token → Outcome Expr
  | expression => expressionOver (unaryWithin depth)
  | statement => statementOver (unaryWithin depth)
  | term => termOver (unaryWithin depth)
  | factor => factorOver (unaryWithin depth)
  | unary => unaryWithin depth
  | primary => primaryOver (unaryWithin depth)
  | call => callOver (unaryWithin depth)

end OutlineCalc.Parse
