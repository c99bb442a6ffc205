import OutlineCalc.Machine

/-!
What is read of some tokens: by a rule of the grammar, as far as the machine has room for it, and as the
expression of a line of free text.
-/

namespace OutlineCalc.Parse

/-- What can be wrong with the nesting of a line. -/
inductive Fault where
  | tooDeep
deriving DecidableEq, Repr

/-- The wording of a fault. -/
def Fault.message : Fault → String
  | tooDeep => "expression too deeply nested"

/-- The node of an outcome, if there is one. -/
def Outcome.node? {α : Type} : Outcome α → Except Fault (Option α)
  | tooDeep => .error .tooDeep
  | absent => .ok none
  | found node _ => .ok (some node)

/-- Whether nothing of the line is left. -/
def AtEnd : List Token → Prop
  | [] => True
  | token :: _ => token = .endOfLine

instance : (tokens : List Token) → Decidable (AtEnd tokens)
  | [] => .isTrue trivial
  | token :: _ => inferInstanceAs (Decidable (token = .endOfLine))

section
variable [Machine]

/-- What a rule reads from the start of some tokens, below some calls. No operand is nested deeper than
there are tokens. -/
def Rule.read (calls : Nat) (rule : Rule) (tokens : List Token) : Outcome Expr :=
  if Machine.readsTooDeep calls rule tokens then .tooDeep else rule.within (tokens.length + 1) tokens

/-- What the rule of arguments reads from the start of some tokens, below some calls. -/
def arguments (calls : Nat) (tokens : List Token) : Outcome (List Expr) :=
  argumentsOf (Rule.expression.read (calls + 1)) tokens

/-- The expression that some tokens start with, whatever follows it. -/
def leading (calls : Nat) (tokens : List Token) : Except Fault (Option Expr) :=
  (Rule.expression.read calls tokens).node?

/-- The expression from the earliest place on whose expression runs up to the end of the line. A name
counts only where the line starts. -/
def trailing (atStart : Bool) : List Token → Except Fault (Option Expr)
  | [] | [.endOfLine] => .ok none
  | token :: rest =>
    match Rule.expression.read 2 (token :: rest) with
    | .tooDeep => .error .tooDeep
    | .absent => trailing false rest
    | .found node left =>
      if AtEnd left then .ok (if atStart || !node.isName then some node else none)
      else trailing false rest

/-- The expression of a line of free text: the one that runs up to the end of the line from the
earliest place, so that words in front of it are passed over. If that is only a word at the end
of the line, or there is none, the expression that the line starts with is taken, which is read
with one call more above it. -/
def line (tokens : List Token) : Except Fault (Option Expr) :=
  match trailing true tokens with
  | .error fault => .error fault
  | .ok (some node) => .ok (some node)
  | .ok none => leading 3 tokens

end

end OutlineCalc.Parse
