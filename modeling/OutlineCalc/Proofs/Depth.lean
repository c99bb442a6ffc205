import OutlineCalc.Reading

/-!
How deep a line is nested: only a minus sign or an opening parenthesis takes an operand one level
down, so with more levels than there are such tokens no rule is too deep. What is read then fails for
the want of room alone.
-/

namespace OutlineCalc.Grammar
open OutlineCalc.Parse

/-- Whether a token takes what follows it one level down. -/
def nests : Token → Bool
  | .mark .minus | .mark .leftParen => true
  | _ => false

/-- Whether an outcome is not too deep, and leaves an end of the tokens if any. -/
def Ends {α : Type} (tokens : List Token) : Outcome α → Prop
  | .tooDeep => False
  | .absent => True
  | .found _ rest => rest <:+ tokens

/-- Whether all tokens with fewer than `bound` that nest are read without being too deep. -/
def Shallow {α : Type} (read : List Token → Outcome α) (bound : Nat) : Prop :=
  ∀ tokens, tokens.countP nests < bound → Ends tokens (read tokens)

private theorem Ends.of_suffix {α : Type} {tokens rest : List Token} {outcome : Outcome α} (suffix : rest <:+ tokens)
    (ends : Ends rest outcome) : Ends tokens outcome := by
  cases outcome with
  | tooDeep => exact ends
  | absent => trivial
  | found node left => exact List.IsSuffix.trans ends suffix

private theorem Shallow.on_suffix {α : Type} {read : List Token → Outcome α} {bound : Nat} (shallow : Shallow read bound)
    {tokens rest : List Token} (suffix : rest <:+ tokens) (few : tokens.countP nests < bound) : Ends rest (read rest) :=
  shallow rest (Nat.lt_of_le_of_lt suffix.sublist.countP_le few)

/-- Behind a token that nests there is one less of them. -/
private theorem few_of_nests {bound : Nat} {token : Token} {rest : List Token} (deeper : nests token = true)
    (few : (token :: rest).countP nests < bound + 1) : rest.countP nests < bound := by
  rw [List.countP_cons_of_pos deeper] at few
  omega

section
variable {unary : List Token → Outcome Expr} {bound : Nat}

private theorem shallow_chainFrom {operand : List Token → Outcome Expr} (shallow : Shallow operand bound)
    (op? : Token → Option String) (steps : Nat) (left : Expr) :
    Shallow (chainFrom operand op? steps left) bound := by
  induction steps generalizing left with
  | zero => exact fun tokens _ => List.suffix_refl tokens
  | succ steps ih =>
    intro tokens few
    cases tokens with
    | nil => exact List.suffix_refl _
    | cons token rest =>
      have after := shallow.on_suffix (List.suffix_cons token rest) few
      simp only [chainFrom]
      cases op? token with
      | none => exact List.suffix_refl _
      | some op =>
        cases outcome : operand rest with
        | tooDeep =>
          rw [outcome] at after
          exact after
        | absent => exact List.suffix_refl _
        | found right left' =>
          rw [outcome] at after
          have inner := List.IsSuffix.trans after (List.suffix_cons token rest)
          exact ((ih _).on_suffix inner few).of_suffix inner

private theorem shallow_chain {operand : List Token → Outcome Expr} (shallow : Shallow operand bound)
    (op? : Token → Option String) : Shallow (chain operand op?) bound := by
  intro tokens few
  have start := shallow tokens few
  simp only [chain]
  cases outcome : operand tokens with
  | tooDeep =>
    rw [outcome] at start
    exact start
  | absent => trivial
  | found left rest =>
    rw [outcome] at start
    exact ((shallow_chainFrom shallow op? rest.length left).on_suffix start few).of_suffix start

private theorem shallow_term (shallow : Shallow unary bound) : Shallow (termOver unary) bound :=
  shallow_chain (shallow_chain shallow factorOp?) termOp?

private theorem shallow_expression (shallow : Shallow unary bound) : Shallow (expressionOver unary) bound := by
  intro tokens few
  have asTerm := shallow_term shallow tokens few
  simp only [expressionOver, statementOver]
  split
  · rename_i name m rest
    have inner : rest <:+ .name name :: .mark m :: rest := (List.suffix_cons _ _).trans (List.suffix_cons _ _)
    have value := (shallow_term shallow).on_suffix inner few
    split
    · cases outcome : termOver unary rest with
      | tooDeep =>
        rw [outcome] at value
        exact value
      | absent => exact asTerm
      | found node left =>
        rw [outcome] at value
        exact List.IsSuffix.trans value inner
    · exact asTerm
  · exact asTerm

private theorem shallow_argumentsFrom {expression : List Token → Outcome Expr} (shallow : Shallow expression bound)
    (steps : Nat) (args : List Expr) : Shallow (argumentsFrom expression steps args) bound := by
  induction steps generalizing args with
  | zero => exact fun tokens _ => List.suffix_refl tokens
  | succ steps ih =>
    intro tokens few
    unfold argumentsFrom
    split
    · rename_i rest same
      obtain rfl := Nat.succ.inj same
      have after := shallow.on_suffix (List.suffix_cons _ rest) few
      cases outcome : expression rest with
      | tooDeep =>
        rw [outcome] at after
        exact after
      | absent => trivial
      | found arg left =>
        rw [outcome] at after
        have inner := List.IsSuffix.trans after (List.suffix_cons (.mark .comma) rest)
        exact ((ih _).on_suffix inner few).of_suffix inner
    · exact List.suffix_refl _

private theorem shallow_arguments {expression : List Token → Outcome Expr} (shallow : Shallow expression bound) :
    Shallow (argumentsOf expression) bound := by
  intro tokens few
  have start := shallow tokens few
  simp only [argumentsOf]
  cases outcome : expression tokens with
  | tooDeep =>
    rw [outcome] at start
    exact start
  | absent => trivial
  | found first rest =>
    rw [outcome] at start
    exact ((shallow_argumentsFrom shallow rest.length [first]).on_suffix start few).of_suffix start

private theorem shallow_call (shallow : Shallow unary bound) : Shallow (callOver unary) (bound + 1) := by
  intro tokens few
  simp only [callOver]
  split
  · exact ((List.suffix_cons _ _).trans (List.suffix_cons _ _)).trans (List.suffix_cons _ _)
  · rename_i name rest _
    have inner : rest <:+ .name name :: .mark .leftParen :: rest := (List.suffix_cons _ _).trans (List.suffix_cons _ _)
    rw [List.countP_cons_of_neg (by simp [nests])] at few
    have arguments := shallow_arguments (shallow_expression shallow) rest (few_of_nests rfl few)
    split
    · rename_i outcome
      rw [outcome] at arguments
      exact arguments
    · rename_i outcome
      rw [outcome] at arguments
      exact ((List.suffix_cons _ _).trans arguments).trans inner
    · trivial
  · trivial

private theorem shallow_primary (shallow : Shallow unary bound) : Shallow (primaryOver unary) (bound + 1) := by
  intro tokens few
  have call := shallow_call shallow tokens few
  simp only [primaryOver]
  cases outcome : callOver unary tokens with
  | tooDeep =>
    rw [outcome] at call
    exact call
  | found node rest =>
    rw [outcome] at call
    exact call
  | absent =>
    simp only
    split
    · exact List.suffix_cons _ _
    · exact List.suffix_cons _ _
    · exact List.suffix_cons _ _
    · rename_i rest
      have inner := shallow_expression shallow rest (few_of_nests rfl few)
      split
      · rename_i outcome
        rw [outcome] at inner
        exact inner
      · rename_i outcome
        rw [outcome] at inner
        exact ((List.suffix_cons _ _).trans inner).trans (List.suffix_cons _ _)
      · trivial
    · trivial

private theorem shallow_unary (depth : Nat) : Shallow (unaryWithin depth) depth := by
  induction depth with
  | zero => exact fun tokens few => absurd few (Nat.not_lt_zero _)
  | succ depth ih =>
    intro tokens few
    unfold unaryWithin
    split
    · contradiction
    · rename_i rest same
      obtain rfl := Nat.succ.inj same
      have inner := ih rest (few_of_nests rfl few)
      cases outcome : unaryWithin depth rest with
      | tooDeep =>
        rw [outcome] at inner
        exact inner
      | absent => trivial
      | found operand left =>
        rw [outcome] at inner
        exact List.IsSuffix.trans inner (List.suffix_cons _ rest)
    · rename_i same _
      obtain rfl := Nat.succ.inj same
      exact shallow_primary ih _ few

private theorem Shallow.mono {read : List Token → Outcome Expr} (shallow : Shallow read (bound + 1)) : Shallow read bound :=
  fun tokens few => shallow tokens (Nat.lt_succ_of_lt few)

private theorem shallow_within (depth : Nat) (rule : Rule) : Shallow (rule.within depth) depth := by
  have unaries := shallow_unary depth
  cases rule with
  | expression | statement => exact shallow_expression unaries
  | term => exact shallow_term unaries
  | factor => exact shallow_chain unaries factorOp?
  | unary => exact unaries
  | primary => exact (shallow_primary unaries).mono
  | call => exact (shallow_call unaries).mono

/-- With more levels than there are minus signs and opening parentheses no rule is too deep. -/
theorem within_ne_tooDeep (rule : Rule) {tokens : List Token} {depth : Nat} (few : tokens.countP nests < depth) :
    rule.within depth tokens ≠ .tooDeep := by
  have ends := shallow_within depth rule tokens few
  intro deep
  rw [deep] at ends
  exact ends

end

variable [Machine]

/-- A rule is too deep only where the machine has no room for it. -/
theorem read_eq_tooDeep_iff {calls : Nat} {rule : Rule} {tokens : List Token} :
    rule.read calls tokens = .tooDeep ↔ Machine.readsTooDeep calls rule tokens = true := by
  have enough : tokens.countP nests < tokens.length + 1 := Nat.lt_succ_of_le List.countP_le_length
  rw [Rule.read]
  split
  · rename_i full
    exact iff_of_true rfl full
  · rename_i room
    exact iff_of_false (within_ne_tooDeep rule enough) room

/-- What one level of nesting is enough for is read on every machine. -/
theorem read_of_shallow {calls : Nat} {rule : Rule} {tokens : List Token} (shallow : (rule.within 2 tokens).isTooDeep = false) :
    rule.read calls tokens = rule.within (tokens.length + 1) tokens := by
  rw [Rule.read, Machine.reads_shallow calls rule tokens shallow]
  rfl

/-- A line that is all of an expression is that expression, unless the machine has no room for it. -/
theorem line_whole {tokens : List Token} {node : Expr}
    (whole : Rule.expression.within (tokens.length + 1) tokens = .found node [.endOfLine]) :
    line tokens = if Machine.readsTooDeep 2 .expression tokens then .error .tooDeep else .ok (some node) := by
  suffices found : trailing true tokens = if Machine.readsTooDeep 2 .expression tokens then .error .tooDeep else .ok (some node) by
    rw [line, found]
    by_cases full : Machine.readsTooDeep 2 .expression tokens = true
    · rw [if_pos full]
    · rw [if_neg full]
  unfold trailing
  split
  · contradiction
  · contradiction
  · rename_i token rest _
    rw [Rule.read, whole]
    by_cases full : Machine.readsTooDeep 2 .expression (token :: rest) = true
    · rw [if_pos full, if_pos full]
    · rw [if_neg full, if_neg full]
      rfl

end OutlineCalc.Grammar
