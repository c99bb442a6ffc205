import OutlineCalc.Machine.Usual
import OutlineCalc.Proofs.Postorder
import OutlineCalc.Proofs.WrittenNumber

/-!
Expressions as text. In full parentheses every expression can be written that is made of what can be
written by itself: its tokens do not run into each other, and reading them gives the expression back,
unless it is nested too deep to be read.
-/

namespace OutlineCalc

open Letter (isDigit startsName continuesName)

/-- Whether a text is a name: one of the characters that start names, and then such as go on with them. -/
def Letter.IsName (name : String) : Prop :=
  ∃ first more, name = String.ofList (first :: more) ∧ startsName first = true ∧ more.all continuesName = true

/-- Whether a node can be written: a number that some digits stand for, a text without a quote, a name that
is one, or the sign of an operation. -/
def Node.Writable : Node → Prop
  | .number x => ∃ n : Numeral, n.Written ∧ n.value = x
  | .text content => '\'' ∉ content.toList
  | .name n | .assign n | .call n _ => Letter.IsName n
  | .unary op => op = "-"
  | .binary op => op ∈ ["+", "-", "*", "/"]

/-- Whether all of an expression can be written. -/
def Expr.Writable (tree : Expr) : Prop := ∀ node ∈ tree.postorder, node.Writable

mutual

/-- How deep the operands of an expression in full parentheses are nested: a parenthesis, a minus sign and
a call each count one in front of them. -/
def Expr.nesting : Expr → Nat
  | .number _ | .text _ | .name _ => 0
  | .unary _ operand => operand.nesting + 2
  | .binary _ left right => max left.nesting right.nesting + 1
  | .assign _ value => value.nesting + 1
  | .call _ args => Expr.nestings args

/-- How deep the arguments of a call are nested in it. -/
def Expr.nestings : List Expr → Nat
  | [] => 0
  | e :: es => max (e.nesting + 1) (Expr.nestings es)

end

namespace Scan

/-! ## Texts that do not run into what follows -/

/-- Whether neither a name nor a number in front of a text goes on with it. -/
def Apart (rest : List Char) : Prop := ∀ c ∈ rest.head?, continuesName c = false ∧ isDigit c = false ∧ c ≠ '.'

theorem apart_of_isGap {c : Char} (gap : isGap c = true) (rest : List Char) : Apart (c :: rest) := by
  rintro _ ⟨⟩
  obtain ⟨noDigit, noName⟩ := goesOn_of_isGap gap
  refine ⟨noName, noDigit, ?_⟩
  rintro rfl
  exact absurd gap (by decide)

/-- Whether a text is read as some tokens and without a fault, in front of whatever stands apart from it. -/
def Yields (text : List Char) (tokens : List Token) : Prop :=
  ∀ rest, Apart rest → chars (text ++ rest) = ⟨tokens ++ (chars rest).tokens, (chars rest).fault⟩

variable {text text' : List Char} {tokens tokens' : List Token}

theorem yields_nil : Yields [] [] := fun _ _ => rfl

theorem yields_of_lexeme {token : Token} {lexeme : List Char} (here : ∀ rest, Apart rest → Lexeme token lexeme rest) :
    Yields lexeme [token] := by
  intro rest apart
  rw [(here rest apart).chars_eq]
  rfl

theorem Yields.mark (m : Mark) (yields : Yields text tokens) : Yields (m.char :: text) (.mark m :: tokens) := by
  intro rest apart
  rw [List.cons_append, chars_of_mark, yields rest apart]
  rfl

theorem Yields.space (yields : Yields text tokens) : Yields (' ' :: text) tokens := by
  intro rest apart
  rw [List.cons_append, chars_of_isGap (by decide), yields rest apart]

/-- Texts are read one after the other when the second stands apart from the first. -/
theorem Yields.append {c : Char} (first : Yields text tokens) (second : Yields (c :: text') tokens') (apart : Apart [c]) :
    Yields (text ++ c :: text') (tokens ++ tokens') := by
  intro rest apart'
  have apartHere : Apart (c :: text' ++ rest) := apart
  rw [List.append_assoc, first _ apartHere, second rest apart', List.append_assoc]

theorem yields_number {n : Numeral} (written : n.Written) : Yields n.chars [.number n] :=
  yields_of_lexeme fun _ apart => written.lexeme fun c mem => (apart c mem).2

theorem yields_name {name : String} (isName : Letter.IsName name) : Yields name.toList [.name name] := by
  obtain ⟨first, more, rfl, starts, continues⟩ := isName
  rw [String.toList_ofList]
  exact yields_of_lexeme fun _ apart => .name starts (List.all_eq_true.mp continues) fun c mem => (apart c mem).1

theorem yields_quoted {content : String} (quoteFree : '\'' ∉ content.toList) :
    Yields ('\'' :: content.toList ++ ['\'']) [.quoted content] := by
  have lexeme := fun rest => Lexeme.quoted quoteFree rest
  rw [String.ofList_toList] at lexeme
  exact yields_of_lexeme fun rest _ => lexeme rest

/-- Texts in a row, with commas and spaces between them. -/
theorem yields_intercalate {texts : List (List Char)} {tokenss : List (List Token)} (each : List.Forall₂ Yields texts tokenss) :
    Yields (List.intercalate [',', ' '] texts) (List.intercalate [.mark .comma] tokenss) := by
  induction each with
  | nil => exact yields_nil
  | @cons text tokens texts tokenss yields each ih =>
    cases each with
    | nil =>
      rw [List.intercalate_singleton, List.intercalate_singleton]
      exact yields
    | cons =>
      rw [List.intercalate_cons_cons, List.intercalate_cons_cons, List.append_assoc, List.append_assoc]
      exact yields.append (ih.space.mark .comma) (by simp [Apart]; decide)

end Scan

/-! ## Tokens of one operand -/

namespace Parse

/-- What is read when only the limit of nesting can be in the way. -/
def Outcome.provided {α : Type} (fits : Prop) [Decidable fits] (node : α) (rest : List Token) : Outcome α :=
  if fits then .found node rest else .tooDeep

/-- Whether no operand and no assignment goes on with some tokens. -/
structure Closes (rest : List Token) : Prop where
  noFactor : ∀ token ∈ rest.head?, factorOp? token = none
  noTerm : ∀ token ∈ rest.head?, termOp? token = none
  noAssign : ∀ m, rest.head? = some (.mark m) → ¬ Assigns m
  noCall : rest.head? ≠ some (.mark .leftParen)

theorem closes_cons {token : Token} (mem : token ∈ [.mark .rightParen, .mark .comma, .endOfLine]) (more : List Token) :
    Closes (token :: more) := by
  simp only [List.mem_cons, List.not_mem_nil, or_false] at mem
  rcases mem with rfl | rfl | rfl <;> constructor <;> simp [factorOp?, termOp?, Assigns]

/-- `Reads tokens node nesting`: some tokens are an operand that is read as `node`, where that is nested
`nesting` deep, and no assignment starts with them. -/
structure Reads (tokens : List Token) (node : Expr) (nesting : Nat) : Prop where
  unary : ∀ depth rest, rest.head? ≠ some (.mark .leftParen) →
    unaryWithin depth (tokens ++ rest) = .provided (nesting < depth) node rest
  noAssign : ∀ rest, (∀ m, rest.head? = some (.mark m) → ¬ Assigns m) →
    ∀ name m more, tokens ++ rest = .name name :: .mark m :: more → ¬ Assigns m

section
variable {operand : List Token → Outcome Expr} {op? : Token → Option String} {tokens rest : List Token} {node : Expr}

theorem chain_provided {fits : Prop} [Decidable fits] (read : operand tokens = .provided fits node rest)
    (ended : ∀ token ∈ rest.head?, op? token = none) : chain operand op? tokens = .provided fits node rest := by
  unfold Outcome.provided at read ⊢
  split
  · rename_i within
    rw [if_pos within] at read
    exact chain_found read ended
  · rename_i beyond
    rw [if_neg beyond] at read
    rw [chain, read]

/-- Two operands with an operator between them. -/
theorem chain_pair {fits fits' : Prop} [Decidable fits] [Decidable fits'] {left right : Expr} {token : Token} {op : String}
    {more : List Token} (first : operand tokens = .provided fits left (token :: more)) (isOp : op? token = some op)
    (second : operand more = .provided fits' right rest) (ended : ∀ token ∈ rest.head?, op? token = none) :
    chain operand op? tokens = .provided (fits ∧ fits') (.binary op left right) rest := by
  unfold Outcome.provided at first second ⊢
  by_cases within : fits
  · rw [if_pos within] at first
    by_cases within' : fits'
    · rw [if_pos within'] at second
      rw [if_pos ⟨within, within'⟩, chain, first]
      simp only [List.length_cons, chainFrom, isOp, second]
      exact chainFrom_found _ ended
    · rw [if_neg within'] at second
      rw [if_neg fun both => within' both.2, chain, first]
      simp only [List.length_cons, chainFrom, isOp, second]
  · rw [if_neg within] at first
    rw [if_neg fun both => within both.1, chain, first]

end

theorem Outcome.provided_congr {α : Type} {fits fits' : Prop} [Decidable fits] [Decidable fits'] (same : fits ↔ fits') (node : α)
    (rest : List Token) : Outcome.provided fits node rest = .provided fits' node rest := by
  simp only [Outcome.provided, same]

/-- A line that is all of an expression, wherever nothing but the limit of nesting is in the way, is that
expression, unless the machine has no room for it. It has if one level of nesting is enough. -/
theorem line_provided [Machine] (fits : Nat → Prop) [DecidablePred fits] {tokens : List Token} {node : Expr}
    (reads : ∀ depth, Rule.expression.within depth tokens = .provided (fits depth) node [.endOfLine]) :
    (fits 2 → Machine.readsTooDeep 2 .expression tokens = false) ∧
      line tokens = if Machine.readsTooDeep 2 .expression tokens then .error .tooDeep else .ok (some node) := by
  refine ⟨fun shallow => Machine.reads_shallow 2 .expression tokens ?_, Grammar.line_whole ?_⟩
  · rw [reads, Outcome.provided, if_pos shallow]
    rfl
  · have enough : tokens.countP Grammar.nests < tokens.length + 1 := Nat.lt_succ_of_le List.countP_le_length
    have within := Grammar.within_ne_tooDeep .expression enough
    rw [reads, Outcome.provided] at within ⊢
    by_cases deep : fits (tokens.length + 1)
    · rw [if_pos deep]
    · rw [if_neg deep] at within
      exact absurd rfl within

/-- `Expresses tokens node nesting`: some tokens are an expression that is read as `node`. -/
def Expresses (tokens : List Token) (node : Expr) (nesting : Nat) : Prop :=
  ∀ depth rest, Closes rest → expressionOver (unaryWithin depth) (tokens ++ rest) = .provided (nesting < depth) node rest

theorem statement_eq_term {unary : List Token → Outcome Expr} {tokens : List Token}
    (noAssign : ∀ name m more, tokens = .name name :: .mark m :: more → ¬ Assigns m) :
    statementOver unary tokens = termOver unary tokens := by
  unfold statementOver
  split
  · rename_i name m rest
    rw [if_neg (noAssign name m rest rfl)]
  · rfl

section
variable {tokens tokens' : List Token} {node node' : Expr} {nesting nesting' : Nat}

/-- In front of what closes it an operand is a factor and a term. -/
theorem Reads.factor (reads : Reads tokens node nesting) {rest : List Token} (noCall : rest.head? ≠ some (.mark .leftParen))
    (ended : ∀ token ∈ rest.head?, factorOp? token = none) (depth : Nat) :
    factorOver (unaryWithin depth) (tokens ++ rest) = .provided (nesting < depth) node rest :=
  chain_provided (reads.unary depth rest noCall) ended

theorem Reads.term (reads : Reads tokens node nesting) {rest : List Token} (closes : Closes rest) (depth : Nat) :
    termOver (unaryWithin depth) (tokens ++ rest) = .provided (nesting < depth) node rest :=
  chain_provided (reads.factor closes.noCall closes.noFactor depth) closes.noTerm

theorem Reads.expresses (reads : Reads tokens node nesting) : Expresses tokens node nesting := by
  intro depth rest closes
  rw [expressionOver, statement_eq_term (reads.noAssign rest closes.noAssign)]
  exact reads.term closes depth

theorem Reads.minus (reads : Reads tokens node nesting) : Expresses (.mark .minus :: tokens) (.unary "-" node) (nesting + 1) := by
  intro depth rest closes
  have unary : unaryWithin depth (.mark .minus :: tokens ++ rest) = .provided (nesting + 1 < depth) (.unary "-" node) rest := by
    cases depth with
    | zero => rfl
    | succ depth =>
      rw [List.cons_append, unaryWithin, reads.unary depth rest closes.noCall]
      by_cases fits : nesting < depth <;> simp [Outcome.provided, fits]
  rw [expressionOver, statement_eq_term (by simp)]
  exact chain_provided (chain_provided unary closes.noFactor) closes.noTerm

theorem Reads.assign (reads : Reads tokens node nesting) (name : String) :
    Expresses (.name name :: .mark .equal :: tokens) (.assign name node) nesting := by
  intro depth rest closes
  have value := reads.term closes depth
  simp only [expressionOver, statementOver, List.cons_append, Assigns, true_or, if_true, value]
  by_cases fits : nesting < depth <;> simp [Outcome.provided, fits]

/-- Two operands with the sign of an operation between them. -/
theorem Reads.pair (reads : Reads tokens node nesting) (reads' : Reads tokens' node' nesting') {m : Mark} {op : String}
    (isOp : factorOp? (.mark m) = some op ∨ factorOp? (.mark m) = none ∧ termOp? (.mark m) = some op) :
    Expresses (tokens ++ .mark m :: tokens') (.binary op node node') (max nesting nesting') := by
  intro depth rest closes
  have noAssign : ∀ name m' more, tokens ++ (.mark m :: (tokens' ++ rest)) = .name name :: .mark m' :: more → ¬ Assigns m' := by
    refine reads.noAssign _ fun m' here => ?_
    obtain rfl := Token.mark.inj (Option.some.inj here)
    rintro (rfl | rfl) <;> simp [factorOp?, termOp?] at isOp
  have noCall : (Token.mark m :: (tokens' ++ rest)).head? ≠ some (.mark .leftParen) := by
    intro here
    obtain rfl := Token.mark.inj (Option.some.inj here)
    simp [factorOp?, termOp?] at isOp
  rw [List.append_assoc, List.cons_append, expressionOver, statement_eq_term noAssign]
  have both : nesting < depth ∧ nesting' < depth ↔ max nesting nesting' < depth := Nat.max_lt.symm
  rw [← Outcome.provided_congr both]
  rcases isOp with factorOp | ⟨noFactor, termOp⟩
  · -- The operands make one factor.
    have factor : factorOver (unaryWithin depth) (tokens ++ .mark m :: (tokens' ++ rest)) = _ :=
      chain_pair (reads.unary depth _ noCall) factorOp (reads'.unary depth rest closes.noCall) closes.noFactor
    exact chain_provided factor closes.noTerm
  · -- Each operand is a factor of its own.
    refine chain_pair (reads.factor noCall (fun token mem => ?_) depth) termOp
      (reads'.factor closes.noCall closes.noFactor depth) closes.noTerm
    obtain rfl := Option.some.inj mem
    exact noFactor

theorem Expresses.parens (expresses : Expresses tokens node nesting) :
    Reads (.mark .leftParen :: tokens ++ [.mark .rightParen]) node (nesting + 1) := by
  constructor
  · intro depth rest _
    cases depth with
    | zero => rfl
    | succ depth =>
      have inner := expresses depth (.mark .rightParen :: rest) (closes_cons (by simp) rest)
      have absent : callOver (unaryWithin depth) (.mark .leftParen :: (tokens ++ .mark .rightParen :: rest)) = .absent := rfl
      rw [List.append_assoc, List.singleton_append, List.cons_append, unaryWithin, primaryOver, absent, inner]
      · by_cases fits : nesting < depth <;> simp [Outcome.provided, fits]
      · simp
  · simp

/-- A line of nothing but an operand is that operand, unless the machine has no room for it. It has if at
most one level of operands is nested in it. -/
theorem Reads.line [Machine] (reads : Reads tokens node nesting) :
    (nesting < 2 → Machine.readsTooDeep 2 .expression (tokens ++ [.endOfLine]) = false) ∧
      line (tokens ++ [.endOfLine]) =
        if Machine.readsTooDeep 2 .expression (tokens ++ [.endOfLine]) then .error .tooDeep else .ok (some node) :=
  line_provided (nesting < ·) fun depth => reads.expresses depth [.endOfLine] (closes_cons (by simp) [])

theorem reads_number (n : Numeral) : Reads [.number n] (.number n.value) 0 := by
  refine ⟨fun depth rest _ => ?_, by simp⟩
  cases depth <;> rfl

theorem reads_quoted (content : String) : Reads [.quoted content] (.text content) 0 := by
  refine ⟨fun depth rest _ => ?_, by simp⟩
  cases depth <;> rfl

/-- A name stands for itself where no call starts with it. -/
theorem reads_name (name : String) : Reads [.name name] (.name name) 0 := by
  refine ⟨fun depth rest noCall => ?_, fun rest noAssign name m more shape => ?_⟩
  · cases depth with
    | zero => rfl
    | succ depth =>
      have absent : callOver (unaryWithin depth) (.name name :: rest) = .absent := by
        unfold callOver
        split <;> simp_all
      rw [List.singleton_append, unaryWithin, primaryOver, absent]
      · rfl
      · simp
  · obtain ⟨_, rfl⟩ := List.cons.inj shape
    exact noAssign m rfl

end

/-! ## Tokens of a call -/

theorem intercalate_cons {α : Type} (mark : α) (first : List α) (more : List (List α)) :
    List.intercalate [mark] (first :: more) = first ++ more.flatMap (mark :: ·) := by
  induction more generalizing first with
  | nil => simp
  | cons second more ih => rw [List.intercalate_cons_cons, ih, List.flatMap_cons, List.append_assoc]; rfl

theorem closes_arguments (tokenss : List (List Token)) (rest : List Token) :
    Closes (tokenss.flatMap (.mark .comma :: ·) ++ .mark .rightParen :: rest) := by
  cases tokenss with
  | nil => exact closes_cons (by simp) rest
  | cons tokens tokenss => exact closes_cons (by simp) _

section
variable {args : List Expr} {tokenss : List (List Token)}

theorem nestings_cons_lt_iff (arg : Expr) (args : List Expr) (depth : Nat) :
    Expr.nestings (arg :: args) < depth + 1 ↔ arg.nesting < depth ∧ Expr.nestings args < depth + 1 := by
  rw [Expr.nestings, Nat.max_lt, Nat.succ_lt_succ_iff]

/-- The arguments that follow some others. -/
theorem argumentsFrom_provided (each : List.Forall₂ (fun arg tokens => Reads tokens arg arg.nesting) args tokenss) (depth : Nat)
    (rest : List Token) (before : List Expr) (steps : Nat) (enough : (tokenss.flatMap (Token.mark .comma :: ·)).length ≤ steps) :
    argumentsFrom (expressionOver (unaryWithin depth)) steps before
        (tokenss.flatMap (.mark .comma :: ·) ++ .mark .rightParen :: rest) =
      .provided (Expr.nestings args < depth + 1) (before ++ args) (.mark .rightParen :: rest) := by
  induction each generalizing before steps with
  | nil => cases steps <;> simp [argumentsFrom, Outcome.provided, Expr.nestings]
  | @cons arg tokens args tokenss reads each ih =>
    rw [List.flatMap_cons, List.cons_append, List.length_cons, List.length_append] at enough
    obtain ⟨steps, rfl⟩ : ∃ steps', steps = steps' + 1 := ⟨steps - 1, by omega⟩
    have first := reads.expresses depth _ (closes_arguments tokenss rest)
    have next := ih (before ++ [arg]) steps (by omega)
    rw [List.append_assoc, List.singleton_append] at next
    rw [List.flatMap_cons, List.cons_append, List.cons_append, List.append_assoc, argumentsFrom, first,
      Outcome.provided_congr (nestings_cons_lt_iff arg args depth)]
    by_cases fits : arg.nesting < depth
    · simp only [Outcome.provided, fits, true_and]
      exact next
    · simp only [Outcome.provided, fits, false_and, if_false]

/-- No operand starts with a closing parenthesis. -/
theorem Reads.ne_rightParen {tokens : List Token} {node : Expr} {nesting : Nat} (reads : Reads tokens node nesting)
    {rest : List Token} (noCall : rest.head? ≠ some (.mark .leftParen)) (more : List Token) :
    tokens ++ rest ≠ .mark .rightParen :: more := by
  intro same
  have read := reads.unary (nesting + 1) rest noCall
  rw [same, show unaryWithin (nesting + 1) (.mark .rightParen :: more) = .absent from rfl] at read
  simp [Outcome.provided] at read

/-- The arguments of a call that has some. -/
theorem arguments_provided {arg : Expr} {tokens : List Token} (reads : Reads tokens arg arg.nesting)
    (each : List.Forall₂ (fun arg tokens => Reads tokens arg arg.nesting) args tokenss) (depth : Nat) (rest : List Token) :
    argumentsOf (expressionOver (unaryWithin depth)) (List.intercalate [.mark .comma] (tokens :: tokenss) ++ .mark .rightParen :: rest) =
      .provided (Expr.nestings (arg :: args) < depth + 1) (arg :: args) (.mark .rightParen :: rest) := by
  have first := reads.expresses depth _ (closes_arguments tokenss rest)
  have next := argumentsFrom_provided each depth rest [arg]
    (tokenss.flatMap (Token.mark .comma :: ·) ++ .mark .rightParen :: rest).length (by simp)
  rw [intercalate_cons, List.append_assoc, argumentsOf, first, Outcome.provided_congr (nestings_cons_lt_iff arg args depth)]
  by_cases fits : arg.nesting < depth
  · simp only [Outcome.provided, fits, true_and]
    exact next
  · simp only [Outcome.provided, fits, false_and, if_false]

/-- A call that has arguments. -/
theorem call_provided (name : String) {arg : Expr} {tokens : List Token} (reads : Reads tokens arg arg.nesting)
    (each : List.Forall₂ (fun arg tokens => Reads tokens arg arg.nesting) args tokenss) (depth : Nat) (rest : List Token) :
    callOver (unaryWithin depth) (.name name :: .mark .leftParen ::
        (List.intercalate [.mark .comma] (tokens :: tokenss) ++ .mark .rightParen :: rest)) =
      .provided (Expr.nestings (arg :: args) < depth + 1) (.call name (arg :: args)) rest := by
  have opens : ∀ more, List.intercalate [.mark .comma] (tokens :: tokenss) ++ .mark .rightParen :: rest ≠
      .mark .rightParen :: more := by
    rw [intercalate_cons, List.append_assoc]
    exact reads.ne_rightParen (closes_arguments tokenss rest).noCall
  rw [callOver, arguments_provided reads each depth rest]
  · by_cases fits : Expr.nestings (arg :: args) < depth + 1 <;> simp [Outcome.provided, fits]
  · exact opens

theorem reads_call (name : String) (each : List.Forall₂ (fun arg tokens => Reads tokens arg arg.nesting) args tokenss) :
    Reads (.name name :: .mark .leftParen :: (List.intercalate [.mark .comma] tokenss ++ [.mark .rightParen])) (.call name args)
      (Expr.nestings args) := by
  constructor
  · intro depth rest _
    cases depth with
    | zero => rfl
    | succ depth =>
      cases each with
      | nil => rfl
      | @cons arg tokens args tokenss reads each =>
        rw [List.cons_append, List.cons_append, List.append_assoc, List.singleton_append, unaryWithin, primaryOver,
          call_provided name reads each depth rest]
        · by_cases fits : Expr.nestings (arg :: args) < depth + 1 <;> simp [Outcome.provided, fits]
        · simp
  · rintro rest _ name m more shape
    obtain ⟨_, same⟩ := List.cons.inj shape
    obtain ⟨same, _⟩ := List.cons.inj same
    obtain rfl := Token.mark.inj same
    rintro (h | h) <;> cases h

end

end Parse

/-! ## Expressions in full parentheses -/

namespace Expr

/-- `Printed tree text`: a text is an expression in full parentheses. The numbers in it are written in
whatever digits stand for them. -/
inductive Printed : Expr → String → Prop
  | number {n : Numeral} (written : n.Written) : Printed (.number n.value) n.lexeme
  | text {content : String} (quoteFree : '\'' ∉ content.toList) : Printed (.text content) ("'" ++ content ++ "'")
  | name {name : String} (isName : Letter.IsName name) : Printed (.name name) name
  | unary {operand : Expr} {text : String} (printed : Printed operand text) : Printed (.unary "-" operand) ("(-" ++ text ++ ")")
  | binary {op : String} {left right : Expr} {text text' : String} (known : op ∈ ["+", "-", "*", "/"])
      (first : Printed left text) (second : Printed right text') :
      Printed (.binary op left right) ("(" ++ text ++ " " ++ op ++ " " ++ text' ++ ")")
  | assign {name text : String} {value : Expr} (isName : Letter.IsName name) (printed : Printed value text) :
      Printed (.assign name value) ("(" ++ name ++ " = " ++ text ++ ")")
  | call {name : String} {args : List Expr} {texts : List String} (isName : Letter.IsName name)
      (each : List.Forall₂ Printed args texts) : Printed (.call name args) (name ++ "(" ++ ", ".intercalate texts ++ ")")

/-- Whether a text is read as some tokens and these as an expression. -/
def ReadFrom (tree : Expr) (text : String) : Prop :=
  ∃ tokens, Scan.Yields text.toList tokens ∧ Parse.Reads tokens tree tree.nesting

open Scan Parse

variable {operand left right value : Expr} {text text' name : String}

theorem apart_mark (m : Mark) (noPoint : m ≠ .dot) : Apart [m.char] := by
  cases m <;> first | contradiction | (simp [Apart, Mark.char]; decide)

theorem yields_rightParen : Yields [')'] [.mark .rightParen] := yields_nil.mark .rightParen

theorem readFrom_number {n : Numeral} (written : n.Written) : ReadFrom (.number n.value) n.lexeme := by
  refine ⟨_, ?_, reads_number n⟩
  rw [Numeral.lexeme, String.toList_ofList]
  exact yields_number written

theorem readFrom_text {content : String} (quoteFree : '\'' ∉ content.toList) :
    ReadFrom (.text content) ("'" ++ content ++ "'") := by
  refine ⟨_, ?_, reads_quoted content⟩
  simpa using yields_quoted quoteFree

theorem readFrom_name (isName : Letter.IsName name) : ReadFrom (.name name) name := ⟨_, yields_name isName, reads_name name⟩

theorem ReadFrom.unary (read : ReadFrom operand text) : ReadFrom (.unary "-" operand) ("(-" ++ text ++ ")") := by
  obtain ⟨tokens, yields, reads⟩ := read
  refine ⟨_, ?_, reads.minus.parens⟩
  have shape : ("(-" ++ text ++ ")").toList = '(' :: '-' :: (text.toList ++ [')']) := by simp
  rw [shape]
  exact ((yields.append yields_rightParen (apart_mark .rightParen nofun)).mark .minus).mark .leftParen

theorem ReadFrom.binary {op : String} (known : op ∈ ["+", "-", "*", "/"]) (read : ReadFrom left text) (read' : ReadFrom right text') :
    ReadFrom (.binary op left right) ("(" ++ text ++ " " ++ op ++ " " ++ text' ++ ")") := by
  obtain ⟨tokens, yields, reads⟩ := read
  obtain ⟨tokens', yields', reads'⟩ := read'
  obtain ⟨m, isMark, isOp⟩ : ∃ m : Mark, op = m.char.toString ∧
      (factorOp? (.mark m) = some op ∨ factorOp? (.mark m) = none ∧ termOp? (.mark m) = some op) := by
    simp only [List.mem_cons, List.not_mem_nil, or_false] at known
    rcases known with rfl | rfl | rfl | rfl
    · exact ⟨.plus, rfl, .inr ⟨rfl, rfl⟩⟩
    · exact ⟨.minus, rfl, .inr ⟨rfl, rfl⟩⟩
    · exact ⟨.star, rfl, .inl rfl⟩
    · exact ⟨.slash, rfl, .inl rfl⟩
  refine ⟨_, ?_, (reads.pair reads' isOp).parens⟩
  have shape : ("(" ++ text ++ " " ++ op ++ " " ++ text' ++ ")").toList =
      '(' :: (text.toList ++ ' ' :: m.char :: ' ' :: (text'.toList ++ [')'])) := by
    simp [isMark]
  rw [shape]
  have closed := yields'.append yields_rightParen (apart_mark .rightParen nofun)
  rw [List.cons_append, List.append_assoc, List.cons_append]
  exact (yields.append (closed.space.mark m).space (apart_of_isGap (by decide) [])).mark .leftParen

theorem ReadFrom.assign (isName : Letter.IsName name) (read : ReadFrom value text) :
    ReadFrom (.assign name value) ("(" ++ name ++ " = " ++ text ++ ")") := by
  obtain ⟨tokens, yields, reads⟩ := read
  refine ⟨_, ?_, (reads.assign name).parens⟩
  have shape : ("(" ++ name ++ " = " ++ text ++ ")").toList =
      '(' :: (name.toList ++ ' ' :: '=' :: ' ' :: (text.toList ++ [')'])) := by
    simp
  rw [shape]
  have closed := yields.append yields_rightParen (apart_mark .rightParen nofun)
  exact ((yields_name isName).append (closed.space.mark .equal).space (apart_of_isGap (by decide) [])).mark .leftParen

theorem readFrom_call {args : List Expr} {texts : List String} (isName : Letter.IsName name) (each : List.Forall₂ ReadFrom args texts) :
    ReadFrom (.call name args) (name ++ "(" ++ ", ".intercalate texts ++ ")") := by
  obtain ⟨tokenss, yields, reads⟩ : ∃ tokenss, List.Forall₂ Yields (texts.map String.toList) tokenss ∧
      List.Forall₂ (fun arg tokens => Reads tokens arg arg.nesting) args tokenss := by
    induction each with
    | nil => exact ⟨[], .nil, .nil⟩
    | cons read _ ih =>
      obtain ⟨tokens, yields, reads⟩ := read
      obtain ⟨tokenss, yieldss, readss⟩ := ih
      exact ⟨tokens :: tokenss, .cons yields yieldss, .cons reads readss⟩
  refine ⟨_, ?_, reads_call name reads⟩
  have shape : (name ++ "(" ++ ", ".intercalate texts ++ ")").toList =
      name.toList ++ '(' :: (List.intercalate [',', ' '] (texts.map String.toList) ++ [')']) := by
    simp
  rw [shape]
  have closed := (yields_intercalate yields).append yields_rightParen (apart_mark .rightParen nofun)
  exact (yields_name isName).append (closed.mark .leftParen) (apart_mark .leftParen nofun)

mutual

/-- In full parentheses an expression is read back. -/
theorem readFrom_printed : (tree : Expr) → {text : String} → tree.Printed text → ReadFrom tree text
  | .number _, _, printed => by
    cases printed with
    | number written => exact readFrom_number written
  | .text _, _, printed => by
    cases printed with
    | text quoteFree => exact readFrom_text quoteFree
  | .name _, _, printed => by
    cases printed with
    | name isName => exact readFrom_name isName
  | .unary _ operand, _, printed => by
    cases printed with
    | unary printed => exact (readFrom_printed operand printed).unary
  | .binary _ left right, _, printed => by
    cases printed with
    | binary known first second => exact (readFrom_printed left first).binary known (readFrom_printed right second)
  | .assign _ value, _, printed => by
    cases printed with
    | assign isName printed => exact (readFrom_printed value printed).assign isName
  | .call _ args, _, printed => by
    cases printed with
    | call isName each => exact readFrom_call isName (allReadFrom_printed args each)

theorem allReadFrom_printed : (args : List Expr) → {texts : List String} → List.Forall₂ Printed args texts →
    List.Forall₂ ReadFrom args texts
  | [], _, each => by
    cases each with
    | nil => exact .nil
  | arg :: args, _, each => by
    cases each with
    | cons printed each => exact .cons (readFrom_printed arg printed) (allReadFrom_printed args each)

end

mutual

/-- What can be written piece by piece can be written in full parentheses. -/
theorem exists_printed : (tree : Expr) → tree.Writable → ∃ text, tree.Printed text
  | .number x, writable => by
    obtain ⟨n, written, rfl⟩ := writable (.number x) (by simp [postorder])
    exact ⟨_, .number written⟩
  | .text content, writable => ⟨_, .text (writable (.text content) (by simp [postorder]))⟩
  | .name n, writable => ⟨_, .name (writable (.name n) (by simp [postorder]))⟩
  | .unary op operand, writable => by
    obtain ⟨inner, minus⟩ : operand.Writable ∧ (Node.unary op).Writable := by
      simpa [Writable, postorder, or_imp, forall_and] using writable
    obtain ⟨text, printed⟩ := exists_printed operand inner
    obtain rfl : op = "-" := minus
    exact ⟨_, .unary printed⟩
  | .binary op left right, writable => by
    obtain ⟨first, second, known⟩ : left.Writable ∧ right.Writable ∧ (Node.binary op).Writable := by
      simpa [Writable, postorder, or_imp, forall_and] using writable
    obtain ⟨text, printed⟩ := exists_printed left first
    obtain ⟨text', printed'⟩ := exists_printed right second
    exact ⟨_, .binary known printed printed'⟩
  | .assign n value, writable => by
    obtain ⟨inner, isName⟩ : value.Writable ∧ (Node.assign n).Writable := by
      simpa [Writable, postorder, or_imp, forall_and] using writable
    obtain ⟨text, printed⟩ := exists_printed value inner
    exact ⟨_, .assign isName printed⟩
  | .call n args, writable => by
    obtain ⟨each, isName⟩ : (∀ node ∈ postorders args, node.Writable) ∧ (Node.call n args.length).Writable := by
      simpa [Writable, postorder, or_imp, forall_and] using writable
    obtain ⟨texts, printed⟩ := exists_allPrinted args each
    exact ⟨_, .call isName printed⟩

theorem exists_allPrinted : (args : List Expr) → (∀ node ∈ postorders args, node.Writable) →
    ∃ texts, List.Forall₂ Printed args texts
  | [], _ => ⟨[], .nil⟩
  | arg :: args, writable => by
    obtain ⟨first, rest⟩ : arg.Writable ∧ ∀ node ∈ postorders args, node.Writable := by
      simpa [Writable, postorders, or_imp, forall_and] using writable
    obtain ⟨text, printed⟩ := exists_printed arg first
    obtain ⟨texts, each⟩ := exists_allPrinted args rest
    exact ⟨text :: texts, .cons printed each⟩

end

/-- Every expression of what can be written can be written in full parentheses, in whatever digits stand
for its numbers. The line is read without a fault and is just that expression, unless the machine has no
room to read it. It has on every machine if the operands are nested at most one level deep. -/
theorem printed_line [Machine] {tree : Expr} (writable : tree.Writable) :
    (∃ text, tree.Printed text) ∧ ∀ text, tree.Printed text →
      (Scan.line text).fault = none ∧
        (tree.nesting < 2 → Machine.readsTooDeep 2 .expression (Scan.line text).tokens = false) ∧
        Calculation.tree text =
          if Machine.readsTooDeep 2 .expression (Scan.line text).tokens then .error .tooDeep else .ok (some tree) := by
  refine ⟨exists_printed tree writable, fun text printed => ?_⟩
  obtain ⟨tokens, yields, reads⟩ := readFrom_printed tree printed
  have scanned : Scan.line text = ⟨tokens ++ [.endOfLine], none⟩ := by
    have whole := yields [] (by simp [Apart])
    rw [List.append_nil] at whole
    rw [Scan.line, whole]
    simp [chars]
  rw [scanned, Calculation.tree, scanned]
  exact ⟨rfl, reads.line⟩

/-- An expression with one of each kind in it. -/
def mixed : Expr :=
  .call "clamp" [.unary "-" (.name "x"), .text "a b",
    .assign "y" (.binary "*" (.number (Numeral.value ⟨['1'], ['5', '0']⟩)) (.number (Numeral.value ⟨['2'], []⟩))), .call "now" []]

theorem printed_line_mixed :
    letI := Machine.usual
    mixed.Writable ∧ Calculation.tree "clamp((-x), 'a b', (y = (1.50 * 2)), now())" = .ok (some mixed) := by
  let _ := Machine.usual
  have clamp : Letter.IsName "clamp" := ⟨'c', ['l', 'a', 'm', 'p'], rfl, by decide +kernel, by decide +kernel⟩
  have now : Letter.IsName "now" := ⟨'n', ['o', 'w'], rfl, by decide +kernel, by decide +kernel⟩
  have x : Letter.IsName "x" := ⟨'x', [], rfl, by decide +kernel, rfl⟩
  have y : Letter.IsName "y" := ⟨'y', [], rfl, by decide +kernel, rfl⟩
  have first : Numeral.Written ⟨['1'], ['5', '0']⟩ := ⟨by simp, by simp; decide, by simp; decide⟩
  have second : Numeral.Written ⟨['2'], []⟩ := ⟨by simp, by simp; decide, by simp⟩
  have writable : mixed.Writable := by
    simp only [Writable, mixed, postorder, postorders, List.append_nil, List.cons_append, List.nil_append, List.forall_mem_cons]
    exact ⟨x, rfl, by simp [Node.Writable], ⟨_, first, rfl⟩, ⟨_, second, rfl⟩, by simp [Node.Writable], y, now, clamp, by simp⟩
  have printed : mixed.Printed "clamp((-x), 'a b', (y = (1.50 * 2)), now())" :=
    .call clamp (.cons (.unary (.name x)) (.cons (.text (by decide)) (.cons (.assign y (.binary (by simp) (.number first) (.number second)))
      (.cons (.call now .nil) .nil))))
  have fits : Machine.readsTooDeep 2 .expression (Scan.line "clamp((-x), 'a b', (y = (1.50 * 2)), now())").tokens = false := by
    decide +kernel
  have read := ((printed_line writable).2 _ printed).2.2
  rw [fits] at read
  exact ⟨writable, read⟩

end Expr

end OutlineCalc
