import OutlineCalc.Parse

/-!
The grammar of a line as a relation: which tokens, from one place up to another, are an expression
of which kind, and which node they stand for. Operators group from the left, minus signs nest to
the right, parentheses leave no node, and arguments keep their order. Nothing here says in which
order alternatives are tried.
-/

namespace OutlineCalc.Grammar
open OutlineCalc.Parse

section
variable (tokens : List Token)

/-- Operators and operands after a first part of a chain: `left` up to place `i`, with what follows
it up to place `k`, stands for `node`. -/
inductive Chain (Operand : Nat → Nat → Expr → Prop) (op? : Token → Option String) :
    Nat → Expr → Nat → Expr → Prop
  | done {i : Nat} {node : Expr} : Chain Operand op? i node i node
  | step {i j k : Nat} {left right node : Expr} {token : Token} {op : String}
      (here : tokens[i]? = some token) (sign : op? token = some op) (operand : Operand (i + 1) j right)
      (more : Chain Operand op? j (.binary op left right) k node) : Chain Operand op? i left k node

/-- One or more items separated by commas, in their order. -/
inductive Listed (Item : Nat → Nat → Expr → Prop) : Nat → Nat → List Expr → Prop
  | last {i j : Nat} {node : Expr} (item : Item i j node) : Listed Item i j [node]
  | more {i j k : Nat} {node : Expr} {nodes : List Expr} (item : Item i j node)
      (here : tokens[j]? = some (.mark .comma)) (rest : Listed Item (j + 1) k nodes) :
      Listed Item i k (node :: nodes)

/-- `Derives tokens rule i j node`: by the rule, the tokens from place `i` up to before place `j`
stand for `node`. -/
inductive Derives : Rule → Nat → Nat → Expr → Prop
  | statement {i j : Nat} {node : Expr} (inner : Derives .statement i j node) : Derives .expression i j node
  | assign {i j : Nat} {name : String} {m : Mark} {value : Expr} (here : tokens[i]? = some (.name name))
      (sign : tokens[i + 1]? = some (.mark m)) (assigns : Assigns m) (inner : Derives .term (i + 2) j value) :
      Derives .statement i j (.assign name value)
  | term {i j : Nat} {node : Expr} (inner : Derives .term i j node) : Derives .statement i j node
  | sum {i j k : Nat} {first node : Expr} (start : Derives .factor i j first)
      (more : Chain tokens (Derives .factor) termOp? j first k node) : Derives .term i k node
  | product {i j k : Nat} {first node : Expr} (start : Derives .unary i j first)
      (more : Chain tokens (Derives .unary) factorOp? j first k node) : Derives .factor i k node
  | minus {i j : Nat} {node : Expr} (here : tokens[i]? = some (.mark .minus))
      (inner : Derives .unary (i + 1) j node) : Derives .unary i j (.unary "-" node)
  | primary {i j : Nat} {node : Expr} (inner : Derives .primary i j node) : Derives .unary i j node
  | call {i j : Nat} {node : Expr} (inner : Derives .call i j node) : Derives .primary i j node
  | number {i : Nat} {numeral : Numeral} (here : tokens[i]? = some (.number numeral)) :
      Derives .primary i (i + 1) (.number numeral.value)
  | quoted {i : Nat} {content : String} (here : tokens[i]? = some (.quoted content)) :
      Derives .primary i (i + 1) (.text content)
  | name {i : Nat} {name : String} (here : tokens[i]? = some (.name name)) :
      Derives .primary i (i + 1) (.name name)
  | parens {i j : Nat} {node : Expr} (opens : tokens[i]? = some (.mark .leftParen))
      (inner : Derives .expression (i + 1) j node) (closes : tokens[j]? = some (.mark .rightParen)) :
      Derives .primary i (j + 1) node
  | callEmpty {i : Nat} {name : String} (here : tokens[i]? = some (.name name))
      (opens : tokens[i + 1]? = some (.mark .leftParen)) (closes : tokens[i + 2]? = some (.mark .rightParen)) :
      Derives .call i (i + 3) (.call name [])
  | callWith {i j : Nat} {name : String} {args : List Expr} (here : tokens[i]? = some (.name name))
      (opens : tokens[i + 1]? = some (.mark .leftParen)) (inner : Listed tokens (Derives .expression) (i + 2) j args)
      (closes : tokens[j]? = some (.mark .rightParen)) : Derives .call i (j + 1) (.call name args)

/-- `node` is the one node of the longest derivation by a rule from place `i` on, which ends at
place `j`. -/
structure Longest (rule : Rule) (i j : Nat) (node : Expr) : Prop where
  derives : Derives tokens rule i j node
  unique : ∀ other, Derives tokens rule i j other → other = node
  greatest : ∀ k other, Derives tokens rule i k other → k ≤ j

/-- There is at least one token from place `i` up to place `j`, and none of them ends the line. -/
def Spans (i j : Nat) : Prop :=
  i < j ∧ ∀ p, i ≤ p → p < j → ∃ token, tokens[p]? = some token ∧ token ≠ .endOfLine

end

/-- The tokens that an expression can start with. -/
def Starts : Token → Prop
  | .mark m => m = .minus ∨ m = .leftParen
  | .endOfLine => False
  | _ => True

variable {tokens : List Token}

/-- Induction over derivations. What holds of a derivation can be used for each operand of a chain
and each argument of a call that it is part of. -/
theorem Derives.induct {motive : ∀ rule i j node, Derives tokens rule i j node → Prop}
    (statement : ∀ i j node inner, motive .statement i j node inner → motive .expression i j node (.statement inner))
    (assign : ∀ i j name m value here sign (assigns : Assigns m) inner, motive .term (i + 2) j value inner →
      motive .statement i j (.assign name value) (.assign here sign assigns inner))
    (term : ∀ i j node inner, motive .term i j node inner → motive .statement i j node (.term inner))
    (sum : ∀ i j k first node start more, motive .factor i j first start →
      Chain tokens (fun i j node => ∃ inner, motive .factor i j node inner) termOp? j first k node →
      motive .term i k node (.sum start more))
    (product : ∀ i j k first node start more, motive .unary i j first start →
      Chain tokens (fun i j node => ∃ inner, motive .unary i j node inner) factorOp? j first k node →
      motive .factor i k node (.product start more))
    (minus : ∀ i j node here inner, motive .unary (i + 1) j node inner →
      motive .unary i j (.unary "-" node) (.minus here inner))
    (primary : ∀ i j node inner, motive .primary i j node inner → motive .unary i j node (.primary inner))
    (call : ∀ i j node inner, motive .call i j node inner → motive .primary i j node (.call inner))
    (number : ∀ i (numeral : Numeral) here, motive .primary i (i + 1) (.number numeral.value) (.number here))
    (quoted : ∀ i content here, motive .primary i (i + 1) (.text content) (.quoted here))
    (name : ∀ i name here, motive .primary i (i + 1) (.name name) (.name here))
    (parens : ∀ i j node opens inner closes, motive .expression (i + 1) j node inner →
      motive .primary i (j + 1) node (.parens opens inner closes))
    (callEmpty : ∀ i name here opens closes, motive .call i (i + 3) (.call name []) (.callEmpty here opens closes))
    (callWith : ∀ i j name args here opens inner closes,
      Listed tokens (fun i j node => ∃ inner, motive .expression i j node inner) (i + 2) j args →
      motive .call i (j + 1) (.call name args) (.callWith here opens inner closes))
    {rule : Rule} {i j : Nat} {node : Expr} (derives : Derives tokens rule i j node) :
    motive rule i j node derives := by
  refine @Derives.rec tokens motive
    (fun i left k node _ => Chain tokens (fun i j node => ∃ inner, motive .factor i j node inner) termOp? i left k node)
    (fun i left k node _ => Chain tokens (fun i j node => ∃ inner, motive .unary i j node inner) factorOp? i left k node)
    (fun i j nodes _ => Listed tokens (fun i j node => ∃ inner, motive .expression i j node inner) i j nodes)
    (statement _ _ _) (assign _ _ _ _ _) (term _ _ _) (sum _ _ _ _ _) (product _ _ _ _ _) (minus _ _ _)
    (primary _ _ _) (call _ _ _) (number _ _) (quoted _ _) (name _ _) (parens _ _ _) (callEmpty _ _)
    (callWith _ _ _ _)
    .done (fun here sign operand _ holds more => .step here sign ⟨operand, holds⟩ more)
    .done (fun here sign operand _ holds more => .step here sign ⟨operand, holds⟩ more)
    (fun item holds => .last ⟨item, holds⟩) (fun item here _ holds rest => .more ⟨item, holds⟩ here rest)
    rule i j node derives

/-! ## What a derivation takes -/

private theorem spans_one {i : Nat} {token : Token} (here : tokens[i]? = some token)
    (inside : token ≠ .endOfLine) : Spans tokens i (i + 1) := by
  refine ⟨by omega, fun p low high => ?_⟩
  obtain rfl : p = i := by omega
  exact ⟨token, here, inside⟩

private theorem spans_append {i j k : Nat} (first : Spans tokens i j) (second : Spans tokens j k) :
    Spans tokens i k := by
  refine ⟨by have := first.1; have := second.1; omega, fun p low high => ?_⟩
  by_cases before : p < j
  · exact first.2 p low before
  · exact second.2 p (by omega) high

private theorem spans_cons {i j : Nat} {token : Token} (here : tokens[i]? = some token)
    (inside : token ≠ .endOfLine) (rest : Spans tokens (i + 1) j) : Spans tokens i j :=
  spans_append (spans_one here inside) rest

section
variable {Operand Item : Nat → Nat → Expr → Prop} {op? : Token → Option String}

theorem Chain.spans (marks : op? .endOfLine = none) (operands : ∀ i j node, Operand i j node → Spans tokens i j)
    {h i k : Nat} {left node : Expr} (before : Spans tokens h i) (chain : Chain tokens Operand op? i left k node) :
    Spans tokens h k := by
  induction chain with
  | done => exact before
  | @step i j k left right node token op here sign operand _ ih =>
    have inside : token ≠ .endOfLine := by
      rintro rfl
      rw [marks] at sign
      contradiction
    exact ih (spans_append before (spans_cons here inside (operands _ _ _ operand)))

theorem Listed.spans (each : ∀ i j node, Item i j node → Spans tokens i j) {i k : Nat} {nodes : List Expr}
    (items : Listed tokens Item i k nodes) : Spans tokens i k := by
  induction items with
  | last item => exact each _ _ _ item
  | more item here _ ih => exact spans_append (each _ _ _ item) (spans_cons here (by simp) ih)

end

/-- A derivation takes at least one token and never takes the end of the line. -/
theorem Derives.spans {rule : Rule} {i j : Nat} {node : Expr} (derives : Derives tokens rule i j node) :
    Spans tokens i j := by
  induction derives using Derives.induct with
  | statement _ _ _ _ ih | term _ _ _ _ ih | primary _ _ _ _ ih | call _ _ _ _ ih => exact ih
  | assign _ _ _ _ _ here sign _ _ ih => exact spans_cons here (by simp) (spans_cons sign (by simp) ih)
  | sum _ _ _ _ _ _ _ ih chain => exact chain.spans rfl (fun _ _ _ ⟨_, spans⟩ => spans) ih
  | product _ _ _ _ _ _ _ ih chain => exact chain.spans rfl (fun _ _ _ ⟨_, spans⟩ => spans) ih
  | minus _ _ _ here _ ih => exact spans_cons here (by simp) ih
  | number _ _ here | quoted _ _ here | name _ _ here => exact spans_one here (by simp)
  | parens _ _ _ opens _ closes ih =>
    exact spans_append (spans_cons opens (by simp) ih) (spans_one closes (by simp))
  | callEmpty _ _ here opens closes =>
    exact spans_cons here (by simp) (spans_cons opens (by simp) (spans_one closes (by simp)))
  | callWith _ _ _ _ here opens _ closes items =>
    have inner := items.spans fun _ _ _ ⟨_, spans⟩ => spans
    exact spans_append (spans_cons here (by simp) (spans_cons opens (by simp) inner)) (spans_one closes (by simp))

/-- A derivation starts with a token that an expression can start with. -/
theorem Derives.starts {rule : Rule} {i j : Nat} {node : Expr} (derives : Derives tokens rule i j node) :
    ∃ token, tokens[i]? = some token ∧ Starts token := by
  induction derives using Derives.induct with
  | statement _ _ _ _ ih | term _ _ _ _ ih | primary _ _ _ _ ih | call _ _ _ _ ih => exact ih
  | sum _ _ _ _ _ _ _ ih _ | product _ _ _ _ _ _ _ ih _ => exact ih
  | assign _ _ _ _ _ here _ _ _ _ | callEmpty _ _ here _ _ | callWith _ _ _ _ here _ _ _ _ => exact ⟨_, here, trivial⟩
  | number _ _ here | quoted _ _ here | name _ _ here => exact ⟨_, here, trivial⟩
  | minus _ _ _ here _ _ => exact ⟨_, here, .inl rfl⟩
  | parens _ _ _ opens _ _ _ => exact ⟨_, opens, .inr rfl⟩

end OutlineCalc.Grammar
