import OutlineCalc.Proofs.Execution
import OutlineCalc.Proofs.Printing

/-!
Numbers with minus signs in front of them, joined by the four operators. However such a line is spaced, its
value is that of a calculator which passes over the line once and keeps two numbers: the total of what is
done with, and the value of the multiplications and divisions it is in.
-/

namespace OutlineCalc

open Parse (Outcome factorOp? termOp?)

/-! ## Operators and operands -/

/-- An operator of addition or subtraction. -/
inductive AddOp where
  | plus | minus
deriving DecidableEq, Repr

/-- An operator of multiplication or division. -/
inductive MulOp where
  | times | divide
deriving DecidableEq, Repr

/-- An operator. -/
abbrev Operator := AddOp ⊕ MulOp

/-- The mark that an operator is written as. -/
def AddOp.mark : AddOp → Mark
  | plus => .plus
  | minus => .minus

/-- The mark that an operator is written as. -/
def MulOp.mark : MulOp → Mark
  | times => .star
  | divide => .slash

/-- The mark that an operator is written as. -/
def Operator.mark : Operator → Mark := Sum.elim AddOp.mark MulOp.mark

/-- The sign of an operator. -/
def AddOp.sign (op : AddOp) : String := op.mark.char.toString

/-- The sign of an operator. -/
def MulOp.sign (op : MulOp) : String := op.mark.char.toString

/-- What an operator does to numbers. -/
def AddOp.apply : AddOp → Float → Float → Float
  | plus => (· + ·)
  | minus => (· - ·)

/-- What an operator does to numbers. -/
def MulOp.apply : MulOp → Float → Float → Float
  | times => (· * ·)
  | divide => (· / ·)

/-- A written number behind some minus signs. -/
structure Signed where
  signs : Nat
  numeral : Numeral
  written : numeral.Written

namespace Signed

/-- The tokens of a number behind its signs. -/
def tokens (n : Signed) : List Token := List.replicate n.signs (.mark .minus) ++ [.number n.numeral]

/-- A number negated once for each sign in front of it. -/
def value (n : Signed) : Float := Neg.neg^[n.signs] n.numeral.value

/-- The expression of a number behind its signs. -/
def tree (n : Signed) : Expr := (Expr.unary "-")^[n.signs] (.number n.numeral.value)

end Signed

/-- A first operand, and operators behind it with an operand each. -/
structure Series (ι α : Type) where
  first : α
  more : List (ι × α)

/-- What is kept in one pass over a series: the value of the run of multiplications and divisions it is in,
and the total of what stands before that run with the operator between them. -/
structure Tally (α : Type) where
  before : Option (α × AddOp)
  run : α

section
variable {α : Type} (add : AddOp → α → α → α) (mul : MulOp → α → α → α)

/-- The total up to some place. -/
def Tally.total (tally : Tally α) : α :=
  match tally.before with
  | none => tally.run
  | some (before, op) => add op before tally.run

/-- Goes on over an operator and an operand. Multiplication and division go on with the run, addition and
subtraction end it. -/
def Tally.step (tally : Tally α) : Operator → α → Tally α
  | .inl op, a => ⟨some (tally.total add, op), a⟩
  | .inr op, a => { tally with run := mul op tally.run a }

end

namespace Series

section
variable {ι α β : Type}

/-- The operators of a series applied from left to right. -/
def fold (value : α → β) (apply : ι → β → β → β) (s : Series ι α) : β :=
  s.more.foldl (fun total item => apply item.1 total (value item.2)) (value s.first)

/-- Whether all operands of a series are of some kind. -/
def All (p : α → Prop) (s : Series ι α) : Prop := p s.first ∧ ∀ item ∈ s.more, p item.2

instance (p : α → Prop) [DecidablePred p] : DecidablePred (All p : Series ι α → Prop) :=
  fun s => inferInstanceAs (Decidable (p s.first ∧ ∀ item ∈ s.more, p item.2))

/-- The tokens of a series. -/
def tokens (mark : ι → Mark) (tokens : α → List Token) (s : Series ι α) : List Token :=
  tokens s.first ++ s.more.flatMap fun item => .mark (mark item.1) :: tokens item.2

/-- The value of a series in one pass. -/
def onePass (value : α → β) (add : AddOp → β → β → β) (mul : MulOp → β → β → β) (s : Series Operator α) : β :=
  (s.more.foldl (fun tally item => tally.step add mul item.1 (value item.2)) (Tally.mk none (value s.first))).total add

/-- The rest of the run that some operators and operands go on with, and the runs behind it. -/
def cut : List (Operator × α) → List (MulOp × α) × List (AddOp × Series MulOp α)
  | [] => ([], [])
  | (.inl op, a) :: more => ([], (op, ⟨a, (cut more).1⟩) :: (cut more).2)
  | (.inr op, a) :: more => ((op, a) :: (cut more).1, (cut more).2)

/-- A series as runs of multiplications and divisions, as long as they can be, with additions and subtractions
between them. -/
def runs (s : Series Operator α) : Series AddOp (Series MulOp α) := ⟨⟨s.first, (cut s.more).1⟩, (cut s.more).2⟩

/-- The value of signed numbers joined by operators, in one pass. -/
def total (s : Series Operator Signed) : Float := s.onePass Signed.value AddOp.apply MulOp.apply

/-- The expression of signed numbers joined by operators, in one pass. -/
def tree (s : Series Operator Signed) : Expr :=
  s.onePass Signed.tree (fun op left right => .binary op.sign left right) fun op left right => .binary op.sign left right

/-! ## One pass and two levels -/

/-- From any tally on, one pass finishes the run and then adds and subtracts the values of the runs behind it. -/
theorem total_foldl_step (value : α → β) (add : AddOp → β → β → β) (mul : MulOp → β → β → β) (more : List (Operator × α))
    (tally : Tally β) :
    (more.foldl (fun tally item => tally.step add mul item.1 (value item.2)) tally).total add =
      (cut more).2.foldl (fun total item => add item.1 total (item.2.fold value mul))
        (Tally.total add { tally with run := (cut more).1.foldl (fun total item => mul item.1 total (value item.2)) tally.run }) := by
  induction more generalizing tally with
  | nil => rfl
  | cons item more ih =>
    obtain ⟨op | op, a⟩ := item
    · exact ih ⟨some (tally.total add, op), value a⟩
    · exact ih ⟨tally.before, mul op tally.run (value a)⟩

/-- In one pass each run is multiplied and divided from left to right, and then the values of the runs are added
and subtracted from left to right. -/
theorem onePass_eq_fold_runs (value : α → β) (add : AddOp → β → β → β) (mul : MulOp → β → β → β) (s : Series Operator α) :
    s.onePass value add mul = s.runs.fold (·.fold value mul) add :=
  total_foldl_step value add mul s.more ⟨none, value s.first⟩

/-- Two folds of a series are related when their operands are and their operators keep that. -/
theorem fold_rel {γ : Type} {R : β → γ → Prop} {value : α → β} {value' : α → γ} {apply : ι → β → β → β} {apply' : ι → γ → γ → γ}
    (operand : ∀ a, R (value a) (value' a))
    (step : ∀ op b c b' c', R b b' → R c c' → R (apply op b c) (apply' op b' c')) (s : Series ι α) :
    R (s.fold value apply) (s.fold value' apply') :=
  List.foldl_rel (operand s.first) fun item _ _ _ related => step _ _ _ _ _ related (operand item.2)

theorem onePass_rel {γ : Type} {R : β → γ → Prop} {value : α → β} {value' : α → γ} {add : AddOp → β → β → β}
    {add' : AddOp → γ → γ → γ} {mul : MulOp → β → β → β} {mul' : MulOp → γ → γ → γ} (operand : ∀ a, R (value a) (value' a))
    (onAdd : ∀ op b c b' c', R b b' → R c c' → R (add op b c) (add' op b' c'))
    (onMul : ∀ op b c b' c', R b b' → R c c' → R (mul op b c) (mul' op b' c')) (s : Series Operator α) :
    R (s.onePass value add mul) (s.onePass value' add' mul') := by
  rw [onePass_eq_fold_runs, onePass_eq_fold_runs]
  exact fold_rel (fold_rel operand onMul) onAdd s.runs

/-- The operands of a series are those of its runs. -/
theorem all_runs (p : α → Prop) (s : Series Operator α) : s.runs.All (·.All p) ↔ s.All p := by
  have behind (more : List (Operator × α)) :
      (∀ item ∈ more, p item.2) ↔ (∀ item ∈ (cut more).1, p item.2) ∧ ∀ item ∈ (cut more).2, item.2.All p := by
    induction more with
    | nil => simp [cut]
    | cons item more ih =>
      obtain ⟨op | op, a⟩ := item <;> simp only [cut, List.forall_mem_cons, ih, All, List.not_mem_nil, IsEmpty.forall_iff,
        implies_true, true_and, and_assoc]
  rw [All, All, runs, All, behind, and_assoc]

/-- The tokens of a series are those of its runs. -/
theorem tokens_runs (tokens : α → List Token) (s : Series Operator α) :
    s.runs.tokens AddOp.mark (·.tokens MulOp.mark tokens) = s.tokens Operator.mark tokens := by
  have behind (more : List (Operator × α)) :
      (more.flatMap fun item => .mark item.1.mark :: tokens item.2) =
        ((cut more).1.flatMap fun item => .mark item.1.mark :: tokens item.2) ++
          (cut more).2.flatMap fun item => .mark item.1.mark :: item.2.tokens MulOp.mark tokens := by
    induction more with
    | nil => rfl
    | cons item more ih =>
      obtain ⟨op | op, a⟩ := item <;>
        simp only [cut, List.flatMap_cons, List.flatMap_nil, List.nil_append, ih, Series.tokens, List.cons_append, List.append_assoc] <;>
        rfl
  rw [Series.tokens, Series.tokens, Series.tokens, runs, behind, List.append_assoc]

end

end Series

/-! ## The expression of a line -/

namespace Parse

section
variable {ι α : Type} {operand : List Token → Outcome Expr} {op? : Token → Option String} {mark : ι → Mark} {sign : ι → String}
  {tokens : α → List Token} {node : α → Expr} {fits : α → Prop} [DecidablePred fits] {Ahead : List Token → Prop} {rest : List Token}
  (ahead : ∀ op rest, Ahead (.mark (mark op) :: rest)) (next : Ahead rest)
  (isOp : ∀ op, op? (.mark (mark op)) = some (sign op)) (ended : ∀ token ∈ rest.head?, op? token = none)
  (reads : ∀ a rest, Ahead rest → operand (tokens a ++ rest) = .provided (fits a) (node a) rest)
include ahead next

/-- What may stand behind an operand does so, be it the next operator or what follows the last operand. -/
private theorem ahead_series (more : List (ι × α)) :
    Ahead ((more.flatMap fun item => .mark (mark item.1) :: tokens item.2) ++ rest) := by
  cases more with
  | nil => exact next
  | cons item more => exact ahead item.1 _

include isOp ended reads

/-- Operators and their operands are read from left to right, in front of what nothing goes on with. -/
theorem chainFrom_series (more : List (ι × α)) (left : Expr) {steps : Nat}
    (enough : ((more.flatMap fun item => .mark (mark item.1) :: tokens item.2) ++ rest).length ≤ steps) :
    chainFrom operand op? steps left ((more.flatMap fun item => .mark (mark item.1) :: tokens item.2) ++ rest) =
      .provided (∀ item ∈ more, fits item.2) (more.foldl (fun total item => .binary (sign item.1) total (node item.2)) left) rest := by
  induction more generalizing left steps with
  | nil => simp [Outcome.provided, chainFrom_found steps ended]
  | cons item more ih =>
    obtain ⟨op, a⟩ := item
    rw [List.flatMap_cons, List.append_assoc, List.cons_append] at enough ⊢
    cases steps with
    | zero => simp at enough
    | succ steps =>
      have later := ih (.binary (sign op) left (node a)) (show _ ≤ steps by simp at enough ⊢; omega)
      rw [chainFrom, isOp]
      simp only [reads a _ (ahead_series ahead next more)]
      by_cases here : fits a
      · simp only [Outcome.provided, here, if_true, later, List.forall_mem_cons, true_and, List.foldl_cons]
      · simp only [Outcome.provided, here, if_false, List.forall_mem_cons, false_and]

/-- A series of operands is read as one expression, grouped from the left. -/
theorem chain_series (s : Series ι α) :
    chain operand op? (s.tokens mark tokens ++ rest) =
      .provided (s.All fits) (s.fold node fun op left right => .binary (sign op) left right) rest := by
  rw [Series.tokens, List.append_assoc, chain, reads _ _ (ahead_series ahead next s.more)]
  by_cases here : fits s.first
  · simp only [Outcome.provided, here, if_true]
    rw [chainFrom_series ahead next isOp ended reads s.more (node s.first) (Nat.le_refl _)]
    simp only [Outcome.provided, Series.All, here, true_and]
    rfl
  · simp only [Outcome.provided, here, if_false, Series.All, false_and]

end

/-- A number behind its signs is an operand, nested as deep as there are signs. -/
theorem unary_signed (n : Signed) (depth : Nat) (rest : List Token) :
    unaryWithin depth (n.tokens ++ rest) = .provided (n.signs < depth) n.tree rest := by
  obtain ⟨signs, numeral, _⟩ := n
  simp only [Signed.tokens, Signed.tree]
  induction signs generalizing depth with
  | zero => cases depth <;> rfl
  | succ signs ih =>
    cases depth with
    | zero => rfl
    | succ depth =>
      rw [List.replicate_succ, List.cons_append, List.cons_append, unaryWithin, ih, Function.iterate_succ_apply']
      by_cases fits : signs < depth <;> simp [Outcome.provided, fits]

/-- A run of multiplications and divisions is a factor. -/
theorem factor_series (run : Series MulOp Signed) (depth : Nat) {rest : List Token}
    (ended : ∀ token ∈ rest.head?, factorOp? token = none) :
    factorOver (unaryWithin depth) (run.tokens MulOp.mark Signed.tokens ++ rest) =
      .provided (run.All (·.signs < depth)) (run.fold Signed.tree fun op left right => .binary op.sign left right) rest :=
  chain_series (fun _ _ => trivial) trivial (fun op => by cases op <;> rfl) ended
    (fun n rest (_ : True) => unary_signed n depth rest) run

/-- Signed numbers joined by operators are a term. -/
theorem term_series (s : Series Operator Signed) (depth : Nat) {rest : List Token}
    (noFactor : ∀ token ∈ rest.head?, factorOp? token = none) (noTerm : ∀ token ∈ rest.head?, termOp? token = none) :
    termOver (unaryWithin depth) (s.tokens Operator.mark Signed.tokens ++ rest) = .provided (s.All (·.signs < depth)) s.tree rest := by
  have isOp (op : AddOp) : termOp? (.mark op.mark) = some op.sign := by cases op <;> rfl
  -- An addition or subtraction ends the run in front of it.
  have ahead (op : AddOp) (rest : List Token) : ∀ token ∈ (Token.mark op.mark :: rest).head?, factorOp? token = none := by
    rintro token ⟨⟩
    cases op <;> rfl
  rw [← Series.tokens_runs, ← Outcome.provided_congr (Series.all_runs _ s), Series.tree, Series.onePass_eq_fold_runs]
  exact chain_series ahead noFactor isOp noTerm (fun run rest next => factor_series run depth next) s.runs

/-- A line of signed numbers joined by operators is their expression, unless the machine has no room for the signs.
It has for one sign in front of each number. -/
theorem line_series [Machine] (s : Series Operator Signed) :
    (s.All (·.signs < 2) → Machine.readsTooDeep 2 .expression (s.tokens Operator.mark Signed.tokens ++ [.endOfLine]) = false) ∧
      line (s.tokens Operator.mark Signed.tokens ++ [.endOfLine]) =
        if Machine.readsTooDeep 2 .expression (s.tokens Operator.mark Signed.tokens ++ [.endOfLine]) then .error .tooDeep
        else .ok (some s.tree) := by
  refine line_provided (fun depth => s.All (·.signs < depth)) fun depth => ?_
  have noName : ∀ name m more, s.tokens Operator.mark Signed.tokens ++ [.endOfLine] = .name name :: .mark m :: more → ¬ Assigns m := by
    intro name m more shape
    cases signs : s.first.signs <;> simp [Series.tokens, Signed.tokens, signs, List.replicate_succ] at shape
  show statementOver (unaryWithin depth) _ = _
  rw [statement_eq_term noName]
  exact term_series s depth (by simp [factorOp?]) (by simp [termOp?])

end Parse

/-! ## The value of the expression -/

namespace Eval

variable [Machine]

/-- Whether an expression, below any others, is evaluated to a number over every store, unless the machine has no
room for it. -/
def Computes (tree : Expr) (x : Float) : Prop :=
  ∀ above store, value above tree store = if HasRoom (tree.moments above) then .ok (.number x) store else .error .tooDeep store

variable {tree tree' : Expr} {x y : Float}

/-- A node whose operands have values, unless there is no room for them, has a value with the same proviso. -/
theorem node_provided {α : Type} {path : List Expr} {operands : Step α} {moments : List Moment} {a : α} {store : Store}
    (given : operands store = if HasRoom moments then .ok a store else .error .tooDeep store) (node : Node) {last : α → Step Value}
    (applied : last a store = .ok (.number x) store) :
    Eval.node path operands last store =
      if HasRoom (Moment.around path node moments) then .ok (.number x) store else .error .tooDeep store := by
  rw [node_eq, given]
  simp only [hasRoom_around_iff]
  by_cases full : Machine.entersTooDeep path = true
  · simp [full]
  by_cases room : HasRoom moments
  · by_cases full' : Machine.appliesTooDeep path = true <;> simp [full, room, full', applied]
  · simp [full, room]

theorem computes_number (x : Float) : Computes (.number x) x := by
  intro above store
  have none : (pure () : Step Unit) store = if HasRoom [] then .ok () store else .error .tooDeep store :=
    (if_pos (List.forall_mem_nil _)).symm
  exact node_provided none _ rfl

theorem Computes.negate (computes : Computes tree x) : Computes (.unary "-" tree) (-x) :=
  fun above store => node_provided (computes (.unary "-" tree :: above) store) _ rfl

/-- An operator is applied to the values of its operands. -/
theorem Computes.binary {op : String} {f : Float → Float → Float} (isOp : Builtin.arithmetic? op = some f)
    (left : Computes tree x) (right : Computes tree' y) : Computes (.binary op tree tree') (f x y) := by
  have applied : Builtin.binary op (.number x) (.number y) = .ok (.number (f x y)) := by
    show Builtin.onNumbers op (.number x) (.number y) = _
    simp only [Builtin.onNumbers, Builtin.operand, isOp]
    rfl
  intro above store
  have first := left (.binary op tree tree' :: above) store
  have second := right (.binary op tree tree' :: above) store
  refine node_provided (a := (Value.number x, Value.number y)) ?_ _ (by rw [applied]; rfl)
  simp only [hasRoom_append_iff]
  rw [bind_eq, first]
  by_cases room : HasRoom (tree.moments (.binary op tree tree' :: above))
  · simp only [room, if_true, bind_eq, second, true_and]
    by_cases room' : HasRoom (tree'.moments (.binary op tree tree' :: above))
    · simp only [room', if_true]
      rfl
    · simp only [room', if_false]
  · simp only [room, if_false, false_and]

theorem computes_signed (n : Signed) : Computes n.tree n.value := by
  obtain ⟨signs, numeral, _⟩ := n
  simp only [Signed.tree, Signed.value]
  induction signs with
  | zero => exact computes_number _
  | succ signs ih =>
    rw [Function.iterate_succ_apply', Function.iterate_succ_apply']
    exact ih.negate

/-- The expression of signed numbers joined by operators is evaluated to their value in one pass. -/
theorem computes_tree (s : Series Operator Signed) : Computes s.tree s.total := by
  refine Series.onePass_rel computes_signed (fun op _ _ _ _ => Computes.binary ?_) (fun op _ _ _ _ => Computes.binary ?_) s
  · cases op <;> rfl
  · cases op <;> rfl

end Eval

/-! ## The characters of a line -/

namespace Scan

/-- `Spaced tokens text`: a text is some tokens in a row, with gaps in front of, between and behind them or none. -/
inductive Spaced : List Token → List Char → Prop
  | nil : Spaced [] []
  | gap {c : Char} {tokens : List Token} {text : List Char} (gap : isGap c = true) (spaced : Spaced tokens text) :
      Spaced tokens (c :: text)
  | token (token : Token) {tokens : List Token} {text : List Char} (spaced : Spaced tokens text) :
      Spaced (token :: tokens) (token.lexeme.toList ++ text)

/-- Whether some tokens are marks other than points and written numbers, with a mark behind each number but the last. -/
inductive Separate : List Token → Prop
  | nil : Separate []
  | mark {m : Mark} {tokens : List Token} (noPoint : m ≠ .dot) (separate : Separate tokens) : Separate (.mark m :: tokens)
  | number {n : Numeral} {tokens : List Token} (written : n.Written) (marked : ∀ token ∈ tokens.head?, ∃ m, token = .mark m)
      (separate : Separate tokens) : Separate (.number n :: tokens)

variable {tokens : List Token} {text : List Char}

theorem Spaced.mark (m : Mark) (spaced : Spaced tokens text) : Spaced (.mark m :: tokens) (m.char :: text) := by
  simpa [Token.lexeme] using spaced.token (.mark m)

theorem Spaced.number (n : Numeral) (spaced : Spaced tokens text) : Spaced (.number n :: tokens) (n.chars ++ text) := by
  simpa [Token.lexeme, Numeral.lexeme] using spaced.token (.number n)

/-- In front of a mark or the end of the line a number ends. -/
theorem Spaced.apart (spaced : Spaced tokens text) (separate : Separate tokens)
    (marked : ∀ token ∈ tokens.head?, ∃ m, token = .mark m) : Apart text := by
  cases spaced with
  | nil => simp [Apart]
  | gap gap spaced => exact apart_of_isGap gap _
  | token token spaced =>
    obtain ⟨m, rfl⟩ := marked token rfl
    cases separate with
    | mark noPoint =>
      simpa [Apart, Token.lexeme] using Expr.apart_mark m noPoint

/-- However they are spaced, separate tokens are read. -/
theorem Spaced.chars_eq (spaced : Spaced tokens text) (separate : Separate tokens) :
    chars text = ⟨tokens ++ [.endOfLine], none⟩ := by
  induction spaced with
  | nil => simp [chars]
  | gap gap spaced ih => rw [chars_of_isGap gap, ih separate]
  | token token spaced ih =>
    cases separate with
    | @mark m _ noPoint separate =>
      have lexeme : (Token.mark m).lexeme.toList = [m.char] := by simp [Token.lexeme]
      rw [lexeme, List.singleton_append, chars_of_mark, ih separate]
      rfl
    | @number n _ written marked separate =>
      have lexeme : (Token.number n).lexeme.toList = n.chars := by simp [Token.lexeme, Numeral.lexeme]
      have apart := spaced.apart separate marked
      rw [lexeme, (written.lexeme fun c mem => (apart c mem).2).chars_eq, ih separate]
      rfl

theorem separate_signed (n : Signed) (separate : Separate tokens) (marked : ∀ token ∈ tokens.head?, ∃ m, token = .mark m) :
    Separate (n.tokens ++ tokens) := by
  obtain ⟨signs, numeral, written⟩ := n
  simp only [Signed.tokens]
  induction signs with
  | zero => exact .number written marked separate
  | succ signs ih => exact .mark nofun ih

/-- The tokens of signed numbers joined by operators do not run into each other. -/
theorem separate_series (s : Series Operator Signed) : Separate (s.tokens Operator.mark Signed.tokens) := by
  have behind (more : List (Operator × Signed)) :
      Separate (more.flatMap fun item => .mark item.1.mark :: item.2.tokens) ∧
        ∀ token ∈ (more.flatMap fun item => Token.mark item.1.mark :: item.2.tokens).head?, ∃ m, token = .mark m := by
    induction more with
    | nil => exact ⟨.nil, by simp⟩
    | cons item more ih =>
      obtain ⟨op, n⟩ := item
      have noPoint : op.mark ≠ .dot := by rcases op with op | op <;> cases op <;> nofun
      exact ⟨.mark noPoint (separate_signed n ih.1 ih.2), by simp⟩
  exact separate_signed s.first (behind s.more).1 (behind s.more).2

end Scan

namespace Calculation

/-- A line of signed numbers joined by operators, however it is spaced, is calculated to their value in one pass,
without a fault and without a change to the store. Only a machine without room for it fails: for the signs in front
of a number when it is read, which has none before the second sign, or else for the signs and operators when it is
evaluated. -/
theorem run_onePass [Machine] {s : Series Operator Signed} {text : String}
    (spaced : Scan.Spaced (s.tokens Operator.mark Signed.tokens) text.toList) (store : Store) :
    (s.All (·.signs < 2) → Machine.readsTooDeep 2 .expression (Scan.line text).tokens = false) ∧
      run text store =
        if Machine.readsTooDeep 2 .expression (Scan.line text).tokens then (⟨.number 0, none, some .tooDeep, none⟩, store)
        else if s.tree.Fits then (⟨.number s.total, none, none, none⟩, store)
        else (⟨.number 0, some .tooDeep, none, none⟩, store) := by
  have scanned : Scan.line text = ⟨s.tokens Operator.mark Signed.tokens ++ [.endOfLine], none⟩ :=
    spaced.chars_eq (Scan.separate_series s)
  obtain ⟨few, read⟩ := Parse.line_series s
  rw [← show (Scan.line text).tokens = s.tokens Operator.mark Signed.tokens ++ [.endOfLine] by rw [scanned]] at few read
  refine ⟨few, ?_⟩
  by_cases full : Machine.readsTooDeep 2 .expression (Scan.line text).tokens = true
  · rw [if_pos full] at read ⊢
    rw [run_of_fault read, scanned]
  · rw [if_neg full] at read ⊢
    rw [run_of_tree read, scanned]
    simp only [Eval.run, Eval.expr, Eval.computes_tree s [] store]
    have fits_iff : s.tree.Fits ↔ Eval.HasRoom (s.tree.moments []) := Iff.rfl
    simp only [fits_iff]
    by_cases fits : Eval.HasRoom (s.tree.moments []) <;> simp only [fits, if_true, if_false]

/-- One minus twice minus three quarters, less a half. -/
def quarters : Series Operator Signed :=
  ⟨⟨0, ⟨['1'], []⟩, by simp, by simp; decide, by simp⟩,
    [(.inl .minus, ⟨0, ⟨['2'], []⟩, by simp, by simp; decide, by simp⟩),
      (.inr .times, ⟨1, ⟨['3'], []⟩, by simp, by simp; decide, by simp⟩),
      (.inr .divide, ⟨0, ⟨['4'], []⟩, by simp, by simp; decide, by simp⟩),
      (.inl .plus, ⟨1, ⟨['0'], ['5']⟩, by simp, by simp; decide, by simp; decide⟩)]⟩

theorem run_onePass_quarters :
    letI := Machine.usual
    run " 1 -2*- 3/4  +-0.5 " {} = (⟨.number (Binary64.nearest 2 1), none, none, none⟩, {}) := by
  let _ := Machine.usual
  have last : Scan.Spaced [.number ⟨['0'], ['5']⟩] "0.5 ".toList := .number ⟨['0'], ['5']⟩ (.gap rfl .nil)
  have half : Scan.Spaced [.mark .plus, .mark .minus, .number ⟨['0'], ['5']⟩] "  +-0.5 ".toList :=
    .gap rfl (.gap rfl (.mark .plus (.mark .minus last)))
  have run : Scan.Spaced (.mark .minus :: .number ⟨['3'], []⟩ :: .mark .slash :: .number ⟨['4'], []⟩ :: _) "- 3/4  +-0.5 ".toList :=
    .mark .minus (.gap rfl (.number ⟨['3'], []⟩ (.mark .slash (.number ⟨['4'], []⟩ half))))
  have spaced : Scan.Spaced (quarters.tokens Operator.mark Signed.tokens) " 1 -2*- 3/4  +-0.5 ".toList :=
    .gap rfl (.number ⟨['1'], []⟩ (.gap rfl (.mark .minus (.number ⟨['2'], []⟩ (.mark .star run)))))
  have value : quarters.total = Binary64.nearest 2 1 := by decide +kernel
  obtain ⟨few, calculated⟩ := run_onePass spaced {}
  rw [calculated, few (by decide), if_neg Bool.false_ne_true, if_pos (by decide), value]

end Calculation

end OutlineCalc
