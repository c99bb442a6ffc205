import OutlineCalc.Proofs.Execution
import OutlineCalc.Proofs.Texts

/-!
What can go wrong with numbers alone. An expression without texts that is evaluated over a store without texts
comes to no text on the way, and on numbers no operator fails and no function. So the only faults left are those
of the calls, which can be seen without evaluating anything: the first call that names no function, or that does
not have as many arguments as the function takes, is the one that is reported.
-/

namespace OutlineCalc

namespace Builtin

/-- The names of the functions, with how many arguments each of them takes. -/
def arities : List (String × Nat) :=
  [("sin", 1), ("cos", 1), ("tan", 1), ("asin", 1), ("acos", 1), ("atan", 1), ("abs", 1), ("clamp", 3)]

theorem lookup_arities [Machine] (name : String) : arities.lookup name = (function? name).map Function.arity := by
  unfold function?
  split
  case h_9 =>
    simp only [Option.map_none, List.lookup_eq_none_iff]
    simp_all [arities]
  all_goals rfl

theorem mem_arities_iff {name : String} {count : Nat} : (name, count) ∈ arities ↔ arities.lookup name = some count := by
  constructor
  · intro mem
    have own : ∀ entry ∈ arities, arities.lookup entry.1 = some entry.2 := by decide
    exact own _ mem
  · intro found
    obtain ⟨before, after, split, -⟩ := List.lookup_eq_some_iff.mp found
    rw [split]
    exact List.mem_append_right _ List.mem_cons_self

end Builtin

/-- The fault that a call has whatever the values of its arguments are. The name of the function is looked at before
the number of arguments. -/
def Node.callFault? : Node → Option Fault
  | .call function count =>
    match Builtin.arities.lookup function with
    | none => some (.unknownFunction function)
    | some takes => if count = takes then none else some (.argumentCount function takes count)
  | _ => none

theorem Node.callFault?_call_eq_none {name : String} {count : Nat} :
    (call name count).callFault? = none ↔ (name, count) ∈ Builtin.arities := by
  rw [Builtin.mem_arities_iff, callFault?]
  cases Builtin.arities.lookup name with
  | none => simp
  | some takes => simp [eq_comm]

/-- Whether a node is of numbers: no text, and no operator but the minus sign on one and the four signs on two. -/
def Node.Arithmetic : Node → Prop
  | .text _ => False
  | .unary op => op = "-"
  | .binary op => op ∈ ["+", "-", "*", "/"]
  | _ => True

/-- Whether no name is bound to a text. -/
def Store.TextFree (store : Store) : Prop := ∀ name s, store.get? name ≠ some (.text s)

/-- Whether all calls of an expression are of functions that there are, with as many arguments as they take. -/
def Expr.CallsRight (tree : Expr) : Prop := ∀ name count, .call name count ∈ tree.postorder → (name, count) ∈ Builtin.arities

/-- The fault of the first call of an expression that has one, arguments before the call that they belong to. -/
def Expr.callFault? (tree : Expr) : Option Fault := tree.postorder.findSome? Node.callFault?

theorem Expr.callFault?_eq_none {tree : Expr} : tree.callFault? = none ↔ tree.CallsRight := by
  rw [callFault?, List.findSome?_eq_none_iff]
  constructor
  · intro none name count mem
    exact Node.callFault?_call_eq_none.mp (none _ mem)
  · intro right node mem
    cases node with
    | call name count => exact Node.callFault?_call_eq_none.mpr (right name count mem)
    | _ => rfl

/-- A call around one that is not right does not come to be looked at. -/
theorem Expr.callFault?_eq_of_nested {tree arg : Expr} {before after : List Node} {name : String} {args : List Expr}
    (nodes : tree.postorder = before ++ (call name args).postorder ++ after) (mem : arg ∈ args) (wrong : ¬ arg.CallsRight) :
    tree.callFault? = (before ++ postorders args).findSome? Node.callFault? := by
  have inside : (before ++ postorders args).findSome? Node.callFault? ≠ none := by
    intro none
    rw [List.findSome?_eq_none_iff] at none
    apply wrong
    intro other count within
    have among : .call other count ∈ before ++ postorders args :=
      List.mem_append_right _ (mem_postorders.mpr ⟨arg, mem, within⟩)
    exact Node.callFault?_call_eq_none.mp (none _ among)
  obtain ⟨fault, found⟩ := Option.ne_none_iff_exists'.mp inside
  rw [callFault?, nodes, postorder, ← List.append_assoc, List.append_assoc, List.findSome?_append, found, Option.some_or]

namespace Eval

variable {store : Store} {node : Node} {operands : List Value}

theorem textFree_bound (node : Node) {value : Value} (number : IsNumber value) (textFree : store.TextFree) :
    (bound node value store).TextFree := by
  intro name s
  cases node with
  | assign other =>
    rw [bound, Store.get?_set]
    by_cases here : name = other
    · rw [if_pos here, Ne, Option.some_inj]
      exact number s
    · rw [if_neg here]
      exact textFree name s
  | _ => exact textFree name s

section
variable [Machine]

theorem Gives.eq_error {outcome : Except Fault Value} (gives : Gives store node operands outcome) {fault : Fault}
    (faulty : node.callFault? = some fault) : outcome = .error fault := by
  cases gives with
  | call name =>
    rw [Node.callFault?, Builtin.lookup_arities] at faulty
    rw [Builtin.call]
    cases known : Builtin.function? name with
    | none =>
      rw [known] at faulty
      exact congrArg Except.error (Option.some.inj faulty)
    | some function =>
      simp only [known, Option.map_some] at faulty ⊢
      by_cases right : operands.length = function.arity
      · rw [if_pos right] at faulty
        contradiction
      · rw [if_neg right] at faulty ⊢
        exact congrArg Except.error (Option.some.inj faulty)
  | _ => contradiction

/-- On numbers a node of numbers gives a number, unless it is a call with a fault of its own. -/
theorem Gives.isNumber {outcome : Except Fault Value} (gives : Gives store node operands outcome) (arithmetic : node.Arithmetic)
    (textFree : store.TextFree) (numbers : ∀ v ∈ operands, IsNumber v)
    (faultless : node.callFault? = none) : ∃ value, outcome = .ok value ∧ IsNumber value := by
  cases gives with
  | number x => exact ⟨.number x, rfl, isNumber_number x⟩
  | text => exact arithmetic.elim
  | name name => exact ⟨store.get name, rfl, fun s text => textFree name s ((store.get_eq_text_iff name s).mp text)⟩
  | unary op v =>
    obtain rfl : op = "-" := arithmetic
    have number : IsNumber v := numbers v List.mem_cons_self
    obtain ⟨x, operand⟩ := operand_eq "-" number
    refine ⟨Builtin.negation v, ?_, isNumber_negation number⟩
    rw [Builtin.unary, operand]
    rfl
  | binary op x y =>
    have number : IsNumber x := numbers x List.mem_cons_self
    have number' : IsNumber y := numbers y (List.mem_cons_of_mem x List.mem_cons_self)
    obtain ⟨a, first⟩ := operand_eq op number
    obtain ⟨b, second⟩ := operand_eq op number'
    obtain ⟨f, known⟩ := Option.ne_none_iff_exists'.mp fun unknown => arithmetic?_eq_none unknown arithmetic
    refine ⟨.number (f a b), ?_, isNumber_number _⟩
    rw [binary_eq_onNumbers fun s text => absurd text (number s), Builtin.onNumbers, first, second, known]
    rfl
  | assign name v => exact ⟨v, rfl, numbers v List.mem_cons_self⟩
  | call name =>
    rw [Node.callFault?_call_eq_none, Builtin.mem_arities_iff, Builtin.lookup_arities, Option.map_eq_some_iff] at faultless
    obtain ⟨function, known, right⟩ := faultless
    obtain ⟨inputs, taken, length⟩ := mapM_operand_numbers (name ++ "()") numbers
    obtain ⟨x, applied⟩ := exists_result (length.trans right.symm)
    refine ⟨.number x, ?_, isNumber_number x⟩
    simp only [Builtin.call, known, right, if_true, taken, bind, Except.bind, applied]

/-- Over numbers only numbers come about, and no call that is performed has a fault of its own. -/
theorem Performs.of_numbers {s s' : State} {done : List (Node × Value)} (performs : Performs s done s')
    (arithmetic : ∀ node ∈ done.map Prod.fst, node.Arithmetic) (textFree : s.store.TextFree) (numbers : ∀ v ∈ s.stack, IsNumber v) :
    s'.store.TextFree ∧ (∀ v ∈ s'.stack, IsNumber v) ∧ ∀ node ∈ done.map Prod.fst, node.callFault? = none := by
  induction performs with
  | nothing => exact ⟨textFree, numbers, List.forall_mem_nil _⟩
  | @node node operands below value store done s gives more ih =>
    rw [List.map_cons, List.forall_mem_cons] at arithmetic ⊢
    rw [List.forall_mem_append] at numbers
    obtain ⟨inputs, below⟩ := numbers
    have faultless : node.callFault? = none := by
      cases faulty : node.callFault? with
      | none => rfl
      | some fault =>
        have failed := gives.eq_error faulty
        contradiction
    have values : ∀ v ∈ operands, IsNumber v := fun v mem => inputs v (List.mem_reverse.mpr mem)
    obtain ⟨_, same, number⟩ := gives.isNumber arithmetic.1 textFree values faultless
    obtain rfl := Except.ok.inj same
    have kept := textFree_bound node number textFree
    obtain ⟨textFree, numbers, rest⟩ := ih arithmetic.2 kept (List.forall_mem_cons.mpr ⟨number, below⟩)
    exact ⟨textFree, numbers, faultless, rest⟩

/-- What is performed of an expression of numbers ends with a number, or with the fault of the first call that has one. -/
theorem Executes.of_numbers {tree : Expr} {result : Result} {done : List (Node × Value)} {final : Store}
    (executes : Executes tree store result done final) (arithmetic : ∀ node ∈ tree.postorder, node.Arithmetic)
    (textFree : store.TextFree) (shallow : result.fault ≠ some .tooDeep) :
    IsNumber result.value ∧ result.fault = tree.callFault? ∧ (result.fault ≠ none → result.value = .number 0) := by
  rw [Expr.callFault?]
  cases executes with
  | all performs every =>
    rw [every] at arithmetic ⊢
    obtain ⟨_, numbers, passed⟩ := performs.of_numbers arithmetic textFree (List.forall_mem_nil _)
    refine ⟨numbers _ List.mem_cons_self, ?_, absurd rfl⟩
    exact (List.findSome?_eq_none_iff.mpr passed).symm
  | @upTo _ node rest operands below fault _ performs before fails =>
    rw [before, List.forall_mem_append, List.forall_mem_cons] at arithmetic
    obtain ⟨textFree, numbers, passed⟩ := performs.of_numbers arithmetic.1 textFree (List.forall_mem_nil _)
    have inputs : ∀ v ∈ operands, IsNumber v :=
      fun v mem => numbers v (List.mem_append_left _ (List.mem_reverse.mpr mem))
    have given : Gives final node operands (.error fault) := gives_error_iff.mpr fails
    refine ⟨isNumber_number 0, ?_, fun _ => rfl⟩
    rw [before, List.findSome?_append, List.findSome?_eq_none_iff.mpr passed, Option.none_or, List.findSome?_cons]
    cases faulty : node.callFault? with
    | none =>
      obtain ⟨_, number, _⟩ := given.isNumber arithmetic.2.1 textFree inputs faulty
      contradiction
    | some fault => exact congrArg some (Except.error.inj (given.eq_error faulty))
  | tooDeep => exact absurd rfl shallow

/-- Over numbers an expression of numbers, unless it is nested too deep, comes to a number without a fault if and only
if all its calls are right. Otherwise it comes to zero, with the fault of its first call that has one, which is never a
call that has such a one among its arguments. -/
theorem run_arithmetic (tree : Expr) (store : Store) (arithmetic : ∀ node ∈ tree.postorder, node.Arithmetic)
    (textFree : store.TextFree) (shallow : (run (some tree) store).1.fault ≠ some .tooDeep) :
    let result := (run (some tree) store).1
    (IsNumber result.value ∧ result.fault = none ↔ tree.CallsRight) ∧
      (¬ tree.CallsRight → result.value = .number 0 ∧ ∃ fault, result.fault = some fault) ∧
      result.fault = tree.callFault? ∧
      ∀ before name args after, tree.postorder = before ++ (Expr.call name args).postorder ++ after →
        ∀ arg ∈ args, ¬ arg.CallsRight → result.fault = (before ++ Expr.postorders args).findSome? Node.callFault? := by
  intro result
  obtain ⟨done, executes⟩ := exists_executes tree store
  obtain ⟨number, same, zero⟩ := executes.of_numbers arithmetic textFree shallow
  rw [← Expr.callFault?_eq_none, ← same]
  refine ⟨and_iff_right number, fun faulty => ?_, rfl, ?_⟩
  · exact ⟨zero faulty, Option.ne_none_iff_exists'.mp faulty⟩
  · intro before name args after nodes arg mem wrong
    exact same.trans (Expr.callFault?_eq_of_nested nodes mem wrong)

end

/-- `total = -rate * abs(sqrt(2), clamp(1))`, which calls a function that there is not for an argument that is one too
many. -/
def misCalled : Expr :=
  .assign "total" (.binary "*" (.unary "-" (.name "rate"))
    (.call "abs" [.call "sqrt" [.number 2], .call "clamp" [.number 1]]))

/-- The call that is evaluated first is reported, not the one around it. -/
theorem run_arithmetic_misCalled :
    letI := Machine.usual
    (∀ node ∈ misCalled.postorder, node.Arithmetic) ∧
      ({ bindings := [("rate", .number 3)] } : Store).TextFree ∧
      (run (some misCalled) { bindings := [("rate", .number 3)] }).1.fault = some (.unknownFunction "sqrt") := by
  let _ := Machine.usual
  have arithmetic : ∀ node ∈ misCalled.postorder, node.Arithmetic := by
    simp [misCalled, Expr.postorder, Expr.postorders, Node.Arithmetic]
  have textFree : ({ bindings := [("rate", .number 3)] } : Store).TextFree := by
    intro name s
    by_cases rate : name = "rate" <;> simp [Store.get?, Store.lookup, rate]
  have shallow := (run_ordered misCalled { bindings := [("rate", .number 3)] }).1 (by decide)
  obtain ⟨_, _, first, _⟩ := run_arithmetic misCalled _ arithmetic textFree shallow
  exact ⟨arithmetic, textFree, first.trans (by decide)⟩

end Eval

end OutlineCalc
