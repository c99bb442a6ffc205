import OutlineCalc.Eval

/-!
In which order an expression is evaluated. Its nodes are performed one after the other, operands from
left to right before the node that they belong to, and only an assignment changes the store. The
first node that fails on the values of its operands ends the evaluation, and what was bound before
it stays bound.
-/

namespace OutlineCalc

/-- A node of an expression without its operands; a call knows how many it has. -/
inductive Node where
  | number (value : Float)
  | text (content : String)
  | name (name : String)
  | unary (op : String)
  | binary (op : String)
  | assign (name : String)
  | call (name : String) (count : Nat)

mutual

/-- The nodes of an expression, operands from left to right and then the node they belong to. -/
def Expr.postorder : Expr → List Node
  | .number x => [.number x]
  | .text s => [.text s]
  | .name n => [.name n]
  | .unary op operand => operand.postorder ++ [.unary op]
  | .binary op left right => left.postorder ++ right.postorder ++ [.binary op]
  | .assign n value => value.postorder ++ [.assign n]
  | .call n args => Expr.postorders args ++ [.call n args.length]

/-- The nodes of some expressions, one expression after the other. -/
def Expr.postorders : List Expr → List Node
  | [] => []
  | e :: es => e.postorder ++ Expr.postorders es

end

theorem Expr.mem_postorders {args : List Expr} {node : Node} : node ∈ postorders args ↔ ∃ e ∈ args, node ∈ e.postorder := by
  induction args with
  | nil => simp [postorders]
  | cons e args ih => simp [postorders, ih]

/-- Induction from the operands up: what holds of every expression whose operands it holds of holds of all. -/
@[elab_as_elim]
theorem Expr.induct {motive : Expr → Prop} (number : ∀ x, motive (.number x)) (text : ∀ s, motive (.text s))
    (name : ∀ n, motive (.name n)) (unary : ∀ op operand, motive operand → motive (.unary op operand))
    (binary : ∀ op left right, motive left → motive right → motive (.binary op left right))
    (assign : ∀ n value, motive value → motive (.assign n value))
    (call : ∀ n args, (∀ e ∈ args, motive e) → motive (.call n args)) (e : Expr) : motive e :=
  @Expr.rec motive (fun args => ∀ e ∈ args, motive e) number text name unary binary assign call (List.forall_mem_nil motive)
    (fun _ _ first rest => List.forall_mem_cons.mpr ⟨first, rest⟩) e

namespace Eval

/-! ## Numbers and texts as operands -/

/-- Whether a value counts as a number. -/
def IsNumber (v : Value) : Prop := ∀ s, v ≠ .text s

theorem isNumber_number (x : Float) : IsNumber (.number x) := nofun

private theorem isNumber_unset : IsNumber .unset := nofun

theorem operand_eq {v : Value} (op : String) (number : IsNumber v) : ∃ x, Builtin.operand op v = .ok x := by
  cases v with
  | number x => exact ⟨x, rfl⟩
  | text s => exact absurd rfl (number s)
  | unset => exact ⟨0, rfl⟩

private theorem isNumber_or (v : Value) : (∃ s, v = .text s) ∨ IsNumber v := by
  cases v with
  | number x => exact .inr (isNumber_number x)
  | text s => exact .inl ⟨s, rfl⟩
  | unset => exact .inr isNumber_unset

theorem arithmetic?_eq_none {op : String} (unknown : Builtin.arithmetic? op = none) :
    op ∉ ["+", "-", "*", "/"] := by
  intro mem
  simp only [List.mem_cons, List.not_mem_nil, or_false] at mem
  rcases mem with rfl | rfl | rfl | rfl <;> simp [Builtin.arithmetic?] at unknown

/-- Values are all numbers, or one of them is the first text. -/
private theorem numbers_or_text (args : List Value) : (∀ v ∈ args, IsNumber v) ∨
    ∃ before s after, args = before ++ .text s :: after ∧ ∀ v ∈ before, IsNumber v := by
  induction args with
  | nil => exact .inl (by simp)
  | cons v args ih =>
    obtain ⟨s, rfl⟩ | number := isNumber_or v
    · exact .inr ⟨[], s, args, rfl, by simp⟩
    · obtain numbers | ⟨before, s, after, rfl, numbers⟩ := ih
      · exact .inl (List.forall_mem_cons.mpr ⟨number, numbers⟩)
      · exact .inr ⟨v :: before, s, after, rfl, List.forall_mem_cons.mpr ⟨number, numbers⟩⟩

theorem mapM_operand_numbers (op : String) {args : List Value} (all : ∀ v ∈ args, IsNumber v) :
    ∃ numbers, args.mapM (Builtin.operand op) = .ok numbers ∧ numbers.length = args.length := by
  induction args with
  | nil => exact ⟨[], rfl, rfl⟩
  | cons v args ih =>
    obtain ⟨x, operand⟩ := operand_eq op (all v List.mem_cons_self)
    obtain ⟨numbers, mapped, length⟩ := ih fun w mem => all w (List.mem_cons_of_mem v mem)
    exact ⟨x :: numbers, by rw [List.mapM_cons, operand, mapped]; rfl, by simp [length]⟩

private theorem mapM_operand_text (op s : String) {before : List Value} (all : ∀ v ∈ before, IsNumber v)
    (after : List Value) : (before ++ .text s :: after).mapM (Builtin.operand op) = .error (.textOperand op s) := by
  induction before with
  | nil =>
    rw [List.nil_append, List.mapM_cons]
    rfl
  | cons v before ih =>
    obtain ⟨x, operand⟩ := operand_eq op (all v List.mem_cons_self)
    rw [List.cons_append, List.mapM_cons, operand, ih fun w mem => all w (List.mem_cons_of_mem v mem)]
    rfl

/-- A function applies to as many numbers as it takes. -/
theorem exists_result {function : Builtin.Function} {numbers : List Float} (right : numbers.length = function.arity) :
    ∃ result, function.result? numbers = some result := by
  rw [← Option.isSome_iff_exists, function.isSome_result?, right, decide_eq_true rfl]

/-- All but two texts with a plus sign between them are looked at as numbers. -/
theorem binary_eq_onNumbers {op : String} {left right : Value}
    (unjoined : ∀ s, left = .text s → op = "+" → IsNumber right) :
    Builtin.binary op left right = Builtin.onNumbers op left right := by
  unfold Builtin.binary
  split
  · rename_i s t
    rw [if_neg fun plus => unjoined s rfl plus t rfl]
  · rfl

private theorem arithmetic?_of_unknown {op : String} (unknown : op ∉ ["+", "-", "*", "/"]) :
    Builtin.arithmetic? op = none := by
  simp only [List.mem_cons, List.not_mem_nil, or_false, not_or] at unknown
  simp [Builtin.arithmetic?, unknown]

/-! ## Nodes -/

/-- The values of nodes that no node has used yet, the latest first, and the store. -/
structure State where
  stack : List Value
  store : Store

/-- The store after a node has got a value. -/
def bound : Node → Value → Store → Store
  | .assign name, value, store => store.set name value
  | _, _, store => store

/-- The names and values of the assignments among some nodes. -/
def assigned (done : List (Node × Value)) : List (String × Value) :=
  done.filterMap fun
    | (.assign name, value) => some (name, value)
    | _ => none

/-! ## Steps of an evaluation -/

theorem bind_eq {α β : Type} (first : Step α) (next : α → Step β) (store : Store) :
    (first >>= next) store = match first store with
      | .ok a store => next a store
      | .error fault store => .error fault store := by
  show EStateM.bind first next store = _
  rw [EStateM.bind]
  cases first store <;> rfl

theorem lift_eq (outcome : Except Fault Value) {node : Node} {store : Store}
    (unchanged : ∀ value, bound node value store = store) :
    (lift outcome : Step Value) store = match outcome with
      | .ok value => .ok value (bound node value store)
      | .error fault => .error fault store := by
  cases outcome with
  | error fault => rfl
  | ok value =>
    simp only [unchanged]
    rfl

/-- Whether an evaluation is never nested too deep. -/
def StaysWithin {α : Type} (evaluation : Step α) : Prop :=
  ∀ store store', evaluation store ≠ .error .tooDeep store'

theorem StaysWithin.bind {α β : Type} {first : Step α} {next : α → Step β} (within : StaysWithin first)
    (within' : ∀ a, StaysWithin (next a)) : StaysWithin (first >>= next) := by
  intro store store' deep
  rw [bind_eq] at deep
  cases outcome : first store with
  | ok a after =>
    rw [outcome] at deep
    exact within' a after store' deep
  | error fault after =>
    rw [outcome] at deep
    obtain ⟨rfl, rfl⟩ := EStateM.Result.error.inj deep
    exact within store after outcome

theorem staysWithin_pure {α : Type} (a : α) : StaysWithin (pure a) := fun _ _ => nofun

section
variable [Machine]

/-- `Gives store node operands outcome`: what a node gives by itself, over a store and the values of
its operands. -/
inductive Gives (store : Store) : Node → List Value → Except Fault Value → Prop
  | number (x : Float) : Gives store (.number x) [] (.ok (.number x))
  | text (s : String) : Gives store (.text s) [] (.ok (.text s))
  | name (name : String) : Gives store (.name name) [] (.ok (store.get name))
  | unary (op : String) (v : Value) : Gives store (.unary op) [v] (Builtin.unary op v)
  | binary (op : String) (x y : Value) : Gives store (.binary op) [x, y] (Builtin.binary op x y)
  | assign (name : String) (v : Value) : Gives store (.assign name) [v] (.ok v)
  | call (name : String) (args : List Value) : Gives store (.call name args.length) args (Builtin.call name args)

/-- `Fails node operands fault`: why a node fails on the values of its operands. A text is no operand
of an operator other than the plus sign between two texts, and no argument; operators and functions
have to be known, and functions take so many arguments. -/
inductive Fails : Node → List Value → Fault → Prop
  | unaryText (op s : String) : Fails (.unary op) [.text s] (.textOperand op s)
  | unaryUnknown {op : String} {v : Value} (number : IsNumber v) (unknown : op ≠ "-") :
      Fails (.unary op) [v] (.unknownUnaryOp op)
  | leftText {op s : String} {right : Value} (unjoined : op = "+" → IsNumber right) :
      Fails (.binary op) [.text s, right] (.textOperand op s)
  | rightText {op s : String} {left : Value} (number : IsNumber left) :
      Fails (.binary op) [left, .text s] (.textOperand op s)
  | binaryUnknown {op : String} {left right : Value} (number : IsNumber left) (number' : IsNumber right)
      (unknown : op ∉ ["+", "-", "*", "/"]) : Fails (.binary op) [left, right] (.unknownOp op)
  | unknownFunction {name : String} (unknown : Builtin.function? name = none) (args : List Value) :
      Fails (.call name args.length) args (.unknownFunction name)
  | argumentCount {name : String} {function : Builtin.Function} (known : Builtin.function? name = some function)
      {args : List Value} (wrong : args.length ≠ function.arity) :
      Fails (.call name args.length) args (.argumentCount name function.arity args.length)
  | argumentText {name s : String} {function : Builtin.Function} (known : Builtin.function? name = some function)
      {before after : List Value} (right : (before ++ .text s :: after).length = function.arity)
      (first : ∀ v ∈ before, IsNumber v) :
      Fails (.call name (before ++ .text s :: after).length) (before ++ .text s :: after) (.textOperand (name ++ "()") s)

/-- `Performs s done s'`: from the state `s` the nodes of `done` are performed one after the other,
each with the value that it gives over the values of its operands, which lead to `s'`. -/
inductive Performs : State → List (Node × Value) → State → Prop
  | nothing (s : State) : Performs s [] s
  | node {node : Node} {operands below : List Value} {value : Value} {store : Store} {done : List (Node × Value)}
      {s : State} (gives : Gives store node operands (.ok value))
      (more : Performs ⟨value :: below, bound node value store⟩ done s) :
      Performs ⟨operands.reverse ++ below, store⟩ ((node, value) :: done) s

theorem Performs.append {s s' s'' : State} {done more : List (Node × Value)} (first : Performs s done s')
    (second : Performs s' more s'') : Performs s (done ++ more) s'' := by
  induction first with
  | nothing => exact second
  | node gives _ ih => exact .node gives (ih second)

/-- Of the nodes that were performed only the assignments changed the store. -/
theorem Performs.store_eq {s s' : State} {done : List (Node × Value)} (performs : Performs s done s') :
    s'.store = (assigned done).foldl (fun store (name, value) => store.set name value) s.store := by
  induction performs with
  | nothing => rfl
  | @node node operands below value store done s gives more ih =>
    rw [ih]
    cases node <;> rfl

/-! ## When a node fails -/

private theorem fails_unary {op : String} {v : Value} {fault : Fault} (failed : Builtin.unary op v = .error fault) :
    Fails (.unary op) [v] fault := by
  obtain ⟨s, rfl⟩ | number := isNumber_or v
  · obtain rfl := Except.error.inj failed
    exact .unaryText op s
  · obtain ⟨x, operand⟩ := operand_eq op number
    rw [Builtin.unary, operand] at failed
    by_cases known : op = "-"
    · simp [known] at failed
    · simp only [known, ↓reduceIte, Except.error.injEq] at failed
      obtain rfl := failed
      exact .unaryUnknown number known

private theorem fails_onNumbers {op : String} {left right : Value} {fault : Fault}
    (unjoined : ∀ s, left = .text s → op = "+" → IsNumber right)
    (failed : Builtin.onNumbers op left right = .error fault) : Fails (.binary op) [left, right] fault := by
  obtain ⟨s, rfl⟩ | number := isNumber_or left
  · obtain rfl := Except.error.inj failed
    exact .leftText (unjoined s rfl)
  · obtain ⟨x, first⟩ := operand_eq op number
    obtain ⟨s, rfl⟩ | number' := isNumber_or right
    · rw [Builtin.onNumbers, first] at failed
      obtain rfl := Except.error.inj failed
      exact .rightText number
    · obtain ⟨y, second⟩ := operand_eq op number'
      rw [Builtin.onNumbers, first, second] at failed
      cases found : Builtin.arithmetic? op with
      | some f => simp [found, bind, Except.bind] at failed
      | none =>
        simp only [found, bind, Except.bind, Except.error.injEq] at failed
        obtain rfl := failed
        exact .binaryUnknown number number' (arithmetic?_eq_none found)

private theorem fails_binary {op : String} {left right : Value} {fault : Fault}
    (failed : Builtin.binary op left right = .error fault) : Fails (.binary op) [left, right] fault := by
  unfold Builtin.binary at failed
  split at failed
  · rename_i s t
    split at failed
    · contradiction
    · rename_i differs
      exact fails_onNumbers (fun _ _ plus => absurd plus differs) failed
  · rename_i notTexts
    exact fails_onNumbers (fun s isText _ t isText' => notTexts s t isText isText') failed

private theorem fails_call {name : String} {args : List Value} {fault : Fault}
    (failed : Builtin.call name args = .error fault) : Fails (.call name args.length) args fault := by
  unfold Builtin.call at failed
  split at failed
  · rename_i unknown
    obtain rfl := Except.error.inj failed
    exact .unknownFunction unknown args
  · rename_i function known
    split at failed
    · rename_i right
      obtain numbers | ⟨before, s, after, rfl, first⟩ := numbers_or_text args
      · obtain ⟨numbers, mapped, length⟩ := mapM_operand_numbers (name ++ "()") numbers
        obtain ⟨result, applied⟩ := exists_result (length.trans right)
        rw [mapped] at failed
        simp [applied, bind, Except.bind] at failed
      · rw [mapM_operand_text _ _ first] at failed
        obtain rfl := Except.error.inj failed
        exact .argumentText known right first
    · rename_i wrong
      obtain rfl := Except.error.inj failed
      exact .argumentCount known wrong

private theorem fails_of_gives {store : Store} {node : Node} {operands : List Value} {fault : Fault} {outcome : Except Fault Value}
    (gives : Gives store node operands outcome) (failed : outcome = .error fault) : Fails node operands fault := by
  cases gives with
  | number | text | name | assign => contradiction
  | unary => exact fails_unary failed
  | binary => exact fails_binary failed
  | call => exact fails_call failed

private theorem gives_of_fails {node : Node} {operands : List Value} {fault : Fault} (fails : Fails node operands fault)
    (store : Store) : Gives store node operands (.error fault) := by
  cases fails with
  | unaryText op s => exact .unary op (.text s)
  | @unaryUnknown op v number unknown =>
    obtain ⟨x, operand⟩ := operand_eq op number
    have given : Gives store _ _ _ := .unary op v
    rw [Builtin.unary, operand] at given
    simpa [unknown] using given
  | @leftText op s right unjoined =>
    have given : Gives store _ _ _ := .binary op (.text s) right
    rwa [binary_eq_onNumbers fun _ _ => unjoined] at given
  | @rightText op s left number =>
    obtain ⟨x, operand⟩ := operand_eq op number
    have given : Gives store _ _ _ := .binary op left (.text s)
    rw [binary_eq_onNumbers fun t isText => absurd isText (number t), Builtin.onNumbers, operand] at given
    exact given
  | @binaryUnknown op left right number number' unknown =>
    obtain ⟨x, operand⟩ := operand_eq op number
    obtain ⟨y, operand'⟩ := operand_eq op number'
    have given : Gives store _ _ _ := .binary op left right
    rw [binary_eq_onNumbers fun t isText => absurd isText (number t), Builtin.onNumbers, operand, operand',
      arithmetic?_of_unknown unknown] at given
    exact given
  | @unknownFunction name unknown _ =>
    have given : Gives store _ _ _ := .call name operands
    rwa [Builtin.call, unknown] at given
  | @argumentCount name function known _ wrong =>
    have given : Gives store _ _ _ := .call name operands
    rw [Builtin.call, known] at given
    simpa [wrong] using given
  | @argumentText name s function known before after right first =>
    have given : Gives store _ _ _ := .call name (before ++ .text s :: after)
    rw [Builtin.call, known] at given
    simpa only [right, ↓reduceIte, mapM_operand_text _ _ first, bind, Except.bind] using given

/-- A node fails for the stated causes and no other. -/
theorem gives_error_iff {store : Store} {node : Node} {operands : List Value} {fault : Fault} :
    Gives store node operands (.error fault) ↔ Fails node operands fault :=
  ⟨fun gives => fails_of_gives gives rfl, fun fails => gives_of_fails fails store⟩

/-! ## Evaluation performs the nodes -/

/-- An expression is turned to, then come its operands, and then it is applied to their values. -/
theorem node_eq {α : Type} (path : List Expr) (operands : Step α) (last : α → Step Value) (store : Store) :
    node path operands last store =
      if Machine.entersTooDeep path then .error .tooDeep store
      else match operands store with
        | .ok a store => if Machine.appliesTooDeep path then .error .tooDeep store else last a store
        | .error fault store => .error fault store := by
  have room_bind {β : Type} (isFull : Bool) (next : Unit → Step β) (store : Store) :
      (room isFull >>= next) store = if isFull then .error .tooDeep store else next () store := by
    cases isFull <;> rfl
  rw [node, room_bind, bind_eq]
  simp only [room_bind]

/-- One level of operands has room on every machine. -/
theorem node_of_short {α : Type} {path : List Expr} (short : path.length ≤ 2) (operands : Step α) (last : α → Step Value) :
    node path operands last = operands >>= last := by
  obtain ⟨enters, applies⟩ := Machine.evaluates_shallow path short
  rw [node, enters, applies]
  rfl

theorem values_eq_mapM (above args : List Expr) : values above args = args.mapM (value above) := by
  induction args with
  | nil => rfl
  | cons e args ih => rw [values, ih, List.mapM_cons]

/-- Whether an evaluation performs `nodes`: either all of them, and then its value is left on the
stack as the `count` values of `push`, or those before one that fails. -/
def Follows {α : Type} (evaluation : Step α) (nodes : List Node) (push : α → List Value) (count : Nat) : Prop :=
  ∀ s : State, match evaluation s.store with
    | .ok a store => ∃ done, nodes = done.map Prod.fst ∧ Performs s done ⟨(push a).reverse ++ s.stack, store⟩ ∧
        (push a).length = count
    | .error fault store => fault = .tooDeep ∨ ∃ done node rest operands below,
        nodes = done.map Prod.fst ++ node :: rest ∧ Performs s done ⟨operands.reverse ++ below, store⟩ ∧
          Gives store node operands (.error fault)

section
variable {α β γ : Type} {nodes nodes' : List Node} {push : α → List Value} {push' : β → List Value} {count count' : Nat}

/-- One evaluation after another performs the nodes of both, one after the other. -/
theorem Follows.seq {first : Step α} {second : Step β} (follows : Follows first nodes push count)
    (follows' : Follows second nodes' push' count') (f : α → β → γ) (both : γ → List Value)
    (both_eq : ∀ a b, both (f a b) = push a ++ push' b) :
    Follows (do return f (← first) (← second)) (nodes ++ nodes') both (count + count') := by
  intro s
  have started := follows s
  rw [bind_eq]
  cases outcome : first s.store with
  | error fault store =>
    rw [outcome] at started
    obtain deep | ⟨done, node, rest, operands, below, rfl, performs, failed⟩ := started
    · exact .inl deep
    · exact .inr ⟨done, node, rest ++ nodes', operands, below, by simp, performs, failed⟩
  | ok a store =>
    rw [outcome] at started
    obtain ⟨done, rfl, performs, length⟩ := started
    have continued := follows' ⟨(push a).reverse ++ s.stack, store⟩
    simp only [bind_eq] at continued ⊢
    cases outcome' : second store with
    | error fault store =>
      rw [outcome'] at continued
      obtain deep | ⟨done', node, rest, operands, below, rfl, performs', failed⟩ := continued
      · exact .inl deep
      · exact .inr ⟨done ++ done', node, rest, operands, below, by simp, performs.append performs', failed⟩
    | ok b store =>
      rw [outcome'] at continued
      obtain ⟨done', rfl, performs', length'⟩ := continued
      refine ⟨done ++ done', by simp, ?_, by simp [both_eq, length, length']⟩
      simpa [both_eq] using performs.append performs'

/-- After its operands a node gives its value, or fails and leaves the store as it is. -/
private theorem Follows.node {operands : Step α} (follows : Follows operands nodes push count) (path : List Expr) {node : Node}
    (last : α → Step Value)
    (performed : ∀ a store, (push a).length = count → ∃ outcome, Gives store node (push a) outcome ∧
      last a store = match outcome with
        | .ok value => .ok value (bound node value store)
        | .error fault => .error fault store) :
    Follows (Eval.node path operands last) (nodes ++ [node]) (fun value => [value]) 1 := by
  intro s
  have started := follows s
  rw [node_eq]
  by_cases full : Machine.entersTooDeep path = true
  · rw [if_pos full]
    exact .inl rfl
  rw [if_neg full]
  cases outcome : operands s.store with
  | error fault store =>
    rw [outcome] at started
    obtain deep | ⟨done, failing, rest, operands, below, rfl, performs, failed⟩ := started
    · exact .inl deep
    · exact .inr ⟨done, failing, rest ++ [node], operands, below, by simp, performs, failed⟩
  | ok a store =>
    rw [outcome] at started
    obtain ⟨done, rfl, performs, length⟩ := started
    by_cases full' : Machine.appliesTooDeep path = true
    · simp only [if_pos full', true_or]
    obtain ⟨given, gives, same⟩ := performed a store length
    simp only [if_neg full', same]
    cases given with
    | error fault => exact .inr ⟨done, node, [], push a, s.stack, rfl, performs, gives⟩
    | ok value => exact ⟨done ++ [(node, value)], by simp, performs.append (.node gives (.nothing _)), rfl⟩

/-- An evaluation of nothing performs no nodes. -/
theorem follows_pure (a : α) (none : push a = []) : Follows (pure a : Step α) [] push 0 :=
  fun s => ⟨[], rfl, by rw [none]; exact .nothing s, by rw [none]; rfl⟩

private theorem follows_leaf (path : List Expr) {node : Node} {evaluation : Step Value}
    (performed : ∀ store, ∃ value, Gives store node [] (.ok value) ∧ evaluation store = .ok value (bound node value store)) :
    Follows (Eval.node path (pure ()) fun _ => evaluation) [node] (fun value => [value]) 1 := by
  have none : Follows (pure () : Step Unit) [] (fun _ => []) 0 := follows_pure () rfl
  refine none.node path (fun _ => evaluation) fun _ store _ => ?_
  obtain ⟨value, gives, same⟩ := performed store
  exact ⟨.ok value, gives, same⟩

end

theorem follows_mapM {evaluate : Expr → Step Value} {args : List Expr}
    (each : ∀ e ∈ args, Follows (evaluate e) e.postorder (fun value => [value]) 1) :
    Follows (args.mapM evaluate) (Expr.postorders args) id args.length := by
  induction args with
  | nil => exact follows_pure [] rfl
  | cons e args ih =>
    have rest := ih fun other mem => each other (List.mem_cons_of_mem e mem)
    rw [List.mapM_cons, List.length_cons, Nat.add_comm]
    exact (each e List.mem_cons_self).seq rest List.cons id fun _ _ => rfl

/-- The evaluation of an expression performs its nodes. -/
theorem follows_value (above : List Expr) (e : Expr) : Follows (value above e) e.postorder (fun value => [value]) 1 := by
  induction e using Expr.induct generalizing above with
  | number x => exact follows_leaf _ fun store => ⟨_, .number x, rfl⟩
  | text s => exact follows_leaf _ fun store => ⟨_, .text s, rfl⟩
  | name n => exact follows_leaf _ fun store => ⟨_, .name n, rfl⟩
  | assign n operand ih => exact (ih _).node _ _ fun v store _ => ⟨.ok v, .assign n v, rfl⟩
  | unary op operand ih => exact (ih _).node _ _ fun v store _ => ⟨_, .unary op v, lift_eq _ fun _ => rfl⟩
  | binary op left right ih ih' =>
    have operands := (ih (.binary op left right :: above)).seq (ih' (.binary op left right :: above)) Prod.mk
      (fun values => [values.1, values.2]) fun _ _ => rfl
    exact operands.node _ _ fun values store _ => ⟨_, .binary op values.1 values.2, lift_eq _ fun _ => rfl⟩
  | call n args ih =>
    have operands : Follows (args.mapM (value (.call n args :: above))) (Expr.postorders args) id args.length :=
      follows_mapM fun e mem => ih e mem _
    rw [← values_eq_mapM] at operands
    refine operands.node _ _ ?_
    intro values store length
    refine ⟨_, ?_, lift_eq _ fun _ => rfl⟩
    rw [← length]
    exact .call n values

/-- No node by itself is nested too deep. -/
theorem staysWithin_lift {node : Node} {operands : List Value} {outcome : Except Fault Value}
    (gives : ∀ store, Gives store node operands outcome) : StaysWithin (lift outcome) := by
  intro store store' deep
  cases outcome with
  | ok value => contradiction
  | error fault =>
    obtain ⟨rfl, _⟩ := EStateM.Result.error.inj deep
    cases gives_error_iff.mp (gives store)

end

end Eval

end OutlineCalc
