import OutlineCalc.Calculation
import OutlineCalc.Machine.Usual
import OutlineCalc.Proofs.Postorder

/-!
What an evaluation has done when it ends, however it ends. It goes from moment to moment, turning to
expressions and applying them to the values of their operands, up to the first moment that the machine
has no room for, and also then the store is left with what the assignments up to there have bound. The
same holds of the calculation of a line, which performs nothing when the line has no expression that can
be read.
-/

namespace OutlineCalc

namespace Eval

/-- A moment of an evaluation: the first expression of a path, each an operand of the next, is turned to,
or it is applied to the values of its operands, which is when its node is performed. -/
inductive Moment where
  | enter (path : List Expr)
  | apply (path : List Expr) (node : Node)

/-- The node that is performed in a moment, if one is. -/
def Moment.node? : Moment → Option Node
  | enter _ => none
  | apply _ node => some node

/-- Whether the machine has no room left in a moment. -/
def Moment.isFull [Machine] : Moment → Bool
  | enter path => Machine.entersTooDeep path
  | apply path _ => Machine.appliesTooDeep path

/-- The moments of an expression, with those of its operands between its own two. -/
def Moment.around (path : List Expr) (node : Node) (operands : List Moment) : List Moment :=
  enter path :: operands ++ [apply path node]

end Eval

open Eval (Moment)

mutual

/-- The moments of the evaluation of an expression below some others. -/
def Expr.moments (above : List Expr) : Expr → List Moment
  | .number x => Moment.around (.number x :: above) (.number x) []
  | .text s => Moment.around (.text s :: above) (.text s) []
  | .name n => Moment.around (.name n :: above) (.name n) []
  | .unary op e => Moment.around (.unary op e :: above) (.unary op) (e.moments (.unary op e :: above))
  | .binary op left right =>
    Moment.around (.binary op left right :: above) (.binary op)
      (left.moments (.binary op left right :: above) ++ right.moments (.binary op left right :: above))
  | .assign n e => Moment.around (.assign n e :: above) (.assign n) (e.moments (.assign n e :: above))
  | .call n args => Moment.around (.call n args :: above) (.call n args.length) (Expr.allMoments (.call n args :: above) args)

/-- The moments of the evaluation of some expressions, one after the other, below some others. -/
def Expr.allMoments (above : List Expr) : List Expr → List Moment
  | [] => []
  | e :: es => e.moments above ++ Expr.allMoments above es

end

private theorem Expr.filterMap_node?_allMoments {above args : List Expr}
    (each : ∀ e ∈ args, (e.moments above).filterMap Moment.node? = e.postorder) :
    (allMoments above args).filterMap Moment.node? = postorders args := by
  induction args with
  | nil => rfl
  | cons e args ih =>
    rw [allMoments, List.filterMap_append, each e List.mem_cons_self, postorders,
      ih fun other mem => each other (List.mem_cons_of_mem e mem)]

/-- In its moments the nodes of an expression are performed. -/
theorem Expr.filterMap_node?_moments (above : List Expr) (e : Expr) :
    (e.moments above).filterMap Moment.node? = e.postorder := by
  have around (path : List Expr) (node : Node) (operands : List Moment) :
      (Moment.around path node operands).filterMap Moment.node? = operands.filterMap Moment.node? ++ [node] := by
    rw [Moment.around, List.cons_append, List.filterMap_cons_none rfl, List.filterMap_append]
    rfl
  induction e using Expr.induct generalizing above with
  | number | text | name => rfl
  | unary op e ih | assign n e ih => rw [moments, around, ih, postorder]
  | binary op left right ih ih' => rw [moments, around, List.filterMap_append, ih, ih', postorder]
  | call n args ih => rw [moments, around, filterMap_node?_allMoments fun e mem => ih e mem _, postorder]

namespace Eval

section
variable [Machine]

/-- Whether the machine has room in all of some moments. -/
def HasRoom (moments : List Moment) : Prop := ∀ moment ∈ moments, moment.isFull = false

instance (moments : List Moment) : Decidable (HasRoom moments) :=
  inferInstanceAs (Decidable (∀ moment ∈ moments, moment.isFull = false))

theorem hasRoom_append_iff {moments moments' : List Moment} : HasRoom (moments ++ moments') ↔ HasRoom moments ∧ HasRoom moments' :=
  List.forall_mem_append

theorem hasRoom_around_iff {path : List Expr} {node : Node} {operands : List Moment} :
    HasRoom (Moment.around path node operands) ↔
      Machine.entersTooDeep path = false ∧ HasRoom operands ∧ Machine.appliesTooDeep path = false := by
  simp [HasRoom, Moment.around, Moment.isFull, or_imp, forall_and]

/-- Whether `done` are the nodes performed before the first of some moments that there is no room for. -/
def Cut (moments : List Moment) (done : List (Node × Value)) : Prop :=
  ∃ passed full rest, moments = passed ++ full :: rest ∧ passed.filterMap Moment.node? = done.map Prod.fst ∧
    HasRoom passed ∧ full.isFull = true

theorem Cut.append_right {moments : List Moment} {done : List (Node × Value)} (cut : Cut moments done)
    (more : List Moment) : Cut (moments ++ more) done := by
  obtain ⟨passed, full, rest, rfl, same, within, isFull⟩ := cut
  exact ⟨passed, full, rest ++ more, by simp, same, within, isFull⟩

theorem Cut.append_left {moments moments' : List Moment} {done done' : List (Node × Value)} (cut : Cut moments' done')
    (every : moments.filterMap Moment.node? = done.map Prod.fst) (within : HasRoom moments) :
    Cut (moments ++ moments') (done ++ done') := by
  obtain ⟨passed, full, rest, rfl, same, within', isFull⟩ := cut
  refine ⟨moments ++ passed, full, rest, by simp, by simp [every, same], ?_, isFull⟩
  exact hasRoom_append_iff.mpr ⟨within, within'⟩

/-- Whether an evaluation has a value only when there is room in all of `moments`, and otherwise performs
the nodes up to the first moment that there is no room for. -/
structure Stops {α : Type} (evaluation : Step α) (moments : List Moment) : Prop where
  value : ∀ store a after, evaluation store = .ok a after → HasRoom moments
  tooDeep : ∀ s store, evaluation s.store = .error .tooDeep store →
    ∃ done stack, Cut moments done ∧ Performs s done ⟨stack, store⟩

section
variable {α β γ : Type} {moments moments' : List Moment} {push : α → List Value} {count : Nat}

theorem stops_pure (a : α) : Stops (pure a : Step α) [] := ⟨fun _ _ _ _ => List.forall_mem_nil _, fun _ _ => nofun⟩

private theorem Stops.seq {first : Step α} {second : Step β}
    (follows : Follows first (moments.filterMap Moment.node?) push count) (stops : Stops first moments)
    (stops' : Stops second moments') (f : α → β → γ) : Stops (do return f (← first) (← second)) (moments ++ moments') := by
  constructor
  · intro store c after ended
    rw [bind_eq] at ended
    cases outcome : first store with
    | error fault store => simp [outcome] at ended
    | ok a store =>
      simp only [outcome, bind_eq] at ended
      cases outcome' : second store with
      | error fault store => simp [outcome'] at ended
      | ok b store => exact hasRoom_append_iff.mpr ⟨stops.value _ _ _ outcome, stops'.value _ _ _ outcome'⟩
  · intro s store ended
    rw [bind_eq] at ended
    have performed := follows s
    cases outcome : first s.store with
    | error fault store =>
      simp only [outcome, EStateM.Result.error.injEq] at ended
      obtain ⟨rfl, rfl⟩ := ended
      obtain ⟨done, stack, cut, performs⟩ := stops.tooDeep s _ outcome
      exact ⟨done, stack, cut.append_right moments', performs⟩
    | ok a store =>
      rw [outcome] at performed
      obtain ⟨done, every, performs, _⟩ := performed
      simp only [outcome, bind_eq] at ended
      cases outcome' : second store with
      | ok b store => simp [outcome', pure, EStateM.pure] at ended
      | error fault store =>
        simp only [outcome', EStateM.Result.error.injEq] at ended
        obtain ⟨rfl, rfl⟩ := ended
        obtain ⟨done', stack, cut, performs'⟩ := stops'.tooDeep ⟨(push a).reverse ++ s.stack, _⟩ _ outcome'
        exact ⟨done ++ done', stack, cut.append_left every (stops.value _ _ _ outcome), performs.append performs'⟩

/-- With its operands an expression has two moments more, and by itself it needs no others. -/
private theorem Stops.node {operands : Step α} (follows : Follows operands (moments.filterMap Moment.node?) push count)
    (stops : Stops operands moments) (path : List Expr) (node : Node) (last : α → Step Value)
    (shallow : ∀ a, StaysWithin (last a)) : Stops (Eval.node path operands last) (Moment.around path node moments) := by
  constructor
  · intro store value after ended
    rw [node_eq] at ended
    by_cases full : Machine.entersTooDeep path = true
    · simp [full] at ended
    cases outcome : operands store with
    | error fault store => simp [full, outcome] at ended
    | ok a store =>
      by_cases full' : Machine.appliesTooDeep path = true
      · simp [full, outcome, full'] at ended
      exact hasRoom_around_iff.mpr ⟨eq_false_of_ne_true full, stops.value _ _ _ outcome, eq_false_of_ne_true full'⟩
  · intro s store ended
    rw [node_eq] at ended
    by_cases full : Machine.entersTooDeep path = true
    · simp only [full, ↓reduceIte, EStateM.Result.error.injEq, true_and] at ended
      subst ended
      exact ⟨[], s.stack, ⟨[], .enter path, _, rfl, rfl, List.forall_mem_nil _, full⟩, .nothing s⟩
    have entered : HasRoom [.enter path] := by simpa [HasRoom, Moment.isFull] using full
    have performed := follows s
    cases outcome : operands s.store with
    | error fault store =>
      simp only [full, outcome, Bool.false_eq_true, ↓reduceIte, EStateM.Result.error.injEq] at ended
      obtain ⟨rfl, rfl⟩ := ended
      obtain ⟨done, stack, cut, performs⟩ := stops.tooDeep s _ outcome
      have behind : Cut ([.enter path] ++ _) ([] ++ done) := cut.append_left rfl entered
      exact ⟨done, stack, behind.append_right _, performs⟩
    | ok a store =>
      rw [outcome] at performed
      obtain ⟨done, every, performs, _⟩ := performed
      by_cases full' : Machine.appliesTooDeep path = true
      · simp only [full, outcome, full', Bool.false_eq_true, ↓reduceIte, EStateM.Result.error.injEq, true_and] at ended
        subst ended
        refine ⟨done, _, ⟨.enter path :: moments, .apply path node, [], rfl, every, ?_, full'⟩, performs⟩
        exact hasRoom_append_iff.mpr ⟨entered, stops.value _ _ _ outcome⟩
      · simp only [full, outcome, full', Bool.false_eq_true, ↓reduceIte] at ended
        exact absurd ended (shallow a store _)

end

private theorem stops_leaf (path : List Expr) (node : Node) {evaluation : Step Value} (shallow : StaysWithin evaluation) :
    Stops (Eval.node path (pure ()) fun _ => evaluation) (Moment.around path node []) := by
  have follows : Follows (pure () : Step Unit) [] (fun _ => []) 0 := follows_pure () rfl
  exact Stops.node follows (stops_pure ()) path node (fun _ => evaluation) fun _ => shallow

private theorem stops_mapM {above args : List Expr} (stops : ∀ e ∈ args, Stops (value above e) (e.moments above)) :
    Stops (args.mapM (value above)) (Expr.allMoments above args) := by
  induction args with
  | nil => exact stops_pure []
  | cons e args ih =>
    have rest := ih fun other mem => stops other (List.mem_cons_of_mem e mem)
    have first := follows_value above e
    rw [← e.filterMap_node?_moments above] at first
    rw [List.mapM_cons]
    exact (stops e List.mem_cons_self).seq first rest List.cons

/-- The evaluation of an expression stops at the first of its moments that there is no room for. -/
theorem stops_value (above : List Expr) (e : Expr) : Stops (value above e) (e.moments above) := by
  have performed (above : List Expr) (e : Expr) :
      Follows (value above e) ((e.moments above).filterMap Moment.node?) (fun value => [value]) 1 := by
    rw [e.filterMap_node?_moments above]
    exact follows_value above e
  induction e using Expr.induct generalizing above with
  | number x => exact stops_leaf _ _ (staysWithin_pure _)
  | text s => exact stops_leaf _ _ (staysWithin_pure _)
  | name n => exact stops_leaf _ _ (StaysWithin.bind (fun _ _ => nofun) fun _ => staysWithin_pure _)
  | assign n e ih =>
    exact Stops.node (performed _ e) (ih _) _ (.assign n) _ fun v => StaysWithin.bind (fun _ _ => nofun) fun _ => staysWithin_pure v
  | unary op e ih => exact Stops.node (performed _ e) (ih _) _ (.unary op) _ fun v => staysWithin_lift fun _ => .unary op v
  | binary op left right ih ih' =>
    have follows := (performed (.binary op left right :: above) left).seq (performed (.binary op left right :: above) right)
      Prod.mk (fun values => [values.1, values.2]) fun _ _ => rfl
    rw [← List.filterMap_append] at follows
    have stops := Stops.seq (performed _ left) (ih (.binary op left right :: above)) (ih' (.binary op left right :: above)) Prod.mk
    exact Stops.node follows stops _ (.binary op) _ fun values => staysWithin_lift fun _ => .binary op values.1 values.2
  | call n args ih =>
    have follows := follows_mapM fun e (_ : e ∈ args) => follows_value (.call n args :: above) e
    rw [← Expr.filterMap_node?_allMoments fun e _ => e.filterMap_node?_moments (.call n args :: above)] at follows
    rw [value, values_eq_mapM]
    exact Stops.node follows (stops_mapM fun e mem => ih e mem _) _ (.call n args.length) _ fun values =>
      staysWithin_lift fun _ => .call n values

/-! ## The whole evaluation -/

/-- `Executes tree store result done final`: what evaluating an expression over `store` comes to, where
`done` are the nodes that are performed, with their values. These are all nodes, or those before the
first that fails, or those before the first moment that there is no room for. -/
inductive Executes (tree : Expr) (store : Store) : Result → List (Node × Value) → Store → Prop
  | all {done : List (Node × Value)} {value : Value} {final : Store}
      (performs : Performs ⟨[], store⟩ done ⟨[value], final⟩) (every : tree.postorder = done.map Prod.fst) :
      Executes tree store ⟨value, none⟩ done final
  | upTo {done : List (Node × Value)} {node : Node} {rest : List Node} {operands below : List Value} {fault : Fault}
      {final : Store} (performs : Performs ⟨[], store⟩ done ⟨operands.reverse ++ below, final⟩)
      (before : tree.postorder = done.map Prod.fst ++ node :: rest) (fails : Fails node operands fault) :
      Executes tree store ⟨.number 0, some fault⟩ done final
  | tooDeep {done : List (Node × Value)} {stack : List Value} {final : Store}
      (performs : Performs ⟨[], store⟩ done ⟨stack, final⟩) (cut : Cut (tree.moments []) done) :
      Executes tree store ⟨.number 0, some .tooDeep⟩ done final

/-- However the evaluation of an expression ends, it has performed its nodes up to there. -/
theorem exists_executes (tree : Expr) (store : Store) :
    ∃ done, Executes tree store (run (some tree) store).1 done (run (some tree) store).2 := by
  have follows := follows_value [] tree ⟨[], store⟩
  have stops := stops_value [] tree
  simp only [run, expr]
  cases outcome : value [] tree store with
  | ok value final =>
    rw [outcome] at follows
    obtain ⟨done, every, performs, _⟩ := follows
    exact ⟨done, .all performs every⟩
  | error fault final =>
    rw [outcome] at follows
    obtain rfl | ⟨done, node, rest, operands, below, before, performs, gives⟩ := follows
    · obtain ⟨done, stack, cut, performs⟩ := stops.tooDeep ⟨[], store⟩ final outcome
      exact ⟨done, .tooDeep performs cut⟩
    · exact ⟨done, .upTo performs before (gives_error_iff.mp gives)⟩

section
variable {tree : Expr} {store final : Store} {result : Result} {done : List (Node × Value)}

/-- What is performed are the first nodes of an expression. -/
theorem Executes.performs (executes : Executes tree store result done final) :
    ∃ rest stack, tree.postorder = done.map Prod.fst ++ rest ∧ Performs ⟨[], store⟩ done ⟨stack, final⟩ := by
  cases executes with
  | all performs every => exact ⟨[], _, by rw [List.append_nil, every], performs⟩
  | upTo performs before _ => exact ⟨_, _, before, performs⟩
  | tooDeep performs cut =>
    obtain ⟨passed, full, rest, moments, same, _, _⟩ := cut
    have before := congrArg (List.filterMap Moment.node?) moments
    rw [Expr.filterMap_node?_moments, List.filterMap_append, same] at before
    exact ⟨_, _, before, performs⟩

/-- Only names that an expression assigns are assigned. -/
theorem Executes.not_mem_assigned (executes : Executes tree store result done final) {name : String}
    (unassigned : .assign name ∉ tree.postorder) (value : Value) : (name, value) ∉ assigned done := by
  obtain ⟨rest, _, nodes, _⟩ := executes.performs
  intro mem
  obtain ⟨⟨node, v⟩, performed, same⟩ := List.mem_filterMap.mp mem
  cases node with
  | assign other =>
    obtain ⟨rfl, rfl⟩ := Prod.mk.inj (Option.some.inj same)
    rw [nodes] at unassigned
    exact unassigned (List.mem_append_left _ (List.mem_map_of_mem performed))
  | _ => contradiction

end

/-- `Ordered nodes store result final`: what performing `nodes` in their order over `store` comes to.
Either all of them are performed, each once, and the result is the value that is left; or those before
the first that fails, and the result is zero with its fault. The final store is `store` with the
assignments among the nodes that were performed, one after the other. -/
inductive Ordered (nodes : List Node) (store : Store) : Result → Store → Prop
  | all {done : List (Node × Value)} {value : Value} {final : Store}
      (performs : Performs ⟨[], store⟩ done ⟨[value], final⟩) (every : nodes = done.map Prod.fst)
      (binds : final = (assigned done).foldl (fun store (name, value) => store.set name value) store) :
      Ordered nodes store ⟨value, none⟩ final
  | upTo {done : List (Node × Value)} {node : Node} {rest : List Node} {operands below : List Value} {fault : Fault}
      {final : Store} (performs : Performs ⟨[], store⟩ done ⟨operands.reverse ++ below, final⟩)
      (before : nodes = done.map Prod.fst ++ node :: rest) (fails : Fails node operands fault)
      (binds : final = (assigned done).foldl (fun store (name, value) => store.set name value) store) :
      Ordered nodes store ⟨.number 0, some fault⟩ final

end

end Eval

/-- Whether the machine has room for the evaluation of an expression. -/
def Expr.Fits [Machine] (e : Expr) : Prop := Eval.HasRoom (e.moments [])

instance [Machine] (e : Expr) : Decidable e.Fits := inferInstanceAs (Decidable (Eval.HasRoom (e.moments [])))

namespace Eval

/-- An expression that the machine has room for is evaluated node by node, operands from left to right
before the node they belong to, up to the first node that fails. -/
theorem run_ordered [Machine] (tree : Expr) (store : Store) :
    (tree.Fits → (run (some tree) store).1.fault ≠ some .tooDeep) ∧
      ((run (some tree) store).1.fault ≠ some .tooDeep →
        Ordered tree.postorder store (run (some tree) store).1 (run (some tree) store).2) := by
  obtain ⟨done, executes⟩ := exists_executes tree store
  generalize (run (some tree) store).1 = result, (run (some tree) store).2 = final at executes ⊢
  cases executes with
  | all performs every => exact ⟨fun _ => nofun, fun _ => .all performs every performs.store_eq⟩
  | upTo performs before fails =>
    refine ⟨fun _ deep => ?_, fun _ => .upTo performs before fails performs.store_eq⟩
    obtain rfl := Option.some.inj deep
    cases fails
  | tooDeep performs cut =>
    obtain ⟨passed, full, rest, moments, _, _, isFull⟩ := cut
    refine ⟨fun fits _ => ?_, fun shallow => absurd rfl shallow⟩
    rw [fits full (by simp [moments])] at isFull
    contradiction

/-- `(x = 'a') + f(y = 'b', -'c', z = 'd')`, where no text can be negated. -/
def negatedText : Expr :=
  .binary "+" (.assign "x" (.text "a"))
    (.call "f" [.assign "y" (.text "b"), .unary "-" (.text "c"), .assign "z" (.text "d")])

/-- What stands behind a failing node is not bound, and an unknown function around it is not reported. -/
theorem ordered_negatedText :
    letI := Machine.usual
    negatedText.Fits ∧ (run (some negatedText) {}).1.fault ≠ some .tooDeep ∧
      Ordered negatedText.postorder {} ⟨.number 0, some (.textOperand "-" "c")⟩
        { bindings := [("x", .text "a"), ("y", .text "b")] } := by
  let _ := Machine.usual
  have fits : negatedText.Fits := by decide
  have shallow := (run_ordered negatedText {}).1 fits
  exact ⟨fits, shallow, (run_ordered negatedText {}).2 shallow⟩

/-- As long as a name is not assigned it is read as it was at the start. -/
theorem Performs.read [Machine] {s s' : State} {done : List (Node × Value)} (performs : Performs s done s') {name : String}
    (unassigned : ∀ value, (name, value) ∉ assigned done) {value : Value} (mem : (.name name, value) ∈ done) :
    value = s.store.get name := by
  induction performs with
  | nothing => contradiction
  | @node node operands below first store done s gives more ih =>
    rcases List.mem_cons.mp mem with same | mem
    · obtain ⟨rfl, rfl⟩ := Prod.mk.inj same
      cases gives with
      | name => rfl
    · have rest : ∀ value, (name, value) ∉ assigned done := by
        intro v later
        cases node with
        | assign other => exact unassigned v (List.mem_cons_of_mem _ later)
        | _ => exact unassigned v later
      rw [ih rest mem]
      cases node with
      | assign other =>
        have differs : name ≠ other := by
          rintro rfl
          exact unassigned first List.mem_cons_self
        simp [bound, Store.get, differs]
      | _ => rfl

end Eval

/-! ## The calculation of a line -/

namespace Calculation

open Eval (assigned)

variable [Machine]

/-- `Executes line store done`: `done` are the nodes, with their values, that are performed when a line
is calculated over `store`. A line without an expression, as one that is nested too deep to be read,
counts as zero and performs none. -/
inductive Executes (line : String) (store : Store) : List (Node × Value) → Prop
  | tree {tree : Expr} {done : List (Node × Value)} (read : Calculation.tree line = .ok (some tree))
      (executes : Eval.Executes tree store ⟨(run line store).1.value, (run line store).1.evalFault⟩ done (run line store).2) :
      Executes line store done
  | nothing (absent : ∀ tree, Calculation.tree line ≠ .ok (some tree)) (zero : (run line store).1.value = .number 0)
      (kept : (run line store).2 = store) : Executes line store []

theorem run_of_tree {line : String} {tree : Option Expr} (read : Calculation.tree line = .ok tree) (store : Store) :
    run line store = (⟨(Eval.run tree store).1.value, (Eval.run tree store).1.fault, none, (Scan.line line).fault⟩,
      (Eval.run tree store).2) := by
  rw [Calculation.tree] at read
  simp only [run, read]

theorem run_of_fault {line : String} {fault : Parse.Fault} (deep : Calculation.tree line = .error fault) (store : Store) :
    run line store = (⟨.number 0, none, some fault, (Scan.line line).fault⟩, store) := by
  rw [Calculation.tree] at deep
  simp only [run, deep]
  rfl

theorem exists_executes (line : String) (store : Store) : ∃ done, Executes line store done := by
  cases read : Calculation.tree line with
  | error fault =>
    refine ⟨[], .nothing (fun tree => by simp [read]) ?_ ?_⟩
    · rw [run_of_fault read]
    · rw [run_of_fault read]
  | ok tree =>
    cases tree with
    | none =>
      refine ⟨[], .nothing (fun tree => by simp [read]) ?_ ?_⟩
      · rw [run_of_tree read]
        rfl
      · rw [run_of_tree read]
        rfl
    | some tree =>
      obtain ⟨done, executes⟩ := Eval.exists_executes tree store
      refine ⟨done, .tree read ?_⟩
      rw [run_of_tree read]
      exact executes

/-- Whether a line has no number for its value: its calculation has failed or has come to a text. -/
def Fails (line : String) (store : Store) : Prop :=
  let calculation := (run line store).1
  calculation.evalFault ≠ none ∨ calculation.parseFault ≠ none ∨ ∃ s, calculation.value = .text s

theorem Fails.amount_eq {line : String} {store : Store} (fails : Fails line store) : (run line store).1.value.amount = 0 := by
  unfold Fails at fails
  cases read : Calculation.tree line with
  | error fault =>
    rw [run_of_fault read]
    rfl
  | ok tree =>
    rw [run_of_tree read] at fails ⊢
    simp only [Eval.run] at fails ⊢
    generalize Eval.expr tree store = outcome at fails ⊢
    cases outcome with
    | error fault final => rfl
    | ok value final =>
      obtain fails | fails | ⟨s, text⟩ := fails
      · exact absurd rfl fails
      · exact absurd rfl fails
      · exact congrArg Value.amount text

section
variable {line : String} {store : Store} {done : List (Node × Value)}

theorem Executes.performs (executes : Executes line store done) :
    ∃ stack, Eval.Performs ⟨[], store⟩ done ⟨stack, (run line store).2⟩ := by
  cases executes with
  | tree _ executes =>
    obtain ⟨_, stack, _, performs⟩ := executes.performs
    exact ⟨stack, performs⟩
  | nothing _ _ kept =>
    rw [kept]
    exact ⟨[], .nothing _⟩

theorem Executes.not_mem_assigned (executes : Executes line store done) {name : String}
    (unassigned : ∀ tree, Calculation.tree line = .ok (some tree) → .assign name ∉ tree.postorder) (value : Value) :
    (name, value) ∉ assigned done := by
  cases executes with
  | tree read executes => exact executes.not_mem_assigned (unassigned _ read) value
  | nothing => exact List.not_mem_nil

end

end Calculation

end OutlineCalc
