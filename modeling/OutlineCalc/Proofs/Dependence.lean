import OutlineCalc.Proofs.Execution
import OutlineCalc.Proofs.Simulation

/-!
What an evaluation depends on. Over two stores that agree on the names that an expression reads, the same
nodes are performed with the same values, and so the same is bound, whether it fails or not. This needs
that an evaluation has done one thing only: what is performed is determined by how the evaluation ends.
-/

namespace OutlineCalc

/-- Whether some names have the same values in two stores. -/
def Store.AgreeOn (names : String → Prop) (store store' : Store) : Prop := ∀ name, names name → store'.get name = store.get name

theorem Store.get_set (store : Store) (name sought : String) (value : Value) :
    (store.set name value).get sought = if sought = name then value else store.get sought := by
  rw [get, get?_set]
  split <;> rfl

theorem Store.exists_lookup {name : String} {value : Value} {bindings : List (String × Value)} (mem : (name, value) ∈ bindings) :
    ∃ last, lookup name bindings = some last := by
  induction bindings with
  | nil => contradiction
  | cons binding bindings ih =>
    by_cases here : name = binding.1
    · exact ⟨binding.2, if_pos here⟩
    · rcases List.mem_cons.mp mem with rfl | mem
      · contradiction
      · rw [lookup, if_neg here]
        exact ih mem

namespace Eval

open Store (AgreeOn)

variable {names : String → Prop} {store store' : Store}

theorem agreeOn_set (agree : AgreeOn names store store') (name : String) (value : Value) :
    AgreeOn names (store.set name value) (store'.set name value) := by
  intro other mem
  rw [Store.get_set, Store.get_set, agree other mem]

/-! ## The outcome of an evaluation -/

/-- Whether two evaluations have ended in the same way, over stores that agree on some names. -/
inductive SameOutcome {α : Type} (names : String → Prop) : EStateM.Result Fault Store α → EStateM.Result Fault Store α → Prop
  | ok (a : α) {after after' : Store} (agree : AgreeOn names after after') : SameOutcome names (.ok a after) (.ok a after')
  | error (fault : Fault) {after after' : Store} (agree : AgreeOn names after after') :
      SameOutcome names (.error fault after) (.error fault after')

/-- Whether an evaluation depends on nothing in the store but the values of some names. -/
def DependsOn {α : Type} (names : String → Prop) (evaluation : Step α) : Prop :=
  ∀ store store', AgreeOn names store store' → SameOutcome names (evaluation store) (evaluation store')

theorem sameOutcome_of_endAlike {α : Type} {outcome outcome' : EStateM.Result Fault Store α}
    (ends : EndAlike (AgreeOn names) Eq outcome outcome') : SameOutcome names outcome outcome' := by
  cases ends with
  | ok values agree =>
    subst values
    exact .ok _ agree
  | error fault agree => exact .error fault agree

theorem matches_eq {α : Type} (outcome : Except Fault α) : Matches Eq outcome outcome := by
  cases outcome with
  | ok a => exact .ok rfl
  | error fault => exact .error fault

section
variable [Machine]

/-- Every node gives the same over stores that agree on the names that are read. -/
theorem keeps_agreeOn (names : String → Prop) : Keeps names (AgreeOn names) Eq where
  refl _ := rfl
  read name mem agree := (agree name mem).symm
  assign := by
    rintro _ _ v _ name agree rfl
    exact agreeOn_set agree name v
  unary := by
    rintro op v _ rfl
    exact matches_eq _
  binary := by
    rintro op x _ y _ rfl rfl
    exact matches_eq _
  call := by
    intro name args args' same
    rw [List.forall₂_eq_eq_eq] at same
    subst same
    exact matches_eq _

/-- The evaluation of an expression depends on the names in it. -/
theorem dependsOn_value (above : List Expr) {e : Expr} (reads : ∀ name, .name name ∈ e.postorder → names name) :
    DependsOn names (value above e) := by
  intro store store' agree
  exact sameOutcome_of_endAlike (simulates_value (keeps_agreeOn names) above reads store store' agree)

end

/-! ## What is performed -/

/-- How many operands a node has. -/
def arity : Node → Nat
  | .number _ | .text _ | .name _ => 0
  | .unary _ | .assign _ => 1
  | .binary _ => 2
  | .call _ count => count

theorem agreeOn_bound (agree : AgreeOn names store store') (node : Node) (value : Value) :
    AgreeOn names (bound node value store) (bound node value store') := by
  cases node with
  | assign name => exact agreeOn_set agree name value
  | _ => exact agree

section
variable [Machine]

section
variable {node : Node} {operands operands' below below' : List Value} {outcome outcome' : Except Fault Value}

theorem Gives.length_eq (gives : Gives store node operands outcome) : operands.length = arity node := by
  cases gives <;> rfl

theorem Gives.outcome_eq (gives : Gives store node operands outcome) (gives' : Gives store node operands outcome') :
    outcome = outcome' := by
  cases gives with
  | call name =>
    generalize same : Node.call name operands.length = node at gives'
    cases gives' with
    | call => cases same; rfl
    | _ => contradiction
  | _ => cases gives'; rfl

/-- A node takes its operands from the stack, as many as it has, and gives one thing over them. -/
theorem Gives.unique (gives : Gives store node operands outcome) (gives' : Gives store node operands' outcome')
    (stack : operands.reverse ++ below = operands'.reverse ++ below') : outcome = outcome' ∧ below = below' := by
  have length : operands.reverse.length = operands'.reverse.length := by
    rw [List.length_reverse, List.length_reverse, gives.length_eq, gives'.length_eq]
  obtain ⟨same, rest⟩ := List.append_inj stack length
  obtain rfl := List.reverse_inj.mp same
  exact ⟨gives.outcome_eq gives', rest⟩

/-- What a node gives depends on the store only if it is a name. -/
theorem Gives.of_agree (gives : Gives store node operands outcome) (agree : ∀ name, node = .name name → store'.get name = store.get name) :
    Gives store' node operands outcome := by
  cases gives with
  | name n =>
    rw [← agree n rfl]
    exact .name n
  | number x => exact .number x
  | text s => exact .text s
  | unary op v => exact .unary op v
  | binary op x y => exact .binary op x y
  | assign n v => exact .assign n v
  | call n => exact .call n operands

end

section
variable {s s' s'' : State} {done done' : List (Node × Value)}

/-- What is performed depends on nothing in the store but the names that are read. -/
theorem Performs.transfer (performs : Performs s done s') (reads : ∀ name, .name name ∈ done.map Prod.fst → names name)
    (agree : AgreeOn names s.store store') :
    Performs ⟨s.stack, store'⟩ done ⟨s'.stack, (assigned done).foldl (fun store (name, value) => store.set name value) store'⟩ := by
  induction performs generalizing store' with
  | nothing s => exact .nothing _
  | @node node operands below value store done s gives more ih =>
    have rest : ∀ name, .name name ∈ done.map Prod.fst → names name := fun name mem => reads name (List.mem_cons_of_mem _ mem)
    have gives' : Gives store' node operands (.ok value) := by
      refine gives.of_agree ?_
      rintro name rfl
      exact agree name (reads name List.mem_cons_self)
    have next : Performs ⟨operands.reverse ++ below, store'⟩ ((node, value) :: done) _ :=
      .node gives' (ih rest (agreeOn_bound agree node value))
    have bound_eq : (assigned done).foldl (fun store (name, value) => store.set name value) (bound node value store') =
        (assigned ((node, value) :: done)).foldl (fun store (name, value) => store.set name value) store' := by
      cases node <;> rfl
    rwa [bound_eq] at next

/-- Of two runs from one state over nodes of which one has the first of the other's, the longer one goes on
where the shorter one has ended. -/
theorem Performs.goes_on (performs : Performs s done s') (performs' : Performs s done' s'')
    (first : done.map Prod.fst <+: done'.map Prod.fst) : ∃ more, done' = done ++ more ∧ Performs s' more s'' := by
  induction performs generalizing done' with
  | nothing => exact ⟨done', rfl, performs'⟩
  | @node node operands below value store done s gives _ ih =>
    obtain ⟨nodes, shape⟩ := first
    generalize start : (⟨operands.reverse ++ below, store⟩ : State) = state at performs'
    cases performs' with
    | nothing => simp at shape
    | @node node' operands' below' value' store' done' _ gives' more' =>
      obtain ⟨stack, rfl⟩ := State.mk.inj start
      obtain ⟨rfl, first⟩ := List.cons.inj shape
      obtain ⟨same, rfl⟩ := gives.unique gives' stack
      obtain rfl := Except.ok.inj same
      obtain ⟨more, rfl, performs⟩ := ih more' ⟨nodes, first⟩
      exact ⟨more, rfl, performs⟩

theorem Performs.unique (performs : Performs s done s') (performs' : Performs s done' s'')
    (same : done.map Prod.fst = done'.map Prod.fst) : done = done' ∧ s' = s'' := by
  obtain ⟨more, rfl, rest⟩ := performs.goes_on performs' ⟨[], (List.append_nil _).trans same⟩
  obtain rfl : more = [] := by simpa using same
  cases rest
  exact ⟨(List.append_nil done).symm, rfl⟩

/-- Where a node fails no run goes on. -/
theorem Performs.not_goes_on {operands below : List Value} {final : Store} {node : Node} {fault : Fault}
    (performs : Performs s done ⟨operands.reverse ++ below, final⟩) (fails : Fails node operands fault)
    (performs' : Performs s done' s'') : ¬ done.map Prod.fst ++ [node] <+: done'.map Prod.fst := by
  intro first
  obtain ⟨more, rfl, rest⟩ := performs.goes_on performs' ((List.prefix_append _ _).trans first)
  rw [List.map_append, List.prefix_append_right_inj] at first
  generalize start : (⟨operands.reverse ++ below, final⟩ : State) = state at rest
  cases rest with
  | nothing => simp at first
  | node gives more =>
    obtain ⟨stack, rfl⟩ := State.mk.inj start
    obtain rfl := (List.cons_prefix_cons.mp first).1
    obtain ⟨same, _⟩ := (gives_error_iff.mpr fails).unique gives stack
    contradiction

/-- Where a node fails every run has ended that performs first nodes of the same ones. -/
theorem Performs.length_le {operands below : List Value} {final : Store} {node : Node} {fault : Fault} {nodes rest : List Node}
    (performs : Performs s done ⟨operands.reverse ++ below, final⟩) (fails : Fails node operands fault)
    (performs' : Performs s done' s'') (before : done.map Prod.fst ++ node :: rest = nodes) (first : done'.map Prod.fst <+: nodes) :
    done'.length ≤ done.length := by
  refine Nat.le_of_not_lt fun longer => performs.not_goes_on fails performs' ?_
  refine List.prefix_of_prefix_length_le ⟨rest, ?_⟩ first (by simpa using Nat.succ_le_of_lt longer)
  rw [← before, List.append_assoc, List.singleton_append]

end

/-- The nodes performed before the first moment that there is no room for. -/
theorem Cut.map_fst_eq {moments : List Moment} {done : List (Node × Value)} (cut : Cut moments done) :
    done.map Prod.fst = (moments.takeWhile fun moment => !moment.isFull).filterMap Moment.node? := by
  obtain ⟨passed, full, rest, rfl, same, within, isFull⟩ := cut
  have passes : ∀ moment ∈ passed, (!moment.isFull) = true := fun moment mem => by rw [within moment mem, Bool.not_false]
  rw [List.takeWhile_append_of_pos passes, List.takeWhile_cons, isFull, Bool.not_true, if_neg Bool.false_ne_true,
    List.append_nil, same]

section
variable {tree : Expr} {result : Result} {done done' : List (Node × Value)} {final final' : Store}

/-- What an evaluation has done is determined by what it has come to. -/
theorem Executes.unique (executes : Executes tree store result done final) (executes' : Executes tree store result done' final') :
    done = done' ∧ final = final' := by
  cases executes with
  | all performs every =>
    cases executes' with
    | all performs' every' =>
      obtain ⟨same, states⟩ := performs.unique performs' (every.symm.trans every')
      exact ⟨same, (State.mk.inj states).2⟩
  | upTo performs before fails =>
    cases executes' with
    | @upTo _ node' rest' _ _ _ _ performs' before' fails' =>
      have nodes := before.symm.trans before'
      -- Neither run goes on to the node at which the other has failed.
      have length : done.length = done'.length := Nat.le_antisymm
        (performs'.length_le fails' performs before'.symm ⟨_, before.symm⟩)
        (performs.length_le fails performs' before.symm ⟨_, before'.symm⟩)
      obtain ⟨same, states⟩ := performs.unique performs' (List.append_inj_left nodes (by simpa using length))
      exact ⟨same, (State.mk.inj states).2⟩
    | tooDeep => cases fails
  | tooDeep performs cut =>
    cases executes' with
    | upTo _ _ fails => cases fails
    | tooDeep performs' cut' =>
      obtain ⟨same, states⟩ := performs.unique performs' (cut.map_fst_eq.trans cut'.map_fst_eq.symm)
      exact ⟨same, (State.mk.inj states).2⟩

/-- Over a store that agrees on what an expression reads, what an evaluation has done is done as well. -/
theorem Executes.transfer (executes : Executes tree store result done final)
    (agree : AgreeOn (fun name => .name name ∈ tree.postorder) store store') :
    Executes tree store' result done ((assigned done).foldl (fun store (name, value) => store.set name value) store') := by
  obtain ⟨rest, _, nodes, _⟩ := executes.performs
  have reads : ∀ name, .name name ∈ done.map Prod.fst → .name name ∈ tree.postorder := by
    intro name mem
    rw [nodes]
    exact List.mem_append_left _ mem
  cases executes with
  | all performs every => exact .all (performs.transfer reads agree) every
  | upTo performs before fails => exact .upTo (performs.transfer reads agree) before fails
  | tooDeep performs cut => exact .tooDeep (performs.transfer reads agree) cut

end

theorem sameOutcome_run (tree : Expr) (agree : AgreeOn (fun name => .name name ∈ tree.postorder) store store') :
    (run (some tree) store').1 = (run (some tree) store).1 ∧
      AgreeOn (fun name => .name name ∈ tree.postorder) (run (some tree) store).2 (run (some tree) store').2 := by
  have same := dependsOn_value [] (fun _ mem => mem) store store' agree
  simp only [run, expr]
  generalize value [] tree store = outcome at same ⊢
  generalize value [] tree store' = outcome' at same ⊢
  cases same with
  | ok _ agree => exact ⟨rfl, agree⟩
  | error _ agree => exact ⟨rfl, agree⟩

/-- What was assigned is bound to what was assigned last, whatever was bound before, and nothing else has changed. -/
theorem Executes.get?_eq {tree : Expr} {result : Result} {done : List (Node × Value)} {final : Store}
    (executes : Executes tree store result done final) (name : String) :
    final.get? name = (Store.lookup name (assigned done).reverse).or (store.get? name) := by
  obtain ⟨_, _, _, performs⟩ := executes.performs
  have bindings := performs.store_eq
  simp only at bindings
  rw [bindings, Store.get?_foldl_set]

/-- An evaluation depends on nothing but the values of the names that the expression reads. Over two stores
that agree on those it comes to the same value and the same fault and has performed the same nodes with
the same values, and what these have assigned is bound to the same in the end. The stores then still agree
on the names that are read, and in each of them the names that are not assigned in the expression are as
they were. -/
theorem run_of_agree (tree : Expr) {store store' : Store}
    (agree : ∀ name, .name name ∈ tree.postorder → store'.get name = store.get name) :
    let (result, final) := run (some tree) store
    let (result', final') := run (some tree) store'
    result' = result ∧
      (∀ name, .name name ∈ tree.postorder → final'.get name = final.get name) ∧
      (∃ done, Executes tree store result done final ∧ Executes tree store' result done final' ∧
        ∀ name value, (name, value) ∈ assigned done → final'.get? name = final.get? name) ∧
      ∀ name, .assign name ∉ tree.postorder → final.get? name = store.get? name ∧ final'.get? name = store'.get? name := by
  obtain ⟨same, agree'⟩ := sameOutcome_run tree agree
  obtain ⟨done, executes⟩ := exists_executes tree store
  obtain ⟨done', executes'⟩ := exists_executes tree store'
  generalize run (some tree) store = ran at same agree' executes ⊢
  generalize run (some tree) store' = ran' at same agree' executes' ⊢
  obtain ⟨result, final⟩ := ran
  obtain ⟨_, final'⟩ := ran'
  obtain rfl := same
  obtain ⟨rfl, _⟩ := (executes.transfer agree).unique executes'
  refine ⟨rfl, agree', ⟨done, executes, executes', fun name value mem => ?_⟩, fun name unassigned => ?_⟩
  · obtain ⟨last, found⟩ := Store.exists_lookup (List.mem_reverse.mpr mem)
    rw [executes.get?_eq, executes'.get?_eq, found, Option.some_or, Option.some_or]
  · have unbound : ∀ value, (name, value) ∉ (assigned done).reverse := fun value mem =>
      executes.not_mem_assigned unassigned value (List.mem_reverse.mp mem)
    rw [executes.get?_eq, executes'.get?_eq, Store.lookup_eq_none unbound, Option.none_or, Option.none_or]
    exact ⟨rfl, rfl⟩

end

/-- An assignment of what is read, and then a fault. -/
def spent : Expr := .binary "*" (.assign "rent" (.name "base")) (.text "a")

/-- Another name in one of the stores makes no difference, and stays as it is. -/
theorem run_of_agree_spent :
    letI := Machine.usual
    let store : Store := { bindings := [("old", .text "x"), ("base", .number 2)] }
    let store' : Store := { bindings := [("base", .number 2)] }
    (∀ name, .name name ∈ spent.postorder → store'.get name = store.get name) ∧
      (run (some spent) store').1 = (run (some spent) store).1 ∧ (run (some spent) store).1.fault ≠ none ∧
        (run (some spent) store).2.get? "old" = some (.text "x") ∧ (run (some spent) store').2.get? "old" = none := by
  let _ := Machine.usual
  intro store store'
  have agree : ∀ name, .name name ∈ spent.postorder → store'.get name = store.get name := by
    intro name mem
    obtain rfl : name = "base" := by simpa [spent, Expr.postorder] using mem
    rfl
  obtain ⟨same, _, _, kept⟩ := run_of_agree spent agree
  obtain ⟨old, old'⟩ := kept "old" (by simp [spent, Expr.postorder])
  exact ⟨agree, same, Option.some_ne_none _, old, old'⟩

end Eval

end OutlineCalc
