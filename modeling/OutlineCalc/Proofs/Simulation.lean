import Mathlib.Data.List.Forall2
import OutlineCalc.Proofs.Postorder

/-!
Two evaluations of one expression side by side, over two stores. Where each node by itself keeps values
related and stores alike, the whole evaluation does: both runs come to related values or to the same fault,
and the stores are alike again.
-/

namespace OutlineCalc.Eval

variable {α β : Type} {alike : Store → Store → Prop}

/-- Whether two outcomes are related values or the same fault. -/
inductive Matches (related : α → α → Prop) : Except Fault α → Except Fault α → Prop
  | ok {a a' : α} (values : related a a') : Matches related (.ok a) (.ok a')
  | error (fault : Fault) : Matches related (.error fault) (.error fault)

theorem Matches.bind {related : α → α → Prop} {related' : β → β → Prop} {outcome outcome' : Except Fault α}
    {next next' : α → Except Fault β} (same : Matches related outcome outcome')
    (continues : ∀ a a', related a a' → Matches related' (next a) (next' a')) :
    Matches related' (outcome >>= next) (outcome' >>= next') := by
  cases same with
  | ok values => exact continues _ _ values
  | error fault => exact .error fault

/-- Whether two evaluations have ended with related values or with the same fault, over stores that are alike. -/
inductive EndAlike (alike : Store → Store → Prop) (related : α → α → Prop) :
    EStateM.Result Fault Store α → EStateM.Result Fault Store α → Prop
  | ok {a a' : α} {after after' : Store} (values : related a a') (stores : alike after after') :
      EndAlike alike related (.ok a after) (.ok a' after')
  | error (fault : Fault) {after after' : Store} (stores : alike after after') :
      EndAlike alike related (.error fault after) (.error fault after')

/-- Whether two evaluations end alike over all stores that are alike. -/
def Simulates (alike : Store → Store → Prop) (related : α → α → Prop) (evaluation evaluation' : Step α) : Prop :=
  ∀ store store', alike store store' → EndAlike alike related (evaluation store) (evaluation' store')

theorem simulates_pure {related : α → α → Prop} {a a' : α} (values : related a a') :
    Simulates alike related (pure a) (pure a') := fun _ _ stores => .ok values stores

theorem simulates_lift {related : α → α → Prop} {outcome outcome' : Except Fault α} (same : Matches related outcome outcome') :
    Simulates alike related (lift outcome) (lift outcome') := by
  intro store store' stores
  cases same with
  | ok values => exact .ok values stores
  | error fault => exact .error fault stores

theorem Simulates.bind {related : α → α → Prop} {related' : β → β → Prop} {first first' : Step α} {next next' : α → Step β}
    (simulates : Simulates alike related first first')
    (continues : ∀ a a', related a a' → Simulates alike related' (next a) (next' a')) :
    Simulates alike related' (first >>= next) (first' >>= next') := by
  intro store store' stores
  have started := simulates store store' stores
  rw [bind_eq, bind_eq]
  generalize first store = outcome at started ⊢
  generalize first' store' = outcome' at started ⊢
  cases started with
  | ok values stores => exact continues _ _ values _ _ stores
  | error fault stores => exact .error fault stores

theorem simulates_room (isFull : Bool) : Simulates alike Eq (room isFull) (room isFull) := by
  cases isFull with
  | false => exact simulates_pure rfl
  | true => exact fun _ _ stores => .error .tooDeep stores

theorem simulates_mapM {related : β → β → Prop} {evaluate : Expr → Step β} {args : List Expr}
    (each : ∀ e ∈ args, Simulates alike related (evaluate e) (evaluate e)) :
    Simulates alike (List.Forall₂ related) (args.mapM evaluate) (args.mapM evaluate) := by
  induction args with
  | nil => exact simulates_pure .nil
  | cons e args ih =>
    rw [List.mapM_cons]
    apply (each e List.mem_cons_self).bind
    intro value value' first
    apply (ih fun other mem => each other (List.mem_cons_of_mem e mem)).bind
    intro values values' rest
    exact simulates_pure (.cons first rest)

variable [Machine]

theorem Simulates.node {related : α → α → Prop} {related' : Value → Value → Prop} {operands : Step α} {last : α → Step Value}
    (simulates : Simulates alike related operands operands) (path : List Expr)
    (continues : ∀ a a', related a a' → Simulates alike related' (last a) (last a')) :
    Simulates alike related' (Eval.node path operands last) (Eval.node path operands last) := by
  apply (simulates_room _).bind
  intro _ _ _
  apply simulates.bind
  intro a a' same
  apply (simulates_room _).bind
  intro _ _ _
  exact continues a a' same

/-- Whether every node keeps values related and stores alike, where only the names of `names` are read. -/
structure Keeps (names : String → Prop) (alike : Store → Store → Prop) (related : Value → Value → Prop) : Prop where
  refl : ∀ v, related v v
  read : ∀ {store store'} name, names name → alike store store' → related (store.get name) (store'.get name)
  assign : ∀ {store store' v v'} name, alike store store' → related v v' → alike (store.set name v) (store'.set name v')
  unary : ∀ op {v v'}, related v v' → Matches related (Builtin.unary op v) (Builtin.unary op v')
  binary : ∀ op {x x' y y'}, related x x' → related y y' → Matches related (Builtin.binary op x y) (Builtin.binary op x' y')
  call : ∀ name {args args'}, List.Forall₂ related args args' → Matches related (Builtin.call name args) (Builtin.call name args')

/-- What every node of an expression keeps, its evaluation keeps. -/
theorem simulates_value {names : String → Prop} {related : Value → Value → Prop} (keeps : Keeps names alike related)
    (above : List Expr) {e : Expr} (reads : ∀ name, .name name ∈ e.postorder → names name) :
    Simulates alike related (value above e) (value above e) := by
  have none : Simulates alike Eq (pure () : Step Unit) (pure ()) := simulates_pure rfl
  induction e using Expr.induct generalizing above with
  | number x => exact none.node _ fun _ _ _ => simulates_pure (keeps.refl _)
  | text s => exact none.node _ fun _ _ _ => simulates_pure (keeps.refl _)
  | name n =>
    refine none.node _ fun _ _ _ store store' stores => ?_
    exact .ok (keeps.read n (reads n (by simp [Expr.postorder])) stores) stores
  | assign n value ih =>
    apply (ih _ fun name mem => reads name (by simp [Expr.postorder, mem])).node
    intro v v' values
    have binds : Simulates alike (fun _ _ => True) (modify (·.set n v)) (modify (·.set n v')) :=
      fun _ _ stores => .ok trivial (keeps.assign n stores values)
    exact binds.bind fun _ _ _ => simulates_pure values
  | unary op operand ih =>
    apply (ih _ fun name mem => reads name (by simp [Expr.postorder, mem])).node
    intro v v' values
    exact simulates_lift (keeps.unary op values)
  | binary op left right ih ih' =>
    have operands : Simulates alike (fun (v v' : Value × Value) => related v.1 v'.1 ∧ related v.2 v'.2)
        (do return (← value (.binary op left right :: above) left, ← value (.binary op left right :: above) right))
        (do return (← value (.binary op left right :: above) left, ← value (.binary op left right :: above) right)) := by
      apply (ih _ fun name mem => reads name (by simp [Expr.postorder, mem])).bind
      intro x x' first
      apply (ih' _ fun name mem => reads name (by simp [Expr.postorder, mem])).bind
      intro y y' second
      exact simulates_pure ⟨first, second⟩
    apply operands.node
    intro values values' same
    exact simulates_lift (keeps.binary op same.1 same.2)
  | call n args ih =>
    have each : ∀ e ∈ args, Simulates alike related (value (.call n args :: above) e) (value (.call n args :: above) e) := by
      intro e mem
      apply ih e mem
      intro name within
      exact reads name (List.mem_append_left _ (Expr.mem_postorders.mpr ⟨e, mem, within⟩))
    rw [value, values_eq_mapM]
    apply (simulates_mapM each).node
    intro values values' same
    exact simulates_lift (keeps.call n same)

/-- Over stores that are alike an expression is evaluated to related values and the same fault. -/
theorem simulates_run {names : String → Prop} {related : Value → Value → Prop} (keeps : Keeps names alike related)
    {tree : Expr} (reads : ∀ name, .name name ∈ tree.postorder → names name) {store store' : Store} (stores : alike store store') :
    related (run (some tree) store).1.value (run (some tree) store').1.value ∧
      (run (some tree) store').1.fault = (run (some tree) store).1.fault ∧
      alike (run (some tree) store).2 (run (some tree) store').2 := by
  have ends := simulates_value keeps [] reads store store' stores
  simp only [run, expr]
  generalize value [] tree store = outcome at ends ⊢
  generalize value [] tree store' = outcome' at ends ⊢
  cases ends with
  | ok values stores => exact ⟨values, rfl, stores⟩
  | error fault stores => exact ⟨keeps.refl _, rfl, stores⟩

end OutlineCalc.Eval
