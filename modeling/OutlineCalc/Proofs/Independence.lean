import OutlineCalc.Proofs.Dependence

/-!
Expressions that can be evaluated in either order. What an evaluation does to a store is to bind some of
the names that its expression assigns, and over every store that agrees on the names that the expression
reads it binds the same names to the same values. So two expressions neither of which assigns what the
other one reads or assigns do not notice each other.
-/

namespace OutlineCalc.Eval

/-- The nodes of an expression, if there is one. -/
def nodes : Option Expr → List Node
  | none => []
  | some tree => tree.postorder

/-- Whether two expressions assign no name in common and neither assigns a name that the other reads. -/
structure Independent (first second : Option Expr) : Prop where
  unread : ∀ name, .assign name ∈ nodes first → .name name ∉ nodes second
  unread' : ∀ name, .assign name ∈ nodes second → .name name ∉ nodes first
  apart : ∀ name, .assign name ∈ nodes first → .assign name ∉ nodes second

/-- A store in which some names are bound to values, one after the other. -/
def boundAll (effect : List (String × Value)) (store : Store) : Store :=
  effect.foldl (fun store (name, value) => store.set name value) store

theorem get?_boundAll (effect : List (String × Value)) (store : Store) (name : String) :
    (boundAll effect store).get? name = (Store.lookup name effect.reverse).or (store.get? name) :=
  store.get?_foldl_set name effect

section
variable [Machine]

/-- What an evaluation binds: names that the expression assigns, to the same values over every store that
agrees on what the expression reads. -/
structure Effect (tree : Option Expr) (store : Store) (effect : List (String × Value)) : Prop where
  assigned : ∀ name value, (name, value) ∈ effect → .assign name ∈ nodes tree
  run_eq : ∀ store', (∀ name, .name name ∈ nodes tree → store'.get name = store.get name) →
    run tree store' = ((run tree store).1, boundAll effect store')

theorem exists_effect (tree : Option Expr) (store : Store) : ∃ effect, Effect tree store effect := by
  cases tree with
  | none => exact ⟨[], nofun, fun _ _ => rfl⟩
  | some tree =>
    obtain ⟨done, executes⟩ := exists_executes tree store
    refine ⟨Eval.assigned done, ?_, ?_⟩
    · intro name value mem
      apply Classical.byContradiction
      intro unassigned
      exact executes.not_mem_assigned unassigned value mem
    · intro store' agree
      obtain ⟨same, _⟩ := sameOutcome_run tree agree
      obtain ⟨done', executes'⟩ := exists_executes tree store'
      have transferred := executes.transfer agree
      rw [same] at executes'
      obtain ⟨_, final⟩ := transferred.unique executes'
      exact Prod.ext same final.symm

section
variable {tree : Option Expr} {store : Store} {effect : List (String × Value)}

/-- A name that an expression does not assign is not among those that its evaluation binds. -/
theorem Effect.lookup_eq_none (does : Effect tree store effect) {name : String} (unassigned : .assign name ∉ nodes tree) :
    Store.lookup name effect.reverse = none := by
  apply Store.lookup_eq_none
  intro value mem
  exact unassigned (does.assigned name value (List.mem_reverse.mp mem))

theorem Effect.run_self (does : Effect tree store effect) : run tree store = ((run tree store).1, boundAll effect store) :=
  does.run_eq store fun _ _ => rfl

/-- An expression that does not read what another one assigns is evaluated after it as without it. -/
theorem Effect.run_after (does : Effect tree store effect) {other : Option Expr} {effect' : List (String × Value)}
    (does' : Effect other store effect') (unread : ∀ name, .assign name ∈ nodes other → .name name ∉ nodes tree) :
    run tree (boundAll effect' store) = ((run tree store).1, boundAll effect (boundAll effect' store)) := by
  apply does.run_eq
  intro name read
  have kept := does'.lookup_eq_none fun assigned => unread name assigned read
  rw [Store.get, Store.get, get?_boundAll, kept, Option.none_or]

end

/-- Two expressions that are independent of each other come to the same values and faults in either order,
and leave every name bound to the same value, whether one of them fails, or both, or none. -/
theorem run_comm {first second : Option Expr} (independent : Independent first second) (store : Store) :
    let (result, after) := run first store
    let (result', final) := run second after
    let (swapped', after') := run second store
    let (swapped, final') := run first after'
    swapped = result ∧ swapped' = result' ∧ ∀ name, final'.get? name = final.get? name := by
  obtain ⟨effect, does⟩ := exists_effect first store
  obtain ⟨effect', does'⟩ := exists_effect second store
  rw [does.run_self, does'.run_self]
  simp only [does'.run_after does independent.unread, does.run_after does' independent.unread', true_and]
  intro name
  rw [get?_boundAll, get?_boundAll, get?_boundAll, get?_boundAll]
  -- of the two expressions at most one assigns the name
  by_cases assigned : .assign name ∈ nodes first
  · rw [does'.lookup_eq_none (independent.apart name assigned), Option.none_or, Option.none_or]
  · rw [does.lookup_eq_none assigned, Option.none_or, Option.none_or]

end

/-- A value below what `spent` reads as well, with an assignment among the arguments of a call. -/
def saved : Expr := .assign "saved" (.binary "-" (.name "base") (.call "abs" [.assign "fee" (.number 1)]))

/-- The first of two lines fails after it has bound a name, and both read a third. -/
theorem run_comm_spent :
    letI := Machine.usual
    let store : Store := { bindings := [("base", .number 2)] }
    Independent (some spent) (some saved) ∧ (run (some spent) store).1.fault ≠ none ∧
      (run (some spent) (run (some saved) store).2).1 = (run (some spent) store).1 ∧
        (run (some spent) (run (some saved) store).2).2.get? "fee" =
          (run (some saved) (run (some spent) store).2).2.get? "fee" := by
  let _ := Machine.usual
  intro store
  have independent : Independent (some spent) (some saved) := by
    constructor <;> simp [nodes, spent, saved, Expr.postorder, Expr.postorders]
  obtain ⟨same, _, bindings⟩ := run_comm independent store
  exact ⟨independent, Option.some_ne_none _, same, bindings "fee"⟩

end OutlineCalc.Eval
