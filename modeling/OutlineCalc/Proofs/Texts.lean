import OutlineCalc.Machine.Usual
import OutlineCalc.Proofs.Simulation

/-!
Numbers cause no faults. How an evaluation ends, with a number, with which text or with which fault,
depends on nothing in the store but the texts that names are bound to, and so do the texts that names are
bound to when it has ended.
-/

namespace OutlineCalc

/-- Whether two values are the same text, or neither is a text. -/
def Value.SameText (v v' : Value) : Prop := ∀ s, v' = .text s ↔ v = .text s

/-- Whether two stores bind the same names to texts, and each of them to the same text. -/
def Store.SameTexts (store store' : Store) : Prop :=
  ∀ name s, store'.get? name = some (.text s) ↔ store.get? name = some (.text s)

theorem Value.sameText_cases {v v' : Value} (same : v.SameText v') :
    (∃ s, v = .text s ∧ v' = .text s) ∨ (Eval.IsNumber v ∧ Eval.IsNumber v') := by
  by_cases text : ∃ s, v = .text s
  · obtain ⟨s, rfl⟩ := text
    exact .inl ⟨s, rfl, (same s).mpr rfl⟩
  · have number : Eval.IsNumber v := fun s isText => text ⟨s, isText⟩
    exact .inr ⟨number, fun s isText => number s ((same s).mp isText)⟩

theorem Value.sameText_of_isNumber {v v' : Value} (number : Eval.IsNumber v) (number' : Eval.IsNumber v') : v.SameText v' :=
  fun s => iff_of_false (number' s) (number s)

/-- A name without a value reads as no text, and so it is in a store that does not bind it. -/
theorem Store.get_eq_text_iff (store : Store) (name s : String) : store.get name = .text s ↔ store.get? name = some (.text s) := by
  rw [get]
  cases store.get? name <;> simp

namespace Eval

open Value (SameText sameText_cases sameText_of_isNumber)
open Store (SameTexts)

variable {v v' : Value}

/-! ## What a node by itself does -/

/-- As an operand a text is refused with the same fault, and any number is taken. -/
theorem matches_operand (op : String) (same : SameText v v') :
    Matches (fun _ _ => True) (Builtin.operand op v) (Builtin.operand op v') := by
  rcases sameText_cases same with ⟨s, rfl, rfl⟩ | ⟨number, number'⟩
  · exact .error _
  · obtain ⟨x, taken⟩ := operand_eq op number
    obtain ⟨x', taken'⟩ := operand_eq op number'
    rw [taken, taken']
    exact .ok trivial

theorem isNumber_negation (number : IsNumber v) : IsNumber (Builtin.negation v) := by
  cases v with
  | text s => exact number
  | _ => exact nofun

theorem matches_unary (op : String) (same : SameText v v') : Matches SameText (Builtin.unary op v) (Builtin.unary op v') := by
  have looked := matches_operand op same
  rcases sameText_cases same with ⟨s, rfl, rfl⟩ | ⟨number, number'⟩
  · exact .error _
  · unfold Builtin.unary
    generalize Builtin.operand op v = outcome at looked ⊢
    generalize Builtin.operand op v' = outcome' at looked ⊢
    cases looked with
    | error fault => exact .error fault
    | ok =>
      simp only
      split
      · exact .ok (sameText_of_isNumber (isNumber_negation number) (isNumber_negation number'))
      · exact .error _

theorem matches_onNumbers (op : String) {x x' y y' : Value} (first : SameText x x') (second : SameText y y') :
    Matches SameText (Builtin.onNumbers op x y) (Builtin.onNumbers op x' y') := by
  apply (matches_operand op first).bind
  intro a a' _
  apply (matches_operand op second).bind
  intro b b' _
  cases Builtin.arithmetic? op with
  | none => exact .error _
  | some f => exact .ok (sameText_of_isNumber nofun nofun)

/-- Two texts are joined to the same text, and where one of the values is a number both are looked at as numbers. -/
theorem matches_binary (op : String) {x x' y y' : Value} (first : SameText x x') (second : SameText y y') :
    Matches SameText (Builtin.binary op x y) (Builtin.binary op x' y') := by
  have numbers := matches_onNumbers op first second
  rcases sameText_cases first with ⟨s, rfl, rfl⟩ | ⟨number, number'⟩
  · rcases sameText_cases second with ⟨t, rfl, rfl⟩ | ⟨number, number'⟩
    · simp only [Builtin.binary]
      split
      · exact .ok fun _ => Iff.rfl
      · exact numbers
    · rwa [binary_eq_onNumbers fun _ _ _ => number, binary_eq_onNumbers fun _ _ _ => number']
  · rwa [binary_eq_onNumbers fun s isText => absurd isText (number s), binary_eq_onNumbers fun s isText => absurd isText (number' s)]

theorem matches_mapM_operand (op : String) {args args' : List Value} (same : List.Forall₂ SameText args args') :
    Matches (fun numbers numbers' => numbers.length = numbers'.length)
      (args.mapM (Builtin.operand op)) (args'.mapM (Builtin.operand op)) := by
  induction same with
  | nil => exact .ok rfl
  | cons first _ ih =>
    rw [List.mapM_cons, List.mapM_cons]
    apply (matches_operand op first).bind
    intro x x' _
    apply ih.bind
    intro numbers numbers' length
    exact .ok (by simp [length])

section
variable [Machine]

theorem matches_call (name : String) {args args' : List Value} (same : List.Forall₂ SameText args args') :
    Matches SameText (Builtin.call name args) (Builtin.call name args') := by
  unfold Builtin.call
  rw [← same.length_eq]
  cases Builtin.function? name with
  | none => exact .error _
  | some function =>
    simp only
    split
    · apply (matches_mapM_operand (name ++ "()") same).bind
      intro numbers numbers' length
      -- both are as many as the function takes, or neither are
      have applies : (function.result? numbers).isSome = (function.result? numbers').isSome := by
        rw [function.isSome_result?, function.isSome_result?, length]
      cases given : function.result? numbers with
      | none =>
        rw [given, Option.isSome_none, eq_comm, Option.isSome_eq_false_iff, Option.isNone_iff_eq_none] at applies
        rw [applies]
        exact .error _
      | some x =>
        rw [given, Option.isSome_some, eq_comm, Option.isSome_iff_exists] at applies
        obtain ⟨x', given'⟩ := applies
        rw [given']
        exact .ok (sameText_of_isNumber nofun nofun)
    · exact .error _

/-- No node looks at more of its operands than which texts they are. -/
theorem keeps_sameTexts : Keeps (fun _ => True) SameTexts SameText where
  refl _ _ := Iff.rfl
  read name _ stores := by
    intro s
    rw [Store.get_eq_text_iff, Store.get_eq_text_iff]
    exact stores name s
  assign := by
    intro store store' v v' name stores values other s
    rw [Store.get?_set, Store.get?_set]
    by_cases here : other = name
    · rw [if_pos here, if_pos here, Option.some_inj, Option.some_inj]
      exact values s
    · rw [if_neg here, if_neg here]
      exact stores other s
  unary op _ _ := matches_unary op
  binary op _ _ _ _ := matches_binary op
  call name _ _ := matches_call name

/-! ## The whole evaluation -/

/-- Over two stores that bind the same names to the same texts, whatever else they bind, an expression is
evaluated with the same fault or without one, and to the same text or to a number. Afterwards the stores
again bind the same names to the same texts. -/
theorem run_of_sameTexts (tree : Option Expr) {store store' : Store}
    (same : ∀ name s, store'.get? name = some (.text s) ↔ store.get? name = some (.text s)) :
    let (result, final) := run tree store
    let (result', final') := run tree store'
    result'.fault = result.fault ∧ (∀ s, result'.value = .text s ↔ result.value = .text s) ∧
      ∀ name s, final'.get? name = some (.text s) ↔ final.get? name = some (.text s) := by
  cases tree with
  | none => exact ⟨rfl, fun _ => Iff.rfl, same⟩
  | some tree =>
    have reads : ∀ name, .name name ∈ tree.postorder → True := fun _ _ => trivial
    obtain ⟨value, fault, texts⟩ := simulates_run keeps_sameTexts reads same
    exact ⟨fault, value, texts⟩

end

/-- `(unit = 'kg' + unit) + abs(total / count)`, which joins texts and then asks for a number. -/
def weighed : Expr :=
  .binary "+" (.assign "unit" (.binary "+" (.text "kg") (.name "unit"))) (.call "abs" [.binary "/" (.name "total") (.name "count")])

/-- A quotient of two numbers over one store, of nothing by nothing over the other: the fault is the same. -/
theorem run_of_sameTexts_weighed :
    letI := Machine.usual
    let store : Store := { bindings := [("unit", .text "s"), ("total", .number 6), ("count", .number 3)] }
    let store' : Store := { bindings := [("count", .number 0), ("unit", .text "s")] }
    (∀ name s, store'.get? name = some (.text s) ↔ store.get? name = some (.text s)) ∧
      (run (some weighed) store').1.fault = some (.textOperand "+" "kgs") ∧
        (run (some weighed) store').2.get? "unit" = some (.text "kgs") := by
  let _ := Machine.usual
  intro store store'
  have same : ∀ name s, store'.get? name = some (.text s) ↔ store.get? name = some (.text s) := by
    intro name s
    simp only [store, store', Store.get?, Store.lookup]
    by_cases unit : name = "unit"
    · simp [unit]
    · by_cases count : name = "count" <;> by_cases total : name = "total" <;> simp [unit, count, total]
  obtain ⟨fault, _, texts⟩ := run_of_sameTexts (some weighed) same
  exact ⟨same, fault.trans rfl, (texts "unit" "kgs").mpr rfl⟩

end Eval

end OutlineCalc
