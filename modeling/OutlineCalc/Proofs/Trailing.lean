import OutlineCalc.Machine.Usual
import OutlineCalc.Proofs.Longest

/-!
The expression of a line of free text. It is settled by the grammar alone: it stands from the
earliest place from which all the rest of the line is an expression, unless that is only a name
behind other words; otherwise it is the longest one at the start of the line.
-/

namespace OutlineCalc.Grammar
open OutlineCalc.Parse

/-- All tokens from a place up to the end of the line are an expression that stands for `node`. -/
def Trailing (tokens : List Token) (s : Nat) (node : Expr) : Prop :=
  Derives tokens .expression s (tokens.idxOf .endOfLine) node

/-- A place from which all the rest of the line is an expression, with no such place before it. -/
structure Earliest (tokens : List Token) (s : Nat) (node : Expr) : Prop where
  trailing : Trailing tokens s node
  least : ∀ r other, Trailing tokens r other → s ≤ r

variable {tokens : List Token}

private theorem atEnd_drop_iff {next : Nat} (within : next ≤ tokens.idxOf .endOfLine) :
    AtEnd (tokens.drop next) ↔ next = tokens.idxOf .endOfLine := by
  by_cases inside : next < tokens.length
  · rw [List.drop_eq_getElem_cons inside]
    constructor
    · intro atEnd
      refine Nat.le_antisymm within (Nat.le_of_not_lt fun before => ?_)
      have differs := List.not_of_lt_findIdx before
      simp only [beq_eq_false_iff_ne] at differs
      exact differs atEnd
    · rintro rfl
      exact List.getElem_idxOf inside
  · have bound : tokens.idxOf .endOfLine ≤ tokens.length := List.idxOf_le_length
    rw [List.drop_eq_nil_of_le (by omega)]
    exact ⟨fun _ => by omega, fun _ => trivial⟩

/-- A place from `i` on from which all the rest of the line is an expression, with no such place from `i`
on before it. -/
private structure EarliestFrom (tokens : List Token) (i s : Nat) (node : Expr) : Prop where
  later : i ≤ s
  trailing : Trailing tokens s node
  least : ∀ r other, i ≤ r → Trailing tokens r other → s ≤ r

/-- Whether a search from place `i` on has found the expression from the earliest place from there on,
unless that is a name behind the start of the line. -/
private def Searched (tokens : List Token) (i : Nat) : Except Parse.Fault (Option Expr) → Prop
  | .error _ => True
  | .ok none => ∀ s node, EarliestFrom tokens i s node → s ≠ 0 ∧ node.isName = true
  | .ok (some node) => ∃ s, EarliestFrom tokens i s node ∧ (s = 0 ∨ node.isName = false) ∧
      ∀ other, Trailing tokens s other → other = node

private theorem earliestFrom_succ_iff {i s : Nat} {node : Expr} (without : ∀ node, ¬ Trailing tokens i node) :
    EarliestFrom tokens (i + 1) s node ↔ EarliestFrom tokens i s node := by
  have later : ∀ r other, i ≤ r → Trailing tokens r other → i + 1 ≤ r := by
    intro r other low trailing
    by_cases here : r = i
    · exact absurd (here ▸ trailing) (without other)
    · omega
  constructor
  · intro earliest
    have := earliest.later
    exact ⟨by omega, earliest.trailing, fun r other low trailing => earliest.least r other (later r other low trailing) trailing⟩
  · intro earliest
    exact ⟨later s node earliest.later earliest.trailing, earliest.trailing, fun r other low => earliest.least r other (by omega)⟩

private theorem Searched.of_not_trailing {i : Nat} {found : Except Parse.Fault (Option Expr)}
    (searched : Searched tokens (i + 1) found) (without : ∀ node, ¬ Trailing tokens i node) : Searched tokens i found := by
  cases found with
  | error => trivial
  | ok node? =>
    cases node? <;>
    · simp only [Searched, earliestFrom_succ_iff without] at searched ⊢
      exact searched

/-- The reading of an expression from a place reaches the end of the line exactly when all the rest
of the line is one. -/
private theorem trailing_of_atEnd (once : .endOfLine ∉ tokens.dropLast) {s next : Nat} {node : Expr}
    (longest : Longest tokens .expression s next node) (atEnd : AtEnd (tokens.drop next)) :
    Trailing tokens s node ∧ ∀ other, Trailing tokens s other → other = node := by
  obtain rfl := (atEnd_drop_iff (longest.derives.spans.le_idxOf once)).mp atEnd
  exact ⟨longest.derives, longest.unique⟩

private theorem not_trailing_of_not_atEnd (once : .endOfLine ∉ tokens.dropLast) {s next : Nat} {node : Expr}
    (longest : Longest tokens .expression s next node) (more : ¬ AtEnd (tokens.drop next)) (other : Expr) :
    ¬ Trailing tokens s other := by
  intro trailing
  have within := longest.derives.spans.le_idxOf once
  have := longest.greatest _ other trailing
  exact more ((atEnd_drop_iff within).mpr (by omega))

section
variable [Machine]

private theorem searched_trailing (once : .endOfLine ∉ tokens.dropLast) (i : Nat) :
    Searched tokens i (trailing (decide (i = 0)) (tokens.drop i)) := by
  -- where the line has ended nothing is left to be an expression
  have ended {i : Nat} (atEnd : AtEnd (tokens.drop i)) : Searched tokens i (.ok none) := by
    intro s node earliest
    have later := earliest.later
    have inside := earliest.trailing.spans.1
    have := (atEnd_drop_iff (by omega)).mp atEnd
    omega
  generalize left : tokens.length - i = remaining
  induction remaining generalizing i with
  | zero =>
    have nothing : tokens.drop i = [] := List.drop_eq_nil_of_le (by omega)
    have atEnd : AtEnd (tokens.drop i) := by rw [nothing]; trivial
    rw [nothing]
    exact ended atEnd
  | succ remaining ih =>
    have after := ih (i + 1) (by omega)
    have inside : i < tokens.length := by omega
    generalize rest : tokens.drop i = here
    unfold trailing
    split
    · exact ended (by rw [rest]; trivial)
    · exact ended (by rw [rest]; rfl)
    · rename_i token more _
      obtain rfl : tokens.drop (i + 1) = more := by rw [← List.drop_drop, rest]; rfl
      rw [← rest]
      cases outcome : Rule.expression.read 2 (tokens.drop i) with
      | tooDeep => trivial
      | absent => exact after.of_not_trailing fun node => not_derives_of_read outcome _ node
      | found node rest =>
        obtain ⟨next, rfl, longest⟩ := longest_of_read outcome
        simp only
        split
        · rename_i atEnd
          obtain ⟨trailing, unique⟩ := trailing_of_atEnd once longest atEnd
          have earliest : EarliestFrom tokens i i node := ⟨Nat.le_refl i, trailing, fun r other low _ => low⟩
          split
          · rename_i counts
            exact ⟨i, earliest, by simpa using counts, unique⟩
          · rename_i passed
            intro s other earliest'
            obtain rfl : s = i := Nat.le_antisymm (earliest'.least i node (Nat.le_refl i) trailing) earliest'.later
            obtain rfl := unique other earliest'.trailing
            simpa using passed
        · rename_i more
          exact after.of_not_trailing (not_trailing_of_not_atEnd once longest more)

/-- What the line starts with is the longest expression there. -/
private theorem leading_iff {calls : Nat} (shallow : leading calls tokens ≠ .error .tooDeep) :
    (∀ node, leading calls tokens = .ok (some node) ↔ ∃ next, Longest tokens .expression 0 next node) ∧
      (leading calls tokens = .ok none ↔ ∀ next node, ¬ Derives tokens .expression 0 next node) := by
  unfold leading at shallow ⊢
  cases outcome : Rule.expression.read calls tokens with
  | tooDeep =>
    rw [outcome] at shallow
    exact absurd rfl shallow
  | absent =>
    have nothing : ∀ next node, ¬ Derives tokens .expression 0 next node := not_derives_of_read outcome
    refine ⟨fun node => ⟨nofun, ?_⟩, iff_of_true rfl nothing⟩
    rintro ⟨next, longest⟩
    exact absurd longest.derives (nothing next node)
  | found first rest =>
    obtain ⟨next, _, longest⟩ : ∃ next, rest = tokens.drop next ∧ Longest tokens .expression 0 next first :=
      longest_of_read outcome
    refine ⟨fun node => ⟨?_, ?_⟩, ⟨nofun, fun none => absurd longest.derives (none next first)⟩⟩
    · rintro ⟨⟩
      exact ⟨next, longest⟩
    · rintro ⟨next', longest'⟩
      exact congrArg (Except.ok ∘ some) (longest'.eq longest).2

/-- The expression of a line of free text, from the grammar alone. -/
theorem line_eq_trailing (once : .endOfLine ∉ tokens.dropLast) (shallow : line tokens ≠ .error .tooDeep) :
    (∀ s node, Earliest tokens s node → s = 0 ∨ node.isName = false →
      line tokens = .ok (some node) ∧ ∀ other, Trailing tokens s other → other = node) ∧
    ((∀ s node, Earliest tokens s node → s ≠ 0 ∧ node.isName = true) →
      (∀ node, line tokens = .ok (some node) ↔ ∃ next, Longest tokens .expression 0 next node) ∧
      (line tokens = .ok none ↔ ∀ next node, ¬ Derives tokens .expression 0 next node)) := by
  have searched : Searched tokens 0 (trailing true tokens) := searched_trailing once 0
  have fromStart {s : Nat} {node : Expr} : EarliestFrom tokens 0 s node ↔ Earliest tokens s node :=
    ⟨fun earliest => ⟨earliest.trailing, fun r other => earliest.least r other (Nat.zero_le r)⟩,
      fun earliest => ⟨Nat.zero_le s, earliest.trailing, fun r other _ => earliest.least r other⟩⟩
  rw [line] at shallow ⊢
  generalize trailing true tokens = found at searched shallow ⊢
  cases found with
  | error fault =>
    cases fault
    exact absurd rfl shallow
  | ok node? =>
    cases node? with
    | none =>
      simp only [Searched, fromStart] at searched
      refine ⟨fun s node earliest counts => ?_, fun _ => leading_iff shallow⟩
      obtain ⟨later, isName⟩ := searched s node earliest
      rcases counts with start | notName
      · exact absurd start later
      · rw [isName] at notName
        contradiction
    | some first =>
      simp only [Searched, fromStart] at searched
      obtain ⟨s, earliest, counts, unique⟩ := searched
      constructor
      · intro s' node earliest' _
        obtain rfl : s' = s := Nat.le_antisymm (earliest'.least s first earliest.trailing) (earliest.least s' node earliest'.trailing)
        obtain rfl := unique node earliest'.trailing
        exact ⟨rfl, unique⟩
      · intro onlyNames
        obtain ⟨later, isName⟩ := onlyNames s first earliest
        rcases counts with start | notName
        · exact absurd start later
        · rw [isName] at notName
          contradiction

end

/-- `x: -y`, which is an expression from its start to its end. -/
def namedNegation : List Token := [.name "x", .mark .colon, .mark .minus, .name "y", .endOfLine]

/-- A line that is an expression as a whole stands for that expression. -/
theorem line_of_namedNegation :
    letI := Machine.usual
    .endOfLine ∉ namedNegation.dropLast ∧ line namedNegation ≠ .error .tooDeep ∧
      line namedNegation = .ok (some (.assign "x" (.unary "-" (.name "y")))) := by
  let _ := Machine.usual
  have once : .endOfLine ∉ namedNegation.dropLast := by decide
  have shallow : line namedNegation ≠ .error .tooDeep := by
    rw [show line namedNegation = .ok (some (.assign "x" (.unary "-" (.name "y")))) from rfl]
    exact nofun
  have value : Derives namedNegation .term 2 4 (.unary "-" (.name "y")) :=
    .sum (.product (.minus rfl (.primary (.name rfl))) .done) .done
  have trailing : Trailing namedNegation 0 (.assign "x" (.unary "-" (.name "y"))) :=
    .statement (.assign rfl rfl (.inr rfl) value)
  exact ⟨once, shallow, ((line_eq_trailing once shallow).1 0 _ ⟨trailing, fun _ _ _ => Nat.zero_le _⟩ (.inl rfl)).1⟩

end OutlineCalc.Grammar
