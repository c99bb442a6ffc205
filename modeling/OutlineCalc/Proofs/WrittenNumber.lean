import OutlineCalc.Amount
import OutlineCalc.Calculation
import OutlineCalc.Proofs.Depth
import OutlineCalc.Proofs.MaximalMunch
import OutlineCalc.Proofs.Nearest
import OutlineCalc.Proofs.Postorder

/-!
Numbers in decimal digits. The digits that a number is shown in stand for that number, and what is
left out of them, the zeros at the end of a fraction, is worth nothing. A line of nothing but a written
number, with or without a minus sign, is calculated to the double nearest to it.
-/

namespace OutlineCalc.Numeral

open Letter (isDigit)

private theorem digitsValue_eq (digits : List Char) : digitsValue digits = Nat.ofDigitChars 10 digits 0 := rfl

theorem digitsValue_append (high low : List Char) :
    digitsValue (high ++ low) = 10 ^ low.length * digitsValue high + digitsValue low := by
  simp only [digitsValue_eq, Nat.ofDigitChars_append]
  exact Nat.ofDigitChars_eq_ofDigitChars_zero

theorem digitsValue_zeros (count : Nat) : digitsValue (List.replicate count '0') = 0 := by
  rw [digitsValue_eq, Nat.ofDigitChars_replicate_zero, Nat.mul_zero]

theorem digitsValue_digitChar {d : Nat} (below : d < 10) : digitsValue [Nat.digitChar d] = d := by
  rw [digitsValue_eq, Nat.ofDigitChars_cons_digitChar_of_lt_ten below, Nat.ofDigitChars_nil, Nat.mul_zero, Nat.zero_add]

theorem digitsValue_toDigits (n : Nat) : digitsValue (Nat.toDigits 10 n) = n := Nat.ofDigitChars_ten_toDigits

/-- Whether a number is written in digits, with at least one before the point. -/
structure Written (n : Numeral) : Prop where
  nonempty : n.whole ≠ []
  whole : ∀ c ∈ n.whole, isDigit c = true
  fraction : ∀ c ∈ n.fraction, isDigit c = true

/-- A written number is one token where neither a digit nor a point follows. -/
theorem Written.lexeme {n : Numeral} (written : n.Written) {rest : List Char}
    (ended : ∀ c ∈ rest.head?, isDigit c = false ∧ c ≠ '.') : Scan.Lexeme (.number n) n.chars rest := by
  obtain ⟨whole, fraction⟩ := n
  by_cases none : fraction = []
  · subst none
    refine .whole written.nonempty written.whole (fun c mem => (ended c mem).1) fun c more point => ?_
    exact absurd rfl (ended '.' (by rw [point]; rfl)).2
  · have chars : (Numeral.mk whole fraction).chars = whole ++ '.' :: fraction := by simp [Numeral.chars, none]
    rw [chars]
    exact .fraction written.nonempty written.whole none written.fraction fun c mem => (ended c mem).1

end OutlineCalc.Numeral

namespace OutlineCalc.Amount

open Letter (isDigit)
open Numeral (digitsValue digitsValue_append digitsValue_zeros digitsValue_digitChar digitsValue_toDigits)

private theorem isDigit_eq (c : Char) : isDigit c = c.isDigit := by
  rw [Bool.eq_iff_iff]
  simp [isDigit, Char.isDigit, Char.le_def]

private theorem digit_eq (d : Nat) : digit d = Nat.digitChar (d % 10) := by
  have below : d % 10 < 10 := Nat.mod_lt d (by decide)
  rw [digit]
  generalize d % 10 = r at below
  revert r
  decide

theorem isDigit_wholeDigits (n : Nat) : ∀ c ∈ wholeDigits n, isDigit c = true := by
  intro c mem
  rw [isDigit_eq]
  exact Nat.isDigit_of_mem_toDigits (by decide) (by decide) mem

theorem isDigit_placeDigits (places n : Nat) : ∀ c ∈ placeDigits places n, isDigit c = true := by
  induction places generalizing n with
  | zero => simp [placeDigits]
  | succ places ih =>
    intro c mem
    rcases List.mem_cons.1 mem with rfl | mem
    · have below : n / Nat.pow 10 places % 10 < 10 := Nat.mod_lt _ (by decide)
      rw [digit_eq, isDigit_eq, Nat.isDigit_digitChar]
      simpa using below
    · exact ih _ c mem

theorem length_placeDigits (places n : Nat) : (placeDigits places n).length = places := by
  induction places generalizing n with
  | zero => rfl
  | succ places ih => simp [placeDigits, ih]

theorem digitsValue_placeDigits {places n : Nat} (below : n < 10 ^ places) : digitsValue (placeDigits places n) = n := by
  induction places generalizing n with
  | zero =>
    obtain rfl : n = 0 := by simpa using below
    rfl
  | succ places ih =>
    have pos : 0 < 10 ^ places := Nat.pow_pos (by decide)
    have first : n / 10 ^ places < 10 := by
      rw [Nat.div_lt_iff_lt_mul pos, Nat.mul_comm, ← Nat.pow_succ]
      exact below
    have rest := ih (Nat.mod_lt n pos)
    rw [placeDigits, Nat.pow_eq, ← List.singleton_append, digitsValue_append, rest, length_placeDigits, digit_eq,
      Nat.mod_eq_of_lt first, digitsValue_digitChar first, Nat.div_add_mod]

/-- What is dropped is zeros. -/
theorem exists_dropZeros (cs : List Char) : ∃ count, cs = dropZeros cs ++ List.replicate count '0' := by
  refine ⟨(cs.reverse.takeWhile (· == '0')).length, ?_⟩
  have zeros : cs.reverse.takeWhile (· == '0') = List.replicate (cs.reverse.takeWhile (· == '0')).length '0' :=
    List.eq_replicate_of_mem fun c mem => by simpa using List.mem_takeWhile_imp mem
  rw [dropZeros, ← List.reverse_replicate, ← zeros, ← List.reverse_append, List.takeWhile_append_dropWhile,
    List.reverse_reverse]

/-- A number of units of the last of some decimal places, as it is written. -/
def numeral (places units : Nat) : Numeral :=
  ⟨wholeDigits (units / 10 ^ places), dropZeros (placeDigits places (units % 10 ^ places))⟩

theorem written_numeral (places units : Nat) : (numeral places units).Written where
  nonempty := Nat.toDigits_ne_nil
  whole := isDigit_wholeDigits _
  fraction := by
    obtain ⟨count, split⟩ := exists_dropZeros (placeDigits places (units % 10 ^ places))
    intro c mem
    refine isDigit_placeDigits places (units % 10 ^ places) c ?_
    rw [split]
    exact List.mem_append_left _ mem

/-- Without groups a number is shown as it is written, behind its sign unless it is zero. -/
theorem shown_eq (negative : Bool) (places units : Nat) :
    shown false negative places units = (if negative && units != 0 then ['-'] else []) ++ (numeral places units).chars := by
  by_cases none : (dropZeros (placeDigits places (units % 10 ^ places))).isEmpty = true <;>
    simp only [shown, numeral, Numeral.chars, Nat.pow_eq, Bool.false_eq_true, none, if_true, if_false, List.append_assoc,
      List.append_nil]

/-- The number as it is written is that number of units. -/
theorem value_numeral (places units : Nat) : (numeral places units).value = Binary64.nearest units (10 ^ places) := by
  have pos : 0 < 10 ^ places := Nat.pow_pos (by decide)
  obtain ⟨count, split⟩ := exists_dropZeros (placeDigits places (units % 10 ^ places))
  have length := congrArg List.length split
  rw [length_placeDigits, List.length_append, List.length_replicate] at length
  have value := congrArg digitsValue split
  rw [digitsValue_placeDigits (Nat.mod_lt units pos), digitsValue_append, digitsValue_zeros, List.length_replicate,
    Nat.add_zero] at value
  rw [Numeral.value, numeral]
  simp only
  rw [digitsValue_append, wholeDigits, digitsValue_toDigits]
  generalize dropZeros (placeDigits places (units % 10 ^ places)) = fraction at length value ⊢
  have scale : 10 ^ places = 10 ^ fraction.length * 10 ^ count := by rw [length, Nat.pow_add]
  have whole : (10 ^ fraction.length * (units / 10 ^ places) + digitsValue fraction) * 10 ^ count = units := by
    calc (10 ^ fraction.length * (units / 10 ^ places) + digitsValue fraction) * 10 ^ count
        = 10 ^ fraction.length * 10 ^ count * (units / 10 ^ places) + 10 ^ count * digitsValue fraction := by ring
      _ = 10 ^ places * (units / 10 ^ places) + units % 10 ^ places := by rw [← scale, ← value]
      _ = units := Nat.div_add_mod units (10 ^ places)
  rw [Nat.pow_eq, ← Binary64.nearest_mul_right _ _ (Nat.pow_pos (by decide) : 0 < 10 ^ count), whole, ← scale]

end OutlineCalc.Amount

namespace OutlineCalc.Parse

section
variable {operand : List Token → Outcome Expr} {op? : Token → Option String} {tokens rest : List Token} {node : Expr}

/-- A chain ends where no operator follows. -/
theorem chainFrom_found (steps : Nat) (ended : ∀ token ∈ rest.head?, op? token = none) :
    chainFrom operand op? steps node rest = .found node rest := by
  cases steps with
  | zero => rfl
  | succ steps =>
    cases rest with
    | nil => rfl
    | cons token rest => simp [chainFrom, ended token rfl]

/-- An operand that no operator follows is all of the chain. -/
theorem chain_found (found : operand tokens = .found node rest) (ended : ∀ token ∈ rest.head?, op? token = none) :
    chain operand op? tokens = .found node rest := by
  rw [chain, found]
  exact chainFrom_found _ ended

end

/-- Tokens of nothing but an operand that no name starts are that operand as an expression. -/
theorem within_alone {tokens : List Token} {node : Expr} {depth : Nat} (noName : ∀ name rest, tokens ≠ .name name :: rest)
    (alone : unaryWithin depth tokens = .found node [.endOfLine]) :
    Rule.expression.within depth tokens = .found node [.endOfLine] := by
  have factor : factorOver (unaryWithin depth) tokens = .found node [.endOfLine] := chain_found alone (by simp [factorOp?])
  have term : termOver (unaryWithin depth) tokens = .found node [.endOfLine] := chain_found factor (by simp [termOp?])
  show statementOver (unaryWithin depth) tokens = _
  unfold statementOver
  split
  · exact absurd rfl (noName _ _)
  · exact term

/-- A line of nothing but a shallow operand that no name starts is that operand. -/
theorem line_alone [Machine] {tokens : List Token} {node : Expr} (noName : ∀ name rest, tokens ≠ .name name :: rest)
    (shallow : unaryWithin 2 tokens = .found node [.endOfLine])
    (alone : unaryWithin (tokens.length + 1) tokens = .found node [.endOfLine]) : line tokens = .ok (some node) := by
  have fits : Machine.readsTooDeep 2 .expression tokens = false := by
    refine Machine.reads_shallow 2 .expression tokens ?_
    rw [within_alone noName shallow]
    rfl
  rw [Grammar.line_whole (within_alone noName alone), fits]
  rfl

end OutlineCalc.Parse

namespace OutlineCalc.Calculation

open Binary64 (withSign)

variable [Machine]

private theorem run_number (x : Float) (store : Store) : Eval.run (some (.number x)) store = (⟨.number x, none⟩, store) := by
  rw [Eval.run, Eval.expr, Eval.value, Eval.node_of_short (by simp)]
  rfl

private theorem run_negated (x : Float) (store : Store) :
    Eval.run (some (.unary "-" (.number x))) store = (⟨.number (-x), none⟩, store) := by
  rw [Eval.run, Eval.expr, Eval.value, Eval.value, Eval.node_of_short (by simp), Eval.node_of_short (by simp)]
  rfl

/-- A line of nothing but a written number, with or without a minus sign, is that number. -/
theorem run_written {n : Numeral} (written : n.Written) (negative : Bool) (store : Store) :
    run (String.ofList ((if negative then ['-'] else []) ++ n.chars)) store =
      (⟨.number (withSign negative n.value), none, none, none⟩, store) := by
  have scanned : Scan.chars n.chars = ⟨[.number n, .endOfLine], none⟩ := by
    have token := (written.lexeme (show ∀ c ∈ ([] : List Char).head?, _ by simp)).chars_eq
    rw [List.append_nil] at token
    rw [token]
    simp [Scan.chars, Scan.Scanned.push]
  cases negative with
  | false =>
    have tokens : Scan.line (String.ofList n.chars) = ⟨[.number n, .endOfLine], none⟩ := by
      rw [Scan.line, String.toList_ofList, scanned]
    have tree : Parse.line [.number n, .endOfLine] = .ok (some (.number n.value)) := Parse.line_alone (by simp) rfl rfl
    simp only [Bool.false_eq_true, if_false, List.nil_append, run, tokens, tree, run_number]
    rfl
  | true =>
    have tokens : Scan.line (String.ofList ('-' :: n.chars)) = ⟨[.mark .minus, .number n, .endOfLine], none⟩ := by
      rw [Scan.line, String.toList_ofList]
      exact (Scan.chars_of_mark .minus n.chars).trans (by rw [scanned]; rfl)
    have tree : Parse.line [.mark .minus, .number n, .endOfLine] = .ok (some (.unary "-" (.number n.value))) :=
      Parse.line_alone (by simp) rfl rfl
    simp only [if_true, List.singleton_append, run, tokens, tree, run_negated]
    rfl

end OutlineCalc.Calculation
