import OutlineCalc.Proofs.Literal

/-!
Amounts shown as they are typed. A double has room for every amount of at most fifteen digits: its nearest
double is so close to it that rounding to the places shown gives the amount back. What is shown is then what
was typed, without the zeros that stand in front of the whole digits and behind those of the fraction.
-/

namespace OutlineCalc.Amount

open Binary64

theorem unitsPerOne_le {n : ℕ} (le : 1074 ≤ n) : unitsPerOne ≤ 2 ^ n := by
  unfold unitsPerOne
  generalize 1074 = m at le ⊢
  exact Nat.pow_le_pow_right (by decide) le

theorem two_pow_le_unitsPerOne {n : ℕ} (le : n ≤ 1074) : 2 ^ n ≤ unitsPerOne := by
  unfold unitsPerOne
  generalize 1074 = m at le ⊢
  exact Nat.pow_le_pow_right (by decide) le

/-- A number of units with fewer than fifty-two bits is not lost in its nearest double. -/
theorem scaled_nearest_of_lt {places k : ℕ} (few : k < 2 ^ 52) (fine : 10 ^ places < unitsPerOne) :
    isFinite (nearest k (10 ^ places)) = true ∧ scaled places (nearest k (10 ^ places)) = k := by
  have pos : 0 < 10 ^ places := Nat.pow_pos (by decide)
  have finite : isFinite (nearest k (10 ^ places)) = true := by
    refine isFinite_nearest pos ?_
    calc k * unitsPerOne ≤ 2 ^ 52 * unitsPerOne := Nat.mul_le_mul_right _ few.le
      _ ≤ largest := Nat.mul_le_mul (by decide) (unitsPerOne_le (by decide))
      _ ≤ largest * 10 ^ places := Nat.le_mul_of_pos_right _ pos
  refine ⟨finite, ?_⟩
  have size := magnitude_nearest pos finite
  have near : 2 * Nat.dist (stepCount (k * unitsPerOne) (10 ^ places) * (10 ^ places * 2 ^ stepShift (k * unitsPerOne) (10 ^ places)))
      (k * unitsPerOne) ≤ _ := dist_roundQuotient_le _ (Nat.mul_pos pos (Nat.two_pow_pos _))
  -- one step between the doubles there is less than one unit
  have step : 10 ^ places * 2 ^ stepShift (k * unitsPerOne) (10 ^ places) < unitsPerOne := by
    have between : _ ∨ _ ≤ k * unitsPerOne := steps_le pos
    rcases between with least | coarse
    · rwa [least, Nat.pow_zero, Nat.mul_one]
    · refine Nat.lt_of_mul_lt_mul_left (a := 2 ^ 52) (coarse.trans_lt ?_)
      exact Nat.mul_lt_mul_of_pos_right few unitsPerOne_pos
  have onGrid : magnitude (nearest k (10 ^ places)) * 10 ^ places =
      stepCount (k * unitsPerOne) (10 ^ places) * (10 ^ places * 2 ^ stepShift (k * unitsPerOne) (10 ^ places)) := by
    rw [size]
    ring
  rw [← onGrid, Nat.dist_comm] at near
  show roundQuotient (magnitude (nearest k (10 ^ places)) * 10 ^ places) unitsPerOne = k
  exact roundQuotient_eq unitsPerOne_pos (by omega) fun tie => by omega

end OutlineCalc.Amount

namespace OutlineCalc.Numeral

open Amount (Decimal Fraction dropZeros)
open Letter (isDigit)

variable {n : Numeral}

/-- A written number without the zeros in front of its whole digits, of which one is kept, and without those behind
the digits of its fraction. -/
def trimmed (n : Numeral) : Numeral where
  whole := if n.whole.dropWhile (· == '0') = [] then ['0'] else n.whole.dropWhile (· == '0')
  fraction := n.fraction.rdropWhile (· == '0')

/-- A written number in units of the last of some decimal places, which are no fewer than it has. -/
def units (places : ℕ) (n : Numeral) : ℕ :=
  10 ^ places * digitsValue n.whole + 10 ^ (places - n.fraction.length) * digitsValue n.fraction

theorem digitsValue_lt {digits : List Char} (digit : ∀ c ∈ digits, isDigit c = true) :
    digitsValue digits < 10 ^ digits.length := by
  induction digits using List.reverseRecOn with
  | nil => decide
  | append_singleton front c ih =>
    have before := ih fun c mem => digit c (List.mem_append_left _ mem)
    obtain ⟨d, below, rfl⟩ := Amount.exists_digitChar (digit c (by simp))
    rw [digitsValue_append, digitsValue_digitChar below, List.length_append, List.length_singleton, pow_succ]
    omega

theorem digitsValue_dropWhile (digits : List Char) : digitsValue (digits.dropWhile (· == '0')) = digitsValue digits := by
  induction digits with
  | nil => rfl
  | cons c digits ih =>
    by_cases zero : c = '0'
    · have none : digitsValue ['0'] = 0 := rfl
      rw [zero, List.dropWhile_cons_of_pos (by decide), ih, ← List.singleton_append, digitsValue_append, none, Nat.mul_zero,
        Nat.zero_add]
    · rw [List.dropWhile_cons_of_neg (by simpa using zero)]

theorem Written.decimal_trimmed (written : n.Written) : Decimal n.trimmed.whole (digitsValue n.whole) := by
  have value := digitsValue_dropWhile n.whole
  by_cases none : n.whole.dropWhile (· == '0') = []
  · rw [none] at value
    simp only [trimmed, none, if_true]
    rw [← value]
    exact Amount.decimal_wholeDigits 0
  · simp only [trimmed, none, if_false]
    refine ⟨none, fun c mem => written.whole c (List.dropWhile_sublist _ |>.mem mem), value, fun zero => ?_⟩
    have stops := List.head?_dropWhile_not (· == '0') n.whole
    rw [zero] at stops
    contradiction

theorem Written.fraction_trimmed (written : n.Written) {places : ℕ} (few : n.fraction.length ≤ places) :
    Fraction places n.trimmed.fraction (10 ^ (places - n.fraction.length) * digitsValue n.fraction) := by
  obtain ⟨count, split⟩ := Amount.exists_dropZeros n.fraction
  have length := congrArg List.length split
  rw [List.length_append, List.length_replicate] at length
  show Fraction places (dropZeros n.fraction) _
  refine ⟨fun c mem => written.fraction c ?_, by omega, ?_, Amount.getLast?_dropZeros _⟩
  · rw [split]
    exact List.mem_append_left _ mem
  · have value := congrArg digitsValue split
    rw [digitsValue_append, digitsValue_zeros, List.length_replicate, Nat.add_zero] at value
    rw [digitsValue_append, digitsValue_zeros, List.length_replicate, Nat.add_zero, value, ← Nat.mul_assoc, ← Nat.pow_add]
    congr 2
    omega

section Units

variable {places : ℕ} (written : n.Written) (few : n.fraction.length ≤ places)

include written few

theorem Written.fraction_lt : 10 ^ (places - n.fraction.length) * digitsValue n.fraction < 10 ^ places := by
  have below := digitsValue_lt written.fraction
  have split : 10 ^ places = 10 ^ (places - n.fraction.length) * 10 ^ n.fraction.length := by
    rw [← Nat.pow_add, Nat.sub_add_cancel few]
  rw [split]
  exact Nat.mul_lt_mul_of_pos_left below (Nat.pow_pos (by decide))

theorem Written.units_div : n.units places / 10 ^ places = digitsValue n.whole := by
  rw [units, Nat.mul_add_div (Nat.pow_pos (by decide)), Nat.div_eq_of_lt (written.fraction_lt few), Nat.add_zero]

theorem Written.units_mod : n.units places % 10 ^ places = 10 ^ (places - n.fraction.length) * digitsValue n.fraction := by
  rw [units, Nat.mul_add_mod, Nat.mod_eq_of_lt (written.fraction_lt few)]

/-- An amount of at most fifteen digits has fewer than fifty-two bits. -/
theorem Written.units_lt (short : (n.whole.dropWhile (· == '0')).length + places ≤ 15) : n.units places < 2 ^ 52 := by
  have whole := digitsValue_lt fun c mem => written.whole c (List.dropWhile_sublist (· == '0') |>.mem mem)
  rw [digitsValue_dropWhile] at whole
  have fraction := written.fraction_lt few
  calc n.units places < 10 ^ places * (digitsValue n.whole + 1) := by
        rw [units, Nat.mul_succ]
        omega
    _ ≤ 10 ^ places * 10 ^ (n.whole.dropWhile (· == '0')).length := Nat.mul_le_mul_left _ whole
    _ = 10 ^ ((n.whole.dropWhile (· == '0')).length + places) := by rw [← Nat.pow_add, Nat.add_comm]
    _ ≤ 10 ^ 15 := Nat.pow_le_pow_right (by decide) short
    _ < 2 ^ 52 := by decide

omit written in
theorem value_eq_nearest_units : n.value = Binary64.nearest (n.units places) (10 ^ places) := by
  have scale : 10 ^ places = 10 ^ n.fraction.length * 10 ^ (places - n.fraction.length) := by
    rw [← Nat.pow_add, Nat.add_sub_cancel' few]
  have all : n.units places = digitsValue (n.whole ++ n.fraction) * 10 ^ (places - n.fraction.length) := by
    rw [units, digitsValue_append, scale]
    ring
  rw [value, Nat.pow_eq, all, scale, Binary64.nearest_mul_right _ _ (Nat.pow_pos (by decide))]

end Units

end OutlineCalc.Numeral

namespace OutlineCalc.Amount

open Binary64
open Numeral (units)

/-- The double of an amount of at most fifteen digits is so close to the amount that it is rounded to it. -/
theorem scaled_value {n : Numeral} (written : n.Written) {places : ℕ} (few : n.fraction.length ≤ places)
    (short : (n.whole.dropWhile (· == '0')).length + places ≤ 15) :
    isFinite n.value = true ∧ scaled places n.value = n.units places := by
  have fine : 10 ^ places < unitsPerOne := by
    calc 10 ^ places ≤ 10 ^ 15 := Nat.pow_le_pow_right (by decide) (by omega)
      _ < 2 ^ 52 := by decide
      _ ≤ unitsPerOne := two_pow_le_unitsPerOne (by decide)
  rw [Numeral.value_eq_nearest_units few]
  exact scaled_nearest_of_lt (written.units_lt few short) fine

/-- An amount of at most fifteen digits is shown as it is typed, but for zeros that say nothing and with its whole
digits in groups if these are asked for. -/
theorem text_value {n : Numeral} (written : n.Written) {places : ℕ} (few : n.fraction.length ≤ places)
    (short : (n.whole.dropWhile (· == '0')).length + places ≤ 15) {group : Bool} {whole : List Char}
    (grouping : Grouped group n.trimmed.whole whole) :
    text group places n.value = Numeral.lexeme ⟨whole, n.trimmed.fraction⟩ := by
  obtain ⟨finite, kept⟩ := scaled_value written few short
  have near := nearestEven_scaled finite places
  have decimal := written.decimal_trimmed
  have fraction := written.fraction_trimmed few
  rw [kept] at near
  rw [← written.units_div few] at decimal
  rw [← written.units_mod few] at fraction
  have shows := (shows_iff_text finite).mp (Shows.of near decimal grouping fraction)
  have unsigned : ¬ (value n.value < 0 ∧ 0 < n.units places) := fun signed =>
    absurd signed.1 (not_lt.mpr (value_nonneg finite (isNegative_nearest _ _)))
  have fractionless : (n.trimmed.fraction.isEmpty = true) = (n.units places % 10 ^ places = 0) := by
    rw [List.isEmpty_iff, fraction.eq_nil_iff]
  rw [if_neg unsigned, List.nil_append] at shows
  rw [← String.toList_inj, ← shows, Numeral.lexeme, String.toList_ofList, Numeral.chars]
  simp only [fractionless]
  split <;> simp

end OutlineCalc.Amount

namespace OutlineCalc.Store

open Amount (Grouped)

/-- A number of at most twelve whole digits, zeros in front of them aside, and at most three digits behind the point is
shown to three places as it was typed, without the zeros that say nothing; with groups, it is that text with commas
between groups of three whole digits. -/
theorem format_typed [Machine] {line : String} {n : Numeral} (token : .number n ∈ (Scan.line line).tokens)
    (whole : (n.whole.dropWhile (· == '0')).length ≤ 12) (fraction : n.fraction.length ≤ 3) (store : Store)
    (places : store.fractionDigits = 3) :
    (store.groupDigits = false → store.format n.value = .ok n.trimmed.lexeme) ∧
      (store.groupDigits = true → ∃ written, Grouped true n.trimmed.whole written ∧
        store.format n.value = .ok (Numeral.lexeme ⟨written, n.trimmed.fraction⟩)) := by
  have written := Scan.written_of_mem_tokens token
  have short : (n.whole.dropWhile (· == '0')).length + 3 ≤ 15 := by omega
  obtain ⟨finite, _⟩ := Amount.scaled_value written fraction short
  have countable : 3 + Amount.countedDigits n.value ≤ Amount.mostDigits := by
    have few := Amount.countedDigits_le finite
    have most : 3 + 310 ≤ Amount.mostDigits := by decide
    omega
  have shown : store.format n.value = .ok (Amount.text store.groupDigits 3 n.value) := by
    rw [format, places]
    exact Amount.textTo_eq_text finite countable _
  rw [shown]
  constructor
  · intro plain
    rw [plain]
    exact congrArg Except.ok (Amount.text_value written fraction short .plain)
  · intro groups
    have grouping := Amount.grouped_grouped written.decimal_trimmed.nonempty
    rw [groups]
    exact ⟨_, grouping, congrArg Except.ok (Amount.text_value written fraction short grouping)⟩

/-- An amount with zeros on both sides that say nothing, and one digit more than two groups. -/
theorem format_typed_zeros :
    letI := Machine.usual
    .number ⟨"001234567".toList, "050".toList⟩ ∈ (Scan.line "Rent 001234567.050").tokens ∧
      Store.format ⟨false, 3, []⟩ (Numeral.value ⟨"001234567".toList, "050".toList⟩) = .ok "1234567.05" ∧
      ∃ written, Grouped true "1234567".toList written ∧
        Store.format ⟨true, 3, []⟩ (Numeral.value ⟨"001234567".toList, "050".toList⟩) =
          .ok (Numeral.lexeme ⟨written, "05".toList⟩) := by
  let _ := Machine.usual
  have token : .number ⟨"001234567".toList, "050".toList⟩ ∈ (Scan.line "Rent 001234567.050").tokens := by decide +kernel
  have plain := (format_typed token (by decide) (by decide) ⟨false, 3, []⟩ rfl).1 rfl
  have groups := (format_typed token (by decide) (by decide) ⟨true, 3, []⟩ rfl).2 rfl
  have trimmed : Numeral.trimmed ⟨"001234567".toList, "050".toList⟩ = ⟨"1234567".toList, "05".toList⟩ := by decide +kernel
  rw [trimmed] at plain groups
  exact ⟨token, plain.trans (by decide +kernel), groups⟩

end OutlineCalc.Store
