import OutlineCalc.Proofs.Concatenation
import OutlineCalc.Proofs.Rounding

/-!
Numbers as they are typed. Digits of any length, with or without a point, stand for an exact decimal
fraction; the number that a line is calculated with is the double that this fraction is rounded to, whether
it is too large for a double, so small that the doubles are evenly spaced, or half way between two of them.
-/

namespace OutlineCalc.Numeral

/-- What digits behind a point stand for, each worth a tenth of the one before it. -/
def fractionValue : List Char → ℚ
  | [] => 0
  | c :: cs => ((c.toNat - '0'.toNat : ℕ) + fractionValue cs) / 10

/-- The exact value of a text of decimal digits, with or without a point among them. -/
def exactValue (text : List Char) : ℚ :=
  digitsValue (text.takeWhile (· != '.')) + fractionValue (text.dropWhile (· != '.')).tail

theorem fractionValue_eq (digits : List Char) : fractionValue digits = digitsValue digits / 10 ^ digits.length := by
  induction digits with
  | nil => simp [fractionValue, digitsValue]
  | cons c cs ih =>
    have first : digitsValue [c] = c.toNat - '0'.toNat := by simp [digitsValue]
    rw [fractionValue, ih, ← List.singleton_append, digitsValue_append, first, List.length_append, List.length_singleton]
    push_cast
    field_simp
    ring

/-- The parts of a written number are what stands in front of its point and behind it. -/
theorem Written.split {n : Numeral} (written : n.Written) :
    n.chars.takeWhile (· != '.') = n.whole ∧ (n.chars.dropWhile (· != '.')).tail = n.fraction := by
  have noPoint : ∀ c ∈ n.whole, (c != '.') = true := by
    intro c mem
    rw [bne_iff_ne]
    rintro rfl
    exact absurd (written.whole '.' mem) (by decide)
  by_cases none : n.fraction = []
  · simp only [chars, none, List.isEmpty_nil, if_true]
    rw [List.takeWhile_eq_self_iff.mpr noPoint, List.dropWhile_eq_nil_iff.mpr noPoint]
    exact ⟨rfl, rfl⟩
  · simp only [chars, List.isEmpty_iff, none, if_false]
    rw [List.takeWhile_append_of_pos noPoint, List.dropWhile_append_of_pos noPoint]
    simp

theorem Written.exactValue_chars {n : Numeral} (written : n.Written) :
    exactValue n.chars = digitsValue (n.whole ++ n.fraction) / (10 ^ n.fraction.length : ℕ) := by
  rw [exactValue, written.split.1, written.split.2, fractionValue_eq, digitsValue_append]
  push_cast
  field_simp

end OutlineCalc.Numeral

namespace OutlineCalc.Binary64

open Amount (NearestEven nearestEven_roundQuotient)

theorem isFinite_infinity : isFinite infinity = false := by decide +kernel

theorem RoundsTo.eq_infinity_iff {q : ℚ} {x : Float} (rounds : RoundsTo q x) : x = infinity ↔ 2 ^ 1024 - 2 ^ 970 ≤ q := by
  constructor
  · rintro rfl
    cases rounds with
    | overflow large => exact large
    | nearest _ near => exact absurd near.finite (by rw [isFinite_infinity]; exact Bool.false_ne_true)
  · exact fun large => rounds.unique (.overflow large)

/-- Below the smallest normal double all steps are of the same size, and a quotient is rounded to a whole number
of them. -/
theorem nearestEven_nearest {a d : ℕ} (pos : 0 < d) (small : (a / d : ℚ) < 2 ^ (-1022 : ℤ)) :
    isFinite (nearest a d) = true ∧ NearestEven (a / d * 2 ^ 1074) (magnitude (nearest a d)) := by
  have few : a * unitsPerOne < 2 ^ 52 * d := by
    have least : (2 : ℚ) ^ (-1022 : ℤ) = 2 ^ 52 / unitsPerOne := two_zpow_eq 52
    rw [least, div_lt_div_iff₀ (Nat.cast_pos.mpr pos) cast_unitsPerOne_pos] at small
    exact_mod_cast small
  have fine : stepShift (a * unitsPerOne) d = 0 := by
    refine (steps_le pos).resolve_right fun coarse => ?_
    have step : 2 ^ 52 * d ≤ 2 ^ 52 * (d * 2 ^ stepShift (a * unitsPerOne) d) :=
      Nat.mul_le_mul_left _ (Nat.le_mul_of_pos_right d (Nat.two_pow_pos _))
    exact absurd few (not_lt.mpr (step.trans coarse))
  have finite : isFinite (nearest a d) = true := by
    have count : stepCount (a * unitsPerOne) d ≤ 2 ^ 53 := stepCount_le pos
    rw [isFinite_nearest_iff, nearestBits_eq, fine, infinityBits, Nat.pow_eq]
    omega
  refine ⟨finite, ?_⟩
  have size : magnitude (nearest a d) = roundQuotient (a * unitsPerOne) d := by
    rw [magnitude_nearest pos finite, stepCount, fine, Nat.pow_zero, Nat.mul_one, Nat.mul_one]
  have units : (a / d : ℚ) * 2 ^ 1074 = (a * unitsPerOne : ℕ) / d := by
    rw [← cast_unitsPerOne]
    push_cast
    ring
  rw [size, units]
  exact nearestEven_roundQuotient _ pos

end OutlineCalc.Binary64

namespace OutlineCalc.Scan

open Amount (NearestEven)
open Binary64
open Numeral (exactValue)

theorem Lexeme.written {n : Numeral} {lexeme rest : List Char} (here : Lexeme (.number n) lexeme rest) : n.Written := by
  cases here with
  | whole nonempty all => exact ⟨nonempty, all, by simp⟩
  | fraction nonempty all _ all' => exact ⟨nonempty, all, all'⟩

/-- The numbers among the tokens of a line are written in digits. -/
theorem written_of_mem_tokens {cs : List Char} {n : Numeral} (mem : .number n ∈ (chars cs).tokens) : n.Written := by
  obtain ⟨lexeme, rest, here⟩ := lexeme_of_mem_tokens mem nofun
  exact here.written

/-- The number of every token of a line is the one double that the exact value of its digits is rounded to. It is
infinity exactly from half a step beyond the largest double on, and below the smallest normal double it is the
nearest multiple of the smallest one. -/
theorem value_roundsTo {text : String} {n : Numeral} (token : .number n ∈ (line text).tokens) :
    (∀ x, RoundsTo (exactValue n.lexeme.toList) x ↔ x = n.value) ∧
      (n.value = infinity ↔ 2 ^ 1024 - 2 ^ 970 ≤ exactValue n.lexeme.toList) ∧
      (exactValue n.lexeme.toList < 2 ^ (-1022 : ℤ) →
        isFinite n.value = true ∧ NearestEven (exactValue n.lexeme.toList * 2 ^ 1074) (magnitude n.value)) := by
  have pos : 0 < 10 ^ n.fraction.length := Nat.pow_pos (by decide)
  rw [Numeral.lexeme, String.toList_ofList, (written_of_mem_tokens token).exactValue_chars]
  refine ⟨fun x => roundsTo_iff pos, ?_, nearestEven_nearest pos⟩
  exact ((roundsTo_iff pos).mpr rfl).eq_infinity_iff

/-- Half way between two doubles, but for the last digit of a long fraction. -/
theorem value_roundsTo_lateDigit :
    .number ⟨"9007199254740993".toList, "00000000000000000001".toList⟩ ∈ (line "about 9007199254740993.00000000000000000001 m").tokens ∧
      RoundsTo (9007199254740993 + 1 / 10 ^ 20) (nearest 9007199254740994 1) := by
  have token : .number ⟨"9007199254740993".toList, "00000000000000000001".toList⟩ ∈
      (line "about 9007199254740993.00000000000000000001 m").tokens := by decide +kernel
  have rounds := (value_roundsTo token).1 (nearest 9007199254740994 1)
  have exact_eq : exactValue (Numeral.lexeme ⟨"9007199254740993".toList, "00000000000000000001".toList⟩).toList =
      9007199254740993 + 1 / 10 ^ 20 := by decide +kernel
  rw [exact_eq] at rounds
  exact ⟨token, rounds.mpr (by decide +kernel)⟩

end OutlineCalc.Scan
