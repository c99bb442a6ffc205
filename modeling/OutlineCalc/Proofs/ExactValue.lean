import OutlineCalc.Proofs.DoubleBits

/-!
The exact value of a double, as the arithmetic of doubles takes its bits apart: a sign, a whole number and
the power of two that this is multiplied by. Its size is the magnitude, in units of `2 ^ -1074`.
-/

namespace OutlineCalc.Binary64

open Float.Model (Format)
open Float.Model.UnpackedFloat (Sign unpack unpackExponent_packComponents unpackMantissa_packComponents)

/-- The exact value of a finite double. An infinity and a NaN have none and count as zero here. -/
def value (x : Float) : ℚ :=
  match unpack Format.binary64 x.toBits.toBitVec with
  | .finite sign mantissa exponent _ => sign.apply mantissa * 2 ^ exponent
  | _ => 0

theorem cast_unitsPerOne : (unitsPerOne : ℚ) = 2 ^ 1074 := by
  unfold unitsPerOne
  generalize 1074 = n
  exact Nat.cast_pow 2 n

theorem cast_unitsPerOne_pos : 0 < (unitsPerOne : ℚ) := by
  rw [cast_unitsPerOne]
  generalize 1074 = n
  positivity

/-- A power of two, in units of `2 ^ -1074`. -/
theorem two_zpow_eq (n : ℕ) : (2 : ℚ) ^ ((n : ℤ) - 1074) = 2 ^ n / unitsPerOne := by
  have units : ((1074 : ℕ) : ℤ) = 1074 := rfl
  rw [cast_unitsPerOne, ← units]
  generalize 1074 = m
  rw [zpow_sub₀ two_ne_zero, zpow_natCast, zpow_natCast]

section Fields

variable {x : Float} {sign : Sign} {exponent : BitVec 11} {fraction : BitVec 52}

/-- The fields of a double are what its bits are made of. -/
theorem fields_eq (parts : x.toBits.toBitVec = assemble sign exponent fraction) :
    (isNegative x = true ↔ sign = .negative) ∧ exponentField x = exponent.toNat ∧ fractionField x = fraction.toNat := by
  have bits : x.toBits.toNat = (assemble sign exponent fraction).toNat := by
    rw [← parts]
    rfl
  have exponentBelow := exponent.isLt
  have fractionBelow := fraction.isLt
  rw [toNat_assemble] at bits
  have signed : (sign.toBitVec.toNat = 1 ↔ sign = .negative) ∧ sign.toBitVec.toNat < 2 := by
    cases sign <;> simp [Sign.toBitVec]
  simp only [isNegative, exponentField, fractionField, Nat.pow_eq, beq_iff_eq, ← signed.1]
  omega

/-- The value of a finite double is its magnitude with its sign. -/
theorem value_of_parts (parts : x.toBits.toBitVec = assemble sign exponent fraction) (finite : isFinite x = true) :
    value x = sign.apply 1 * (magnitude x / unitsPerOne) := by
  obtain ⟨-, exponentIs, fractionIs⟩ := fields_eq parts
  have exponentBelow := exponent.isLt
  have lower : exponent ≠ -1#11 := by
    rintro rfl
    simp only [isFinite, exponentIs, bne_iff_ne] at finite
    exact finite rfl
  have applied (m : ℕ) : ((sign.apply m : ℤ) : ℚ) = sign.apply 1 * m := by
    cases sign <;> simp [Sign.apply]
  have scale := two_zpow_eq
  simp only [value, parts, unpack, unpackSign_assemble, unpackExponent_packComponents, unpackMantissa_packComponents,
    if_neg lower, magnitude, significand, exponentIs, fractionIs, Nat.pow_eq]
  generalize (unitsPerOne : ℚ) = units at scale ⊢
  by_cases subnormal : exponent = 0#11
  · subst subnormal
    have none : (0#11).toNat = 0 := rfl
    have least : ((0 : ℕ) : ℤ) - ((Format.binary64.exponentBias : ℤ) + Format.binary64.mantissaBitsWithoutImplicit) + 1 =
        ((0 : ℕ) : ℤ) - 1074 := rfl
    by_cases zero : fraction = 0#52
    · simp [zero]
    · simp only [if_true, dif_neg zero, least, scale, applied, none]
      push_cast
      ring
  · have normal : exponent.toNat ≠ 0 := fun none => subnormal (BitVec.eq_of_toNat_eq none)
    have biased : (exponent.toNat : ℤ) - ((Format.binary64.exponentBias : ℤ) + Format.binary64.mantissaBitsWithoutImplicit) =
        ((exponent.toNat - 1 : ℕ) : ℤ) - 1074 := by
      have bias : (Format.binary64.exponentBias : ℤ) + Format.binary64.mantissaBitsWithoutImplicit = 1075 := rfl
      omega
    simp only [if_neg subnormal, if_neg normal, biased, scale, applied, toNat_hidden]
    push_cast
    ring

end Fields

section Finite

variable {x : Float} (finite : isFinite x = true)

include finite

theorem value_eq : value x = (if isNegative x = true then -1 else 1) * (magnitude x / unitsPerOne) := by
  obtain ⟨sign, exponent, fraction, parts⟩ := exists_assemble x.toBits.toBitVec
  have signed := (fields_eq parts).1
  rw [value_of_parts parts finite]
  cases sign with
  | negative => rw [if_pos (signed.mpr rfl), Sign.apply, Int.cast_neg, Int.cast_one]
  | positive =>
    have unsigned : ¬isNegative x = true := fun negative => by simpa using signed.mp negative
    rw [if_neg unsigned, Sign.apply, Int.cast_one]

theorem abs_value : |value x| = magnitude x / unitsPerOne := by
  have positive := cast_unitsPerOne_pos
  rw [value_eq finite]
  generalize (unitsPerOne : ℚ) = units at positive ⊢
  have size : 0 ≤ (magnitude x : ℚ) / units := by positivity
  rw [abs_mul, abs_of_nonneg size]
  split <;> simp

theorem value_neg_iff : value x < 0 ↔ isNegative x = true ∧ 0 < magnitude x := by
  have positive := cast_unitsPerOne_pos
  rw [value_eq finite]
  generalize (unitsPerOne : ℚ) = units at positive ⊢
  have size : 0 < (magnitude x : ℚ) / units ↔ 0 < magnitude x := by
    rw [div_pos_iff_of_pos_right positive, Nat.cast_pos]
  by_cases negative : isNegative x = true
  · simp [negative, size]
  · have least : 0 ≤ (magnitude x : ℚ) / units := by positivity
    simpa [negative] using least

end Finite

end OutlineCalc.Binary64
