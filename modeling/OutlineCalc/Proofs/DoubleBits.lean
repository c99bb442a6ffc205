import Mathlib
import OutlineCalc.Binary64

/-!
The bits of a double. A double made of the bits of a number has these bits again, and negation turns
the sign bit over and leaves all others, so that it keeps the size of a number.
-/

namespace OutlineCalc.Binary64

open Float.Model (Format)
open Float.Model.UnpackedFloat (Sign packComponents pack unpack unpackSign unpackExponent_packComponents
  unpackMantissa_packComponents packedInfinity packedZero)

/-- The bits with a sign, an exponent field and a fraction field. -/
abbrev assemble (sign : Sign) (exponent : BitVec 11) (fraction : BitVec 52) : BitVec 64 :=
  packComponents Format.binary64 sign exponent fraction

section Fields

variable (sign : Sign) (exponent : BitVec 11) (fraction : BitVec 52)

theorem toNat_assemble :
    (assemble sign exponent fraction).toNat = sign.toBitVec.toNat * 2 ^ 63 + exponent.toNat * 2 ^ 52 + fraction.toNat := by
  have fractionBelow := fraction.isLt
  have exponentBelow := exponent.isLt
  simp only [assemble, packComponents, BitVec.toNat_append]
  rw [← Nat.shiftLeft_add_eq_or_of_lt fractionBelow, ← Nat.shiftLeft_add_eq_or_of_lt exponentBelow,
    Nat.shiftLeft_eq, Nat.shiftLeft_eq]
  omega

theorem exists_assemble (b : BitVec 64) : ∃ sign exponent fraction, b = assemble sign exponent fraction := by
  refine ⟨if b.toNat / 2 ^ 63 = 1 then .negative else .positive, BitVec.ofNat 11 (b.toNat / 2 ^ 52),
    BitVec.ofNat 52 b.toNat, ?_⟩
  have below := b.isLt
  apply BitVec.eq_of_toNat_eq
  rw [toNat_assemble]
  split <;> simp only [Sign.toBitVec, BitVec.toNat_ofNat] <;> omega

theorem unpackSign_assemble :
    Sign.ofBitVec (@unpackSign Format.binary64 (assemble sign exponent fraction)) = sign := by
  have fractionBelow := fraction.isLt
  have exponentBelow := exponent.isLt
  have signBelow := sign.toBitVec.isLt
  have bit : @unpackSign Format.binary64 (assemble sign exponent fraction) = sign.toBitVec := by
    apply BitVec.eq_of_toNat_eq
    simp only [unpackSign, BitVec.toNat_cast, BitVec.extractLsb_toNat, toNat_assemble, Nat.shiftRight_eq_div_pow]
    omega
  rw [bit]
  cases sign <;> rfl

/-- Negation changes the sign and nothing else. -/
private theorem neg_unpack : (unpack Format.binary64 (assemble sign exponent fraction)).neg =
    unpack Format.binary64 (assemble (-sign) exponent fraction) := by
  simp only [unpack, unpackSign_assemble, unpackExponent_packComponents, unpackMantissa_packComponents]
  split
  · split <;> rfl
  · split
    · split <;> rfl
    · rfl

theorem toNat_hidden : (1#1 ++ fraction).toNat = 2 ^ 52 + fraction.toNat := by
  rw [BitVec.toNat_append, ← Nat.shiftLeft_add_eq_or_of_lt fraction.isLt]
  rfl

end Fields

section Pack

variable (sign : Sign) {exponent : BitVec 11} {fraction : BitVec 52}

private theorem pack_subnormal (positive : 0 < fraction.toNat) :
    pack Format.binary64 (.finite sign fraction.toNat (-1074) positive) = assemble sign 0#11 fraction := by
  have few : fraction.toNat.log2 < 52 := (Nat.log2_lt (by omega)).2 fraction.isLt
  have short : fraction.toNat.log2 + 1 ≠ 53 := by omega
  simp [pack, Format.exponentBias, Format.mantissaBits, short]

private theorem pack_normal (lower : exponent.toNat < 2047) (positive : 0 < (1#1 ++ fraction).toNat) :
    pack Format.binary64 (.finite sign (1#1 ++ fraction).toNat (exponent.toNat - 1075) positive) =
      assemble sign exponent fraction := by
  have below := fraction.isLt
  have full : (1#1 ++ fraction).toNat.log2 = 52 := by
    rw [toNat_hidden, Nat.log2_eq_iff (by omega)]
    omega
  have biased : ((exponent.toNat : Int) - 1075 + Format.binary64.exponentBias +
      Format.binary64.mantissaBitsWithoutImplicit).toNat = exponent.toNat := by
    show ((exponent.toNat : Int) - 1075 + 1023 + 52).toNat = exponent.toNat
    omega
  have fits : ¬ 2 ^ 11 ≤ exponent.toNat + 1 := by omega
  have dropped : BitVec.ofNat 52 (1#1 ++ fraction).toNat = fraction := by
    apply BitVec.eq_of_toNat_eq
    rw [BitVec.toNat_ofNat, toNat_hidden]
    omega
  simp only [pack, biased, full, dropped, BitVec.ofNat_toNat, BitVec.setWidth_eq, if_neg fits]
  rfl

/-- Nothing but the payload of a NaN is lost by unpacking. -/
private theorem pack_unpack (real : exponent = -1#11 → fraction = 0#52) :
    pack Format.binary64 (unpack Format.binary64 (assemble sign exponent fraction)) = assemble sign exponent fraction := by
  simp only [unpack, unpackSign_assemble, unpackExponent_packComponents, unpackMantissa_packComponents]
  by_cases infinite : exponent = -1#11
  · simp only [infinite, real infinite, if_true, pack, packedInfinity]
    rfl
  have exponentBelow := exponent.isLt
  have lower : exponent.toNat < 2047 := by
    have : exponent.toNat ≠ 2047 := fun top => infinite (BitVec.eq_of_toNat_eq (by simpa using top))
    omega
  by_cases subnormal : exponent = 0#11
  · by_cases zero : fraction = 0#52
    · simp [subnormal, zero, pack, packedZero]
    · have positive : 0 < fraction.toNat := by
        simpa [BitVec.toNat_pos, BitVec.pos_iff_ne_zero] using zero
      simpa [subnormal, zero, Format.exponentBias] using pack_subnormal sign positive
  · have positive : 0 < (1#1 ++ fraction).toNat := by
      rw [toNat_hidden]
      omega
    rw [if_neg infinite, if_neg subnormal]
    exact pack_normal sign lower positive

end Pack

/-- Whether bits are those of a number or an infinity. -/
def NotNaN (b : UInt64) : Prop := b.toNat / 2 ^ 52 % 2 ^ 11 = 2047 → b.toNat % 2 ^ 52 = 0

private theorem NotNaN.exists_assemble {b : UInt64} (real : NotNaN b) :
    ∃ sign exponent fraction, b.toBitVec = assemble sign exponent fraction ∧ (exponent = -1#11 → fraction = 0#52) := by
  obtain ⟨sign, exponent, fraction, parts⟩ := Binary64.exists_assemble b.toBitVec
  have code : b.toNat = (assemble sign exponent fraction).toNat := by rw [← parts]; rfl
  rw [toNat_assemble] at code
  have fractionBelow := fraction.isLt
  refine ⟨sign, exponent, fraction, parts, ?_⟩
  rintro rfl
  have top : (-1#11).toNat = 2047 := rfl
  apply BitVec.eq_of_toNat_eq
  rw [BitVec.toNat_zero]
  simp only [NotNaN] at real
  omega

/-- A double made of bits that are no NaN has these bits. -/
theorem toBits_ofBits {b : UInt64} (real : NotNaN b) : (Float.ofBits b).toBits = b := by
  obtain ⟨sign, exponent, fraction, parts, real⟩ := real.exists_assemble
  apply UInt64.toBitVec_inj.1
  show pack Format.binary64 (unpack Format.binary64 b.toBitVec) = b.toBitVec
  rw [parts, pack_unpack sign real]

/-- Negation turns the sign bit over. -/
theorem toBits_neg {x : Float} (real : NotNaN x.toBits) : (-x).toBits.toNat = (x.toBits.toNat + 2 ^ 63) % 2 ^ 64 := by
  obtain ⟨sign, exponent, fraction, parts, real⟩ := real.exists_assemble
  have flipped : (-x).toBits.toBitVec = assemble (-sign) exponent fraction := by
    show pack Format.binary64 (unpack Format.binary64 x.toBits.toBitVec).neg = _
    rw [parts, neg_unpack, pack_unpack _ real]
  have fractionBelow := fraction.isLt
  have exponentBelow := exponent.isLt
  rw [← UInt64.toNat_toBitVec, ← UInt64.toNat_toBitVec, flipped, parts, toNat_assemble, toNat_assemble]
  cases sign
  · show 0 * 2 ^ 63 + _ + _ = (1 * 2 ^ 63 + _ + _ + _) % _
    omega
  · show 1 * 2 ^ 63 + _ + _ = (0 * 2 ^ 63 + _ + _ + _) % _
    omega

/-- Bits up to those of positive infinity are the bits of a double. -/
theorem toBits_ofNat {bits : Nat} (below : bits ≤ infinityBits) :
    (Float.ofBits (UInt64.ofNat bits)).toBits.toNat = bits := by
  have small : bits < 2 ^ 64 := Nat.lt_of_le_of_lt below (by decide)
  have same : (UInt64.ofNat bits).toNat = bits := by
    rw [UInt64.toNat_ofNat']
    exact Nat.mod_eq_of_lt small
  simp only [infinityBits, Nat.pow_eq] at below
  rw [toBits_ofBits, same]
  intro top
  omega

/-! The sign and the size of a finite double. -/

section Sign

variable {x : Float} (finite : isFinite x = true)

include finite

private theorem notNaN_of_isFinite : NotNaN x.toBits := by
  intro top
  simp only [isFinite, exponentField, Nat.pow_eq, bne_iff_ne] at finite
  omega

theorem isNaN_of_isFinite : isNaN x = false := by
  have : exponentField x ≠ 2047 := by simpa [isFinite] using finite
  simp [isNaN, this]

theorem isNegative_neg : isNegative (-x) = !isNegative x := by
  have below := x.toBits.toNat_lt
  simp only [isNegative, toBits_neg (notNaN_of_isFinite finite), Nat.pow_eq]
  rw [Bool.eq_iff_iff]
  simp only [beq_iff_eq, Bool.not_eq_true', beq_eq_false_iff_ne]
  omega

theorem exponentField_neg : exponentField (-x) = exponentField x := by
  simp only [exponentField, toBits_neg (notNaN_of_isFinite finite), Nat.pow_eq]
  omega

theorem fractionField_neg : fractionField (-x) = fractionField x := by
  simp only [fractionField, toBits_neg (notNaN_of_isFinite finite), Nat.pow_eq]
  omega

theorem isFinite_withSign (negative : Bool) : isFinite (withSign negative x) = true := by
  cases negative with
  | false => exact finite
  | true => simpa [withSign, isFinite, exponentField_neg finite] using finite

theorem magnitude_withSign (negative : Bool) : magnitude (withSign negative x) = magnitude x := by
  cases negative with
  | false => rfl
  | true => simp [withSign, magnitude, significand, exponentField_neg finite, fractionField_neg finite]

theorem isNegative_withSign (negative : Bool) (positive : isNegative x = false) :
    isNegative (withSign negative x) = negative := by
  cases negative with
  | false => exact positive
  | true => simp [withSign, isNegative_neg finite, positive]

end Sign

end OutlineCalc.Binary64
