import OutlineCalc.Proofs.DoubleBits

/-!
Rounding to the nearest. A quotient `a / d` is compared with numbers by cross products: the distance
of `k` from it is that of `k * d` from `a`, in steps of `1 / d`. Rounding a quotient to a whole number
leaves none closer, with ties to even; and the nearest double, which is found by rounding to a whole
number of steps of a power of two, has no other finite double closer to the quotient.
-/

namespace OutlineCalc.Binary64

/-! Whole numbers. -/

section Rounding

variable {a d : Nat}

theorem dist_roundQuotient_le (a : Nat) (pos : 0 < d) : 2 * Nat.dist (roundQuotient a d * d) a ≤ d := by
  have near := roundQuotient_near a pos
  unfold Nat.dist
  omega

/-- A number at most one half away from a quotient is its rounding, if it is nearer or even. -/
theorem roundQuotient_eq {k : Nat} (pos : 0 < d) (near : 2 * Nat.dist (k * d) a ≤ d)
    (tie : 2 * Nat.dist (k * d) a = d → k % 2 = 0) : roundQuotient a d = k := by
  have split : a / d * d + a % d = a := Nat.div_add_mod' a d
  have below : a % d < d := Nat.mod_lt a pos
  have next : (a / d + 1) * d = a / d * d + d := Nat.succ_mul _ _
  have further : (a / d + 2) * d = a / d * d + 2 * d := Nat.add_mul _ _ _
  simp only [Nat.dist] at near tie
  have lower : a / d < k + 1 := by
    by_contra far
    have : (k + 1) * d ≤ a / d * d := Nat.mul_le_mul_right d (by omega)
    rw [Nat.succ_mul] at this
    omega
  have upper : k < a / d + 2 := by
    by_contra far
    have : (a / d + 2) * d ≤ k * d := Nat.mul_le_mul_right d (by omega)
    omega
  -- so the number is the quotient without its fraction or the next one
  obtain rfl | rfl : k = a / d ∨ k = a / d + 1 := by omega
  · rcases Nat.lt_trichotomy (2 * (a % d)) d with less | half | more
    · simp [roundQuotient, less]
    · have := tie (by omega)
      simp [roundQuotient, half, this]
    · omega
  · rcases Nat.lt_trichotomy (2 * (a % d)) d with less | half | more
    · omega
    · have := tie (by omega)
      simp only [roundQuotient, half, Nat.lt_irrefl, if_false]
      omega
    · simp [roundQuotient, more, Nat.lt_asymm more]

/-- A tie is rounded to an even number. -/
theorem even_roundQuotient (pos : 0 < d) (tie : 2 * Nat.dist (roundQuotient a d * d) a = d) :
    roundQuotient a d % 2 = 0 := by
  have split : a / d * d + a % d = a := Nat.div_add_mod' a d
  have next : (a / d + 1) * d = a / d * d + d := Nat.succ_mul _ _
  have below : a % d < d := Nat.mod_lt a pos
  rcases Nat.lt_trichotomy (2 * (a % d)) d with less | half | more
  · simp only [roundQuotient, less, if_true, Nat.dist] at tie
    omega
  · simp only [roundQuotient, half, Nat.lt_irrefl, if_false]
    omega
  · simp only [roundQuotient, more, Nat.lt_asymm more, if_true, if_false, Nat.dist] at tie
    omega

/-- No whole number is closer to a quotient than its rounding. -/
theorem roundQuotient_closest (a : Nat) (pos : 0 < d) (k : Nat) :
    Nat.dist (roundQuotient a d * d) a ≤ Nat.dist (k * d) a := by
  have near := dist_roundQuotient_le a pos
  by_contra closer
  have same : roundQuotient a d = k := roundQuotient_eq pos (by omega) (by omega)
  rw [same] at closer
  exact closer (Nat.le_refl _)

theorem roundQuotient_le {k : Nat} (pos : 0 < d) (le : a ≤ k * d) : roundQuotient a d ≤ k := by
  by_contra above
  have closest := roundQuotient_closest a pos k
  have far : (k + 1) * d ≤ roundQuotient a d * d := Nat.mul_le_mul_right d (by omega)
  rw [Nat.succ_mul] at far
  unfold Nat.dist at closest
  omega

theorem le_roundQuotient {k : Nat} (pos : 0 < d) (le : k * d ≤ a) : k ≤ roundQuotient a d := by
  by_contra beneath
  have closest := roundQuotient_closest a pos k
  have far : (roundQuotient a d + 1) * d ≤ k * d := Nat.mul_le_mul_right d (by omega)
  rw [Nat.succ_mul] at far
  unfold Nat.dist at closest
  omega

theorem roundQuotient_mul_right (a d : Nat) {c : Nat} (pos : 0 < c) :
    roundQuotient (a * c) (d * c) = roundQuotient a d := by
  have twice : 2 * (a % d * c) = 2 * (a % d) * c := by rw [Nat.mul_assoc]
  simp only [roundQuotient, Nat.mul_div_mul_right _ _ pos, Nat.mul_mod_mul_right, twice, Nat.mul_lt_mul_right pos]

end Rounding

/-! Finite doubles: their sizes are significands of at most fifty-three bits times powers of two. -/

theorem unitsPerOne_pos : 0 < unitsPerOne := by
  unfold unitsPerOne
  generalize 1074 = n
  exact Nat.two_pow_pos n

/-- The power of two that the largest finite doubles are multiples of, in units of `2 ^ -1074`. -/
def topShift : Nat := 2045

/-- The largest finite double, in units of `2 ^ -1074`. -/
def largest : Nat := (2 ^ 53 - 1) * 2 ^ topShift

/-- The largest finite double is a whole number. -/
theorem unitsPerOne_dvd_largest : unitsPerOne ∣ largest := by
  unfold largest unitsPerOne topShift
  generalize small : 1074 = n
  obtain ⟨k, top⟩ : ∃ k, 2045 = k + n := ⟨971, by omega⟩
  rw [top, Nat.pow_add]
  exact Dvd.intro_left _ (Nat.mul_assoc _ _ _)

section Finite

variable {x : Float} (finite : isFinite x = true)

include finite

theorem magnitude_eq : ∃ m e, magnitude x = m * 2 ^ e ∧ m < 2 ^ 53 ∧ e ≤ topShift := by
  refine ⟨significand x, exponentField x - 1, rfl, ?_, ?_⟩
  · have : fractionField x < 2 ^ 52 := Nat.mod_lt _ (by decide)
    simp only [significand, Nat.pow_eq]
    split <;> omega
  · have : exponentField x < 2 ^ 11 := Nat.mod_lt _ (by decide)
    simp only [isFinite, bne_iff_ne] at finite
    simp only [topShift]
    omega

theorem magnitude_le_largest : magnitude x ≤ largest := by
  obtain ⟨m, e, size, below, small⟩ := magnitude_eq finite
  have count : m ≤ 2 ^ 53 - 1 := Nat.le_pred_of_lt below
  calc magnitude x = m * 2 ^ e := size
    _ ≤ largest := Nat.mul_le_mul count (Nat.pow_le_pow_right (by decide) small)

/-- Among the multiples of a power of two are all finite doubles but those below `2 ^ 52` times it. -/
theorem magnitude_grid (shift : Nat) :
    (∃ k, magnitude x = k * 2 ^ shift) ∨ (shift ≠ 0 ∧ magnitude x < 2 ^ 52 * 2 ^ shift) := by
  obtain ⟨m, e, size, below, -⟩ := magnitude_eq finite
  by_cases finer : e < shift
  · have small : magnitude x < 2 ^ 52 * 2 ^ shift := by
      calc magnitude x = m * 2 ^ e := size
        _ < 2 ^ 53 * 2 ^ e := Nat.mul_lt_mul_of_pos_right below (Nat.two_pow_pos e)
        _ = 2 ^ 52 * 2 ^ (e + 1) := by ring
        _ ≤ 2 ^ 52 * 2 ^ shift := Nat.mul_le_mul_left _ (Nat.pow_le_pow_right (by decide) finer)
    exact .inr ⟨by omega, small⟩
  · obtain ⟨more, rfl⟩ := Nat.exists_eq_add_of_le (Nat.le_of_not_lt finer)
    exact .inl ⟨m * 2 ^ more, by rw [size]; ring⟩

end Finite

/-- The size of the double whose bits are a count of steps and the power of two that one step is. A
count that is itself the next power of two carries into the exponent field. -/
theorem magnitude_ofNat {shift count : Nat} (below : count ≤ 2 ^ 53) (normal : shift = 0 ∨ 2 ^ 52 ≤ count)
    (fits : shift * 2 ^ 52 + count ≤ infinityBits) :
    magnitude (Float.ofBits (UInt64.ofNat (shift * 2 ^ 52 + count))) = count * 2 ^ shift := by
  have code := toBits_ofNat fits
  simp only [infinityBits, Nat.pow_eq] at fits
  generalize Float.ofBits (UInt64.ofNat (shift * 2 ^ 52 + count)) = x at code
  have exponent : exponentField x = (shift * 2 ^ 52 + count) / 2 ^ 52 := by
    simp only [exponentField, code, Nat.pow_eq]
    omega
  have fraction : fractionField x = count % 2 ^ 52 := by
    simp only [fractionField, code, Nat.pow_eq]
    omega
  simp only [magnitude, significand, exponent, fraction, Nat.pow_eq]
  by_cases subnormal : count < 2 ^ 52
  · obtain rfl : shift = 0 := by omega
    rw [if_pos (by omega), Nat.mod_eq_of_lt subnormal, Nat.zero_mul, Nat.zero_add, Nat.div_eq_of_lt subnormal]
  by_cases carried : count = 2 ^ 53
  · have next : (shift * 2 ^ 52 + 2 ^ 53) / 2 ^ 52 = shift + 2 := by omega
    subst carried
    rw [next, if_neg (by omega)]
    show 2 ^ 52 * 2 ^ (shift + 1) = 2 ^ 53 * 2 ^ shift
    ring
  · have here : (shift * 2 ^ 52 + count) / 2 ^ 52 = shift + 1 := by omega
    have hidden : 2 ^ 52 + count % 2 ^ 52 = count := by omega
    rw [here, if_neg (by omega), hidden, Nat.add_sub_cancel]

/-! The steps around a quotient `units / d`, and the nearest double. -/

section Nearest

/-- The power of two that is one step between the doubles around a quotient. -/
def stepShift (units d : Nat) : Nat := Nat.log2 (units / d) - 52

/-- How many steps the double nearest to a quotient is. -/
def stepCount (units d : Nat) : Nat := roundQuotient units (d * 2 ^ stepShift units d)

variable {a units d : Nat}

private theorem step_pos (pos : 0 < d) : 0 < d * 2 ^ stepShift units d := Nat.mul_pos pos (Nat.two_pow_pos _)

theorem lt_steps (pos : 0 < d) : units < 2 ^ 53 * (d * 2 ^ stepShift units d) := by
  have quotient : units / d < 2 ^ (stepShift units d + 53) :=
    Nat.lt_of_lt_of_le Nat.lt_log2_self (Nat.pow_le_pow_right (by decide) (by simp only [stepShift]; omega))
  rw [Nat.div_lt_iff_lt_mul pos] at quotient
  calc units < 2 ^ (stepShift units d + 53) * d := quotient
    _ = 2 ^ 53 * (d * 2 ^ stepShift units d) := by ring

theorem steps_le (pos : 0 < d) : stepShift units d = 0 ∨ 2 ^ 52 * (d * 2 ^ stepShift units d) ≤ units := by
  by_cases fine : stepShift units d = 0
  · exact .inl fine
  have large : units / d ≠ 0 := by
    intro none
    simp [stepShift, none] at fine
  have log : stepShift units d + 52 ≤ Nat.log2 (units / d) := by
    simp only [stepShift] at fine ⊢
    omega
  have quotient : 2 ^ (stepShift units d + 52) ≤ units / d :=
    Nat.le_trans (Nat.pow_le_pow_right (by decide) log) (Nat.log2_self_le large)
  rw [Nat.le_div_iff_mul_le pos] at quotient
  refine .inr ?_
  calc 2 ^ 52 * (d * 2 ^ stepShift units d) = 2 ^ (stepShift units d + 52) * d := by ring
    _ ≤ units := quotient

theorem stepShift_le_topShift (pos : 0 < d) (le : units ≤ largest * d) : stepShift units d ≤ topShift := by
  by_contra far
  have lower : 2 ^ 52 * (d * 2 ^ stepShift units d) ≤ units := (steps_le pos).resolve_left (by omega)
  have less : units < units := by
    calc units ≤ (2 ^ 53 - 1) * 2 ^ topShift * d := le
      _ < 2 ^ 53 * 2 ^ topShift * d :=
        Nat.mul_lt_mul_of_pos_right (Nat.mul_lt_mul_of_pos_right (by decide) (Nat.two_pow_pos _)) pos
      _ = 2 ^ 52 * (d * 2 ^ (topShift + 1)) := by ring
      _ ≤ 2 ^ 52 * (d * 2 ^ stepShift units d) :=
        Nat.mul_le_mul_left _ (Nat.mul_le_mul_left d (Nat.pow_le_pow_right (by decide) (Nat.lt_of_not_le far)))
      _ ≤ units := lower
  exact Nat.lt_irrefl _ less

theorem stepCount_le (pos : 0 < d) : stepCount units d ≤ 2 ^ 53 :=
  roundQuotient_le (step_pos pos) (Nat.le_of_lt (lt_steps pos))

theorem le_stepCount (pos : 0 < d) : stepShift units d = 0 ∨ 2 ^ 52 ≤ stepCount units d :=
  (steps_le pos).imp_right fun le => le_roundQuotient (step_pos pos) le

theorem nearestBits_eq (a d : Nat) : nearestBits a d =
    min (stepShift (a * unitsPerOne) d * 2 ^ 52 + stepCount (a * unitsPerOne) d) infinityBits := rfl

theorem toBits_nearest (a d : Nat) : (nearest a d).toBits.toNat = nearestBits a d :=
  toBits_ofNat (Nat.min_le_right _ _)

theorem isNegative_nearest (a d : Nat) : isNegative (nearest a d) = false := by
  have le : nearestBits a d ≤ infinityBits := Nat.min_le_right _ _
  simp only [infinityBits, Nat.pow_eq] at le
  simp only [isNegative, toBits_nearest, Nat.pow_eq, beq_eq_false_iff_ne]
  omega

theorem isFinite_nearest_iff : isFinite (nearest a d) = true ↔ nearestBits a d < infinityBits := by
  have le : nearestBits a d ≤ infinityBits := Nat.min_le_right _ _
  simp only [infinityBits, Nat.pow_eq] at le ⊢
  simp only [isFinite, exponentField, toBits_nearest, Nat.pow_eq, bne_iff_ne]
  omega

theorem magnitude_nearest (pos : 0 < d) (finite : isFinite (nearest a d) = true) :
    magnitude (nearest a d) = stepCount (a * unitsPerOne) d * 2 ^ stepShift (a * unitsPerOne) d := by
  have below := isFinite_nearest_iff.1 finite
  rw [nearestBits_eq] at below
  have fits : stepShift (a * unitsPerOne) d * 2 ^ 52 + stepCount (a * unitsPerOne) d ≤ infinityBits := by omega
  rw [nearest, nearestBits_eq, Nat.min_eq_left fits]
  exact magnitude_ofNat (stepCount_le pos) (le_stepCount pos) fits

/-- No finite double is closer to a quotient than the nearest one, if that is finite. -/
theorem nearest_closest (pos : 0 < d) (finite : isFinite (nearest a d) = true) {x : Float}
    (finite' : isFinite x = true) :
    Nat.dist (magnitude (nearest a d) * d) (a * unitsPerOne) ≤ Nat.dist (magnitude x * d) (a * unitsPerOne) := by
  have size := magnitude_nearest pos finite
  unfold stepCount at size
  generalize a * unitsPerOne = units at size ⊢
  have steps : 0 < d * 2 ^ stepShift units d := step_pos pos
  have onGrid : magnitude (nearest a d) * d =
      roundQuotient units (d * 2 ^ stepShift units d) * (d * 2 ^ stepShift units d) := by rw [size]; ring
  rw [onGrid]
  rcases magnitude_grid finite' (stepShift units d) with ⟨k, size'⟩ | ⟨coarse, small⟩
  · have there : magnitude x * d = k * (d * 2 ^ stepShift units d) := by rw [size']; ring
    rw [there]
    exact roundQuotient_closest _ steps k
  · -- what lies below the grid is farther than the first of its doubles
    have first : 2 ^ 52 * (d * 2 ^ stepShift units d) ≤ units := (steps_le pos).resolve_left coarse
    have beneath : magnitude x * d < 2 ^ 52 * (d * 2 ^ stepShift units d) := by
      calc magnitude x * d < 2 ^ 52 * 2 ^ stepShift units d * d := Nat.mul_lt_mul_of_pos_right small pos
        _ = 2 ^ 52 * (d * 2 ^ stepShift units d) := by ring
    have closest := roundQuotient_closest units steps (2 ^ 52)
    simp only [Nat.dist] at closest ⊢
    omega

/-- A quotient up to the largest finite double is not rounded to infinity. -/
theorem isFinite_nearest (pos : 0 < d) (le : a * unitsPerOne ≤ largest * d) : isFinite (nearest a d) = true := by
  rw [isFinite_nearest_iff, nearestBits_eq]
  generalize a * unitsPerOne = units at le ⊢
  have count : stepCount units d ≤ 2 ^ 53 := stepCount_le pos
  have shift : stepShift units d ≤ topShift := stepShift_le_topShift pos le
  have last : stepShift units d = topShift → stepCount units d ≤ 2 ^ 53 - 1 := by
    intro top
    refine roundQuotient_le (step_pos pos) ?_
    rw [top]
    calc units ≤ (2 ^ 53 - 1) * 2 ^ topShift * d := le
      _ = (2 ^ 53 - 1) * (d * 2 ^ topShift) := by ring
  simp only [topShift] at shift last
  simp only [infinityBits, Nat.pow_eq]
  omega

/-- The nearest double is that of the quotient, however it is written. -/
theorem nearest_mul_right (a d : Nat) {c : Nat} (pos : 0 < c) : nearest (a * c) (d * c) = nearest a d := by
  have units : a * c * unitsPerOne = a * unitsPerOne * c := Nat.mul_right_comm _ _ _
  have shift : stepShift (a * unitsPerOne * c) (d * c) = stepShift (a * unitsPerOne) d := by
    rw [stepShift, stepShift, Nat.mul_div_mul_right _ _ pos]
  have count : stepCount (a * unitsPerOne * c) (d * c) = stepCount (a * unitsPerOne) d := by
    rw [stepCount, shift, Nat.mul_right_comm d c, roundQuotient_mul_right _ _ pos]
    rfl
  rw [nearest, nearest, nearestBits_eq, nearestBits_eq, units, shift, count]

end Nearest

end OutlineCalc.Binary64
