import OutlineCalc.Proofs.Display

/-!
The double that a fraction is rounded to. Up to half a step beyond the largest double it is one with no
other finite double nearer to the fraction, with an even significand if another one is as near; from there
on it is infinity. There is one such double for every fraction that is not negative, since the doubles
without a sign are ordered as their bits are and of two neighbours one has an odd significand.
-/

namespace OutlineCalc.Binary64

open Amount (NearestEven cast_dist nearestEven_roundQuotient)

/-- Positive infinity. -/
def infinity : Float := Float.ofBits (UInt64.ofNat infinityBits)

/-- Whether no finite double is nearer to a fraction than one without a sign, and this has an even significand
if another one is as near. -/
structure IsNearest (q : ℚ) (x : Float) : Prop where
  finite : isFinite x = true
  positive : isNegative x = false
  nearest : ∀ y, isFinite y = true → |value x - q| ≤ |value y - q|
  even : ∀ y, isFinite y = true → value y ≠ value x → |value y - q| = |value x - q| → significand x % 2 = 0

/-- `RoundsTo q x`: the double that a fraction is rounded to, where the fraction is not negative. -/
inductive RoundsTo (q : ℚ) : Float → Prop
  | overflow (large : 2 ^ 1024 - 2 ^ 970 ≤ q) : RoundsTo q infinity
  | nearest {x : Float} (small : q < 2 ^ 1024 - 2 ^ 970) (isNearest : IsNearest q x) : RoundsTo q x

/-! ## The order of doubles -/

theorem ofBits_toBits_toNat (x : Float) : Float.ofBits (UInt64.ofNat x.toBits.toNat) = x := by
  rw [UInt64.ofNat_toNat, Float.ofBits_toBits]

/-- Without a sign a finite double comes before infinity. -/
theorem toBits_lt_infinityBits {x : Float} (finite : isFinite x = true) (positive : isNegative x = false) :
    x.toBits.toNat < infinityBits := by
  have below := x.toBits.toNat_lt
  simp only [isFinite, exponentField, Nat.pow_eq, bne_iff_ne] at finite
  simp only [isNegative, Nat.pow_eq, beq_eq_false_iff_ne] at positive
  simp only [infinityBits, Nat.pow_eq]
  omega

theorem isFinite_ofNat {bits : Nat} (below : bits < infinityBits) : isFinite (Float.ofBits (UInt64.ofNat bits)) = true := by
  have code := toBits_ofNat (Nat.le_of_lt below)
  simp only [infinityBits, Nat.pow_eq] at below
  simp only [isFinite, exponentField, code, Nat.pow_eq, bne_iff_ne]
  omega

theorem isNegative_ofNat {bits : Nat} (below : bits ≤ infinityBits) :
    isNegative (Float.ofBits (UInt64.ofNat bits)) = false := by
  have code := toBits_ofNat below
  simp only [infinityBits, Nat.pow_eq] at below
  simp only [isNegative, code, Nat.pow_eq, beq_eq_false_iff_ne]
  omega

/-- The significand is even where the bits are. -/
theorem significand_mod_two (x : Float) : significand x % 2 = x.toBits.toNat % 2 := by
  simp only [significand, fractionField, Nat.pow_eq]
  split <;> omega

/-- Bits are a count of steps and the power of two that one step is. -/
theorem exists_steps (bits : Nat) :
    ∃ shift count, bits = shift * 2 ^ 52 + count ∧ count < 2 ^ 53 ∧ (shift = 0 ∨ 2 ^ 52 ≤ count) :=
  ⟨bits / 2 ^ 52 - 1, bits - (bits / 2 ^ 52 - 1) * 2 ^ 52, by omega, by omega, by omega⟩

/-- The next bits are those of a larger double, one step away. -/
theorem magnitude_lt_succ {bits : Nat} (below : bits < infinityBits) :
    magnitude (Float.ofBits (UInt64.ofNat bits)) < magnitude (Float.ofBits (UInt64.ofNat (bits + 1))) := by
  obtain ⟨shift, count, rfl, few, normal⟩ := exists_steps bits
  have here := magnitude_ofNat (Nat.le_of_lt few) normal (Nat.le_of_lt below)
  have next := magnitude_ofNat few (normal.imp_right Nat.le_succ_of_le) below
  rw [Nat.add_assoc, here, next]
  exact Nat.mul_lt_mul_of_pos_right (Nat.lt_succ_self count) (Nat.two_pow_pos shift)

theorem magnitude_lt {low high : Nat} (less : low < high) (below : high ≤ infinityBits) :
    magnitude (Float.ofBits (UInt64.ofNat low)) < magnitude (Float.ofBits (UInt64.ofNat high)) := by
  induction high, less using Nat.le_induction with
  | base => exact magnitude_lt_succ below
  | succ high _ ih => exact (ih (Nat.le_of_succ_le below)).trans (magnitude_lt_succ below)

section Unsigned

variable {x y : Float} (finite : isFinite x = true) (positive : isNegative x = false)

include finite positive

theorem value_of_not_isNegative : value x = magnitude x / unitsPerOne := by
  rw [value_eq finite, positive, if_neg Bool.false_ne_true, one_mul]

theorem value_nonneg : 0 ≤ value x := by
  rw [value_of_not_isNegative finite positive]
  exact div_nonneg (Nat.cast_nonneg _) cast_unitsPerOne_pos.le

theorem value_lt_value (finite' : isFinite y = true) (positive' : isNegative y = false)
    (less : x.toBits.toNat < y.toBits.toNat) : value x < value y := by
  have order := magnitude_lt less (toBits_lt_infinityBits finite' positive').le
  rw [ofBits_toBits_toNat, ofBits_toBits_toNat] at order
  rw [value_of_not_isNegative finite positive, value_of_not_isNegative finite' positive']
  exact div_lt_div_of_pos_right (Nat.cast_lt.mpr order) cast_unitsPerOne_pos

end Unsigned

/-! ## There is one such double -/

/-- What lies between two numbers that are equally far from a fraction is nearer to it. -/
theorem abs_sub_lt_of_between {a b c q : ℚ} (left : a < c) (right : c < b) (same : |b - q| = |a - q|) : |c - q| < |a - q| := by
  rcases abs_eq_abs.mp same with equal | opposite
  · linarith
  · have distance : |a - q| = q - a := by
      rw [abs_sub_comm, abs_of_pos]
      linarith
    rw [distance, abs_lt]
    constructor <;> linarith

/-- Of two doubles that are both nearest to a fraction none comes first: as neighbours one would have an odd
significand, and another one between them would be nearer. -/
theorem IsNearest.not_before {q : ℚ} {x y : Float} (near : IsNearest q x) (near' : IsNearest q y) :
    ¬ x.toBits.toNat < y.toBits.toNat := by
  intro less
  have order := value_lt_value near.finite near.positive near'.finite near'.positive less
  have same : |value y - q| = |value x - q| := le_antisymm (near'.nearest x near.finite) (near.nearest y near'.finite)
  have first := near.even y near'.finite order.ne' same
  have second := near'.even x near.finite order.ne same.symm
  rw [significand_mod_two] at first second
  have below := toBits_lt_infinityBits near'.finite near'.positive
  have inside : x.toBits.toNat + 1 < infinityBits := by omega
  have code := toBits_ofNat inside.le
  have finite := isFinite_ofNat inside
  have positive := isNegative_ofNat inside.le
  generalize Float.ofBits (UInt64.ofNat (x.toBits.toNat + 1)) = z at code finite positive
  have left := value_lt_value near.finite near.positive finite positive (by omega)
  have right := value_lt_value finite positive near'.finite near'.positive (by omega)
  exact absurd (near.nearest z finite) (not_le.mpr (abs_sub_lt_of_between left right same))

theorem IsNearest.unique {q : ℚ} {x y : Float} (near : IsNearest q x) (near' : IsNearest q y) : x = y := by
  have bits : x.toBits.toNat = y.toBits.toNat := le_antisymm (not_lt.mp (near'.not_before near)) (not_lt.mp (near.not_before near'))
  rw [← ofBits_toBits_toNat x, ← ofBits_toBits_toNat y, bits]

/-- A fraction is rounded to one double at most. -/
theorem RoundsTo.unique {q : ℚ} {x y : Float} (rounds : RoundsTo q x) (rounds' : RoundsTo q y) : x = y := by
  cases rounds with
  | overflow large =>
    cases rounds' with
    | overflow => rfl
    | nearest small => exact absurd small (not_lt.mpr large)
  | nearest small near =>
    cases rounds' with
    | overflow large => exact absurd small (not_lt.mpr large)
    | nearest _ near' => exact near.unique near'

/-! ## It is found in whole numbers -/

section Found

variable {a d : Nat}

/-- A double that differs from the nearest one and is as near is one step away from it, so that the count of
steps was rounded to an even one. -/
theorem even_stepCount (pos : 0 < d) (finite : isFinite (nearest a d) = true) {y : Float} (finite' : isFinite y = true)
    (differs : magnitude y ≠ magnitude (nearest a d))
    (tie : Nat.dist (magnitude y * d) (a * unitsPerOne) = Nat.dist (magnitude (nearest a d) * d) (a * unitsPerOne)) :
    stepCount (a * unitsPerOne) d % 2 = 0 := by
  have size := magnitude_nearest pos finite
  rw [size] at differs tie
  generalize a * unitsPerOne = units at differs tie ⊢
  have steps : 0 < d * 2 ^ stepShift units d := Nat.mul_pos pos (Nat.two_pow_pos _)
  have onGrid : stepCount units d * 2 ^ stepShift units d * d = stepCount units d * (d * 2 ^ stepShift units d) := by ring
  rw [onGrid] at tie
  rcases magnitude_grid finite' (stepShift units d) with ⟨k, size'⟩ | ⟨coarse, small⟩
  · have there : magnitude y * d = k * (d * 2 ^ stepShift units d) := by rw [size']; ring
    have half : 2 * Nat.dist (stepCount units d * (d * 2 ^ stepShift units d)) units ≤ d * 2 ^ stepShift units d :=
      dist_roundQuotient_le units steps
    refine even_roundQuotient steps (le_antisymm half ?_)
    show d * 2 ^ stepShift units d ≤ 2 * Nat.dist (stepCount units d * (d * 2 ^ stepShift units d)) units
    have apart : k ≠ stepCount units d := fun same => differs (by rw [size', same])
    have whole : d * 2 ^ stepShift units d ≤
        Nat.dist (k * (d * 2 ^ stepShift units d)) (stepCount units d * (d * 2 ^ stepShift units d)) := by
      rw [Nat.dist_mul_right]
      exact Nat.le_mul_of_pos_left _ (Nat.dist_pos_of_ne apart)
    have triangle := Nat.dist.triangle_inequality (k * (d * 2 ^ stepShift units d)) units
      (stepCount units d * (d * 2 ^ stepShift units d))
    rw [Nat.dist_comm units, ← there, tie, there] at triangle
    omega
  · -- what lies below the grid is farther than the first of its doubles
    have first : 2 ^ 52 * (d * 2 ^ stepShift units d) ≤ units := (steps_le pos).resolve_left coarse
    have beneath : magnitude y * d < 2 ^ 52 * (d * 2 ^ stepShift units d) := by
      calc magnitude y * d < 2 ^ 52 * 2 ^ stepShift units d * d := Nat.mul_lt_mul_of_pos_right small pos
        _ = 2 ^ 52 * (d * 2 ^ stepShift units d) := by ring
    have closest : Nat.dist (stepCount units d * (d * 2 ^ stepShift units d)) units ≤ _ := roundQuotient_closest units steps (2 ^ 52)
    simp only [Nat.dist] at closest tie
    omega

theorem significand_nearest_mod_two (finite : isFinite (nearest a d) = true) :
    significand (nearest a d) % 2 = stepCount (a * unitsPerOne) d % 2 := by
  have below := isFinite_nearest_iff.mp finite
  rw [significand_mod_two, toBits_nearest]
  rw [nearestBits_eq] at below ⊢
  omega

/-- A quotient is rounded to less than an even number unless it comes within one half of that: a tie goes to
the even one. -/
theorem roundQuotient_lt_iff {k : Nat} (pos : 0 < d) (even : k % 2 = 0) : roundQuotient a d < k ↔ 2 * a + d < 2 * (k * d) := by
  have near := dist_roundQuotient_le a pos
  have tie := even_roundQuotient (a := a) pos
  simp only [Nat.dist] at near tie
  constructor
  · intro less
    have next : (roundQuotient a d + 1) * d ≤ k * d := Nat.mul_le_mul_right d less
    rw [Nat.succ_mul] at next
    refine lt_of_le_of_ne (by omega) fun same => ?_
    have last : roundQuotient a d + 1 = k := by
      apply le_antisymm less
      apply Nat.le_of_mul_le_mul_right _ pos
      rw [Nat.succ_mul]
      omega
    have := tie (by omega)
    omega
  · intro less
    by_contra more
    have : k * d ≤ roundQuotient a d * d := Nat.mul_le_mul_right d (not_lt.mp more)
    omega

/-- The bits of a quotient stay below a power of two if it comes within half a step of that power. -/
theorem bits_lt_iff {units : Nat} (pos : 0 < d) (n : Nat) :
    stepShift units d * 2 ^ 52 + stepCount units d < (n + 3) * 2 ^ 52 ↔ units < (2 ^ 54 - 1) * 2 ^ n * d := by
  have count : stepCount units d ≤ 2 ^ 53 := stepCount_le pos
  have least : stepShift units d = 0 ∨ 2 ^ 52 ≤ stepCount units d := le_stepCount pos
  rcases Nat.lt_trichotomy (stepShift units d) (n + 1) with below | top | above
  · have upper : units < (2 ^ 54 - 1) * 2 ^ n * d := by
      calc units < 2 ^ 53 * (d * 2 ^ stepShift units d) := lt_steps pos
        _ ≤ 2 ^ 53 * (d * 2 ^ n) :=
          Nat.mul_le_mul_left _ (Nat.mul_le_mul_left d (Nat.pow_le_pow_right (by decide) (Nat.le_of_lt_succ below)))
        _ = 2 ^ 53 * 2 ^ n * d := by ring
        _ ≤ (2 ^ 54 - 1) * 2 ^ n * d := Nat.mul_le_mul_right d (Nat.mul_le_mul_right _ (by decide))
    exact iff_of_true (by omega) upper
  · have steps : 0 < d * 2 ^ stepShift units d := Nat.mul_pos pos (Nat.two_pow_pos _)
    have rounded : stepCount units d < 2 ^ 53 ↔ _ := roundQuotient_lt_iff steps (by decide)
    have step : d * 2 ^ (n + 1) = 2 * (2 ^ n * d) := by ring
    rw [top, step] at rounded
    rw [top, Nat.mul_assoc]
    generalize 2 ^ n * d = half at rounded ⊢
    omega
  · have lower : (2 ^ 54 - 1) * 2 ^ n * d ≤ units := by
      calc (2 ^ 54 - 1) * 2 ^ n * d ≤ 2 ^ 54 * 2 ^ n * d := Nat.mul_le_mul_right d (Nat.mul_le_mul_right _ (by decide))
        _ = 2 ^ 52 * (d * 2 ^ (n + 2)) := by ring
        _ ≤ 2 ^ 52 * (d * 2 ^ stepShift units d) :=
          Nat.mul_le_mul_left _ (Nat.mul_le_mul_left d (Nat.pow_le_pow_right (by decide) above))
        _ ≤ units := (steps_le pos).resolve_left (by omega)
    exact iff_of_false (by omega) (not_lt.mpr lower)

/-- Half a step beyond the largest finite double, in units of `2 ^ -1074`. -/
def limit : Nat := (2 ^ 54 - 1) * 2 ^ 2044

/-- From there on a quotient is rounded to infinity. -/
theorem isFinite_nearest_iff_lt (pos : 0 < d) : isFinite (nearest a d) = true ↔ a * unitsPerOne < limit * d := by
  rw [isFinite_nearest_iff, nearestBits_eq, min_lt_iff, or_iff_left (lt_irrefl _)]
  exact bits_lt_iff pos 2044

theorem nearest_eq_infinity (infinite : ¬ isFinite (nearest a d) = true) : nearest a d = infinity := by
  rw [isFinite_nearest_iff, not_lt] at infinite
  have bits : nearestBits a d = infinityBits := le_antisymm (Nat.min_le_right _ _) infinite
  rw [nearest, infinity, bits]

theorem cast_limit : (limit : ℚ) / unitsPerOne = 2 ^ 1024 - 2 ^ 970 := by
  have top : (2 : ℚ) ^ 2044 = 2 ^ 970 * 2 ^ 1074 := pow_add 2 970 1074
  have next : (2 : ℚ) ^ 1024 = 2 ^ 54 * 2 ^ 970 := pow_add 2 54 970
  have positive : (2 : ℚ) ^ 1074 ≠ 0 := by
    generalize 1074 = n
    positivity
  have parts : (limit : ℚ) = (2 ^ 54 - 1) * 2 ^ 2044 := by
    unfold limit
    generalize 2044 = n
    push_cast
    norm_num
  rw [cast_unitsPerOne, parts, top, next]
  generalize (2 : ℚ) ^ 1074 = unit at positive ⊢
  generalize (2 : ℚ) ^ 970 = step
  field_simp

/-- How far the size of a double is from a quotient, in units of the product of their denominators. -/
theorem abs_size_sub {y : Float} (finite : isFinite y = true) (pos : 0 < d) :
    |(|value y|) - (a / d : ℚ)| = Nat.dist (magnitude y * d) (a * unitsPerOne) / (unitsPerOne * d) := by
  have unit : (0 : ℚ) < unitsPerOne * d := mul_pos cast_unitsPerOne_pos (Nat.cast_pos.mpr pos)
  rw [abs_value finite, div_sub_div _ _ cast_unitsPerOne_pos.ne' (Nat.cast_pos.mpr pos).ne', abs_div, abs_of_pos unit, cast_dist]
  push_cast
  rw [mul_comm (unitsPerOne : ℚ) a]

/-- The size of a double is no farther from a number that is not negative than the double is. -/
theorem abs_size_sub_le {q : ℚ} (least : 0 ≤ q) (y : Float) : |(|value y|) - q| ≤ |value y - q| := by
  have sizes := abs_abs_sub_abs_le (value y) q
  rwa [abs_of_nonneg least] at sizes

theorem value_nearest_zero (pos : 0 < d) (finite : isFinite (nearest 0 d) = true) : value (nearest 0 d) = 0 := by
  have size := magnitude_nearest pos finite
  rw [Nat.zero_mul, stepCount, roundQuotient_zero, Nat.zero_mul] at size
  rw [value_of_not_isNegative finite (isNegative_nearest 0 d), size, Nat.cast_zero, zero_div]

theorem isNearest_nearest (pos : 0 < d) (finite : isFinite (nearest a d) = true) : IsNearest (a / d) (nearest a d) := by
  have positive := isNegative_nearest a d
  have unit : (0 : ℚ) < unitsPerOne * d := mul_pos cast_unitsPerOne_pos (Nat.cast_pos.mpr pos)
  have least : (0 : ℚ) ≤ a / d := div_nonneg (Nat.cast_nonneg a) (Nat.cast_nonneg d)
  have size : |value (nearest a d)| = value (nearest a d) := abs_of_nonneg (value_nonneg finite positive)
  have distance := abs_size_sub (a := a) finite pos
  rw [size] at distance
  refine ⟨finite, positive, fun y finite' => ?_, fun y finite' differs same => ?_⟩
  · calc |value (nearest a d) - a / d| ≤ |(|value y|) - (a / d : ℚ)| := by
          rw [distance, abs_size_sub finite' pos, div_le_div_iff_of_pos_right unit, Nat.cast_le]
          exact nearest_closest pos finite finite'
      _ ≤ |value y - a / d| := abs_size_sub_le least y
  · have far := abs_size_sub_le least y
    rw [same, distance, abs_size_sub finite' pos, div_le_div_iff_of_pos_right unit, Nat.cast_le] at far
    have tie := le_antisymm far (nearest_closest pos finite finite')
    rw [significand_nearest_mod_two finite]
    refine even_stepCount pos finite finite' (fun equal => differs ?_) tie
    have sizes : |value y| = value (nearest a d) := by
      rw [abs_value finite', equal, ← abs_value finite, size]
    rcases abs_cases (value y) with ⟨plain, _⟩ | ⟨turned, _⟩
    · rw [← sizes, plain]
    · -- on both sides of the quotient and of the same size, they are zero
      have across : value y - a / d = -(value (nearest a d) - a / d) :=
        (abs_eq_abs.mp same).resolve_left fun equal => differs (sub_left_injective equal)
      have zero : (a / d : ℚ) = 0 := by linarith
      have none : a = 0 := by simpa [pos.ne'] using zero
      subst none
      rw [value_nearest_zero pos finite] at sizes ⊢
      exact abs_eq_zero.mp sizes

/-- A quotient is rounded to its nearest double, and to no other. -/
theorem roundsTo_iff (pos : 0 < d) {x : Float} : RoundsTo (a / d) x ↔ x = nearest a d := by
  have rounds : RoundsTo (a / d) (nearest a d) := by
    have threshold : (a / d : ℚ) < 2 ^ 1024 - 2 ^ 970 ↔ a * unitsPerOne < limit * d := by
      rw [← cast_limit, div_lt_div_iff₀ (Nat.cast_pos.mpr pos) cast_unitsPerOne_pos]
      norm_cast
    by_cases finite : isFinite (nearest a d) = true
    · exact .nearest (threshold.mpr ((isFinite_nearest_iff_lt pos).mp finite)) (isNearest_nearest pos finite)
    · rw [nearest_eq_infinity finite]
      refine .overflow (not_lt.mp fun small => finite ?_)
      exact (isFinite_nearest_iff_lt pos).mpr (threshold.mp small)
  exact ⟨fun rounds' => rounds'.unique rounds, fun same => same ▸ rounds⟩

end Found

end OutlineCalc.Binary64
