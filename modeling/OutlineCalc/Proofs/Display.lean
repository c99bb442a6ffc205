import OutlineCalc.Proofs.Digits
import OutlineCalc.Proofs.ExactValue
import OutlineCalc.Proofs.ReadBack

/-!
How a finite number is shown. Its exact value is rounded to the places shown, with ties to even, and what
comes out is written in decimal: a minus sign unless nothing is left of the number, the whole digits without
leading zeros, in groups of three where these are asked for, and the digits of the fraction without the zeros
that they end in. A number is shown so to every number of places that leaves its digits countable.
-/

namespace OutlineCalc.Amount

open Binary64
open Letter (isDigit)
open Numeral (digitsValue)

/-! ## The nearest whole number -/

/-- Whether no whole number is nearer to a fraction than `k`, and `k` is even if another one is as near. -/
structure NearestEven (q : ℚ) (k : ℤ) : Prop where
  nearest : ∀ j : ℤ, |(k : ℚ) - q| ≤ |(j : ℚ) - q|
  even : ∀ j : ℤ, j ≠ k → |(j : ℚ) - q| = |(k : ℚ) - q| → Even k

section Nearest

variable {q : ℚ} {j k : ℤ}

theorem one_le_abs_sub (differs : j ≠ k) : (1 : ℚ) ≤ |(j : ℚ) - k| := by
  have apart : 1 ≤ |j - k| := Int.one_le_abs (sub_ne_zero.mpr differs)
  exact_mod_cast apart

theorem NearestEven.abs_sub_le_half (near : NearestEven q k) : |(k : ℚ) - q| ≤ 1 / 2 := by
  have rounded := abs_sub_round q
  rw [abs_sub_comm] at rounded
  exact (near.nearest (round q)).trans rounded

/-- Only one whole number is the nearest in this sense: two that are equally near are neighbours, and of
neighbours one is odd. -/
theorem NearestEven.unique (near : NearestEven q k) (near' : NearestEven q j) : j = k := by
  by_contra differs
  have same : |(j : ℚ) - q| = |(k : ℚ) - q| := le_antisymm (near'.nearest k) (near.nearest j)
  have first : Even k := near.even j differs same
  have second : Even j := near'.even k (Ne.symm differs) same.symm
  have close : |(j : ℚ) - k| ≤ 1 := by
    have triangle := abs_sub_le (j : ℚ) q k
    have half := near.abs_sub_le_half
    rw [abs_sub_comm q] at triangle
    linarith
  have bound : |j - k| ≤ 1 := by exact_mod_cast close
  obtain ⟨a, rfl⟩ := first
  obtain ⟨b, rfl⟩ := second
  rw [abs_le] at bound
  omega

theorem cast_dist (m n : ℕ) : (Nat.dist m n : ℚ) = |(m : ℚ) - n| := by
  rcases Nat.le_total m n with le | le
  · rw [Nat.dist_eq_sub_of_le le, Nat.cast_sub le, abs_sub_comm, abs_of_nonneg]
    exact sub_nonneg.mpr (Nat.cast_le.mpr le)
  · rw [Nat.dist_eq_sub_of_le_right le, Nat.cast_sub le, abs_of_nonneg]
    exact sub_nonneg.mpr (Nat.cast_le.mpr le)

/-- One half away is as near as a whole number has to be, since any other one is one apart from it. -/
theorem nearestEven_of_half (half : |(k : ℚ) - q| ≤ 1 / 2) (tie : |(k : ℚ) - q| = 1 / 2 → Even k) : NearestEven q k := by
  have far : ∀ j : ℤ, j ≠ k → 1 / 2 ≤ |(j : ℚ) - q| := by
    intro j differs
    have apart := one_le_abs_sub differs
    have triangle := abs_sub_le (j : ℚ) q k
    rw [abs_sub_comm q] at triangle
    linarith
  constructor
  · intro j
    by_cases same : j = k
    · rw [same]
    · exact half.trans (far j same)
  · intro j differs same
    exact tie (le_antisymm half (same ▸ far j differs))

theorem nearestEven_roundQuotient (a : ℕ) {d : ℕ} (pos : 0 < d) : NearestEven (a / d : ℚ) (roundQuotient a d) := by
  have positive : (0 : ℚ) < d := Nat.cast_pos.mpr pos
  have distance : |((roundQuotient a d : ℤ) : ℚ) - a / d| = Nat.dist (roundQuotient a d * d) a / d := by
    have scale : ((roundQuotient a d * d : ℕ) : ℚ) - a = ((roundQuotient a d : ℤ) - a / d : ℚ) * d := by
      push_cast
      field_simp
    rw [cast_dist, scale, abs_mul, abs_of_pos positive, mul_div_cancel_right₀ _ positive.ne']
  apply nearestEven_of_half
  · have near : 2 * Nat.dist (roundQuotient a d * d) a ≤ d := dist_roundQuotient_le a pos
    rw [distance, div_le_div_iff₀ positive two_pos, one_mul, mul_comm]
    exact_mod_cast near
  · intro tie
    rw [distance, div_eq_div_iff positive.ne' two_ne_zero, one_mul, mul_comm] at tie
    have even : roundQuotient a d % 2 = 0 := even_roundQuotient pos (by exact_mod_cast tie)
    exact (Int.even_coe_nat _).mpr (Nat.even_iff.mpr even)

/-- What a finite number is rounded to is the whole number of units nearest to its exact size. -/
theorem nearestEven_scaled {x : Float} (finite : isFinite x = true) (places : ℕ) :
    NearestEven (|value x| * 10 ^ places) (scaled places x) := by
  have exact_eq : |value x| * 10 ^ places = ((magnitude x * 10 ^ places : ℕ) : ℚ) / unitsPerOne := by
    rw [abs_value finite]
    push_cast
    ring
  rw [exact_eq]
  exact nearestEven_roundQuotient _ unitsPerOne_pos

end Nearest

/-! ## The whole text -/

/-- `Shows group places q text`: how a fraction is shown to some places. It is rounded to `k` units of the last
place, and these are written with a minus sign if the fraction is negative and not rounded to zero, with
their whole digits, and with a point and the digits of the fraction if there is one. -/
inductive Shows (group : Bool) (places : ℕ) (q : ℚ) : List Char → Prop
  | of {k : ℕ} {digits whole fraction : List Char} (near : NearestEven (|q| * 10 ^ places) k)
      (decimal : Decimal digits (k / 10 ^ places)) (grouping : Grouped group digits whole)
      (fractional : Fraction places fraction (k % 10 ^ places)) :
      Shows group places q ((if q < 0 ∧ 0 < k then ['-'] else []) ++ whole ++
        (if k % 10 ^ places = 0 then [] else '.' :: fraction))

theorem shown_parts (group negative : Bool) (places k : ℕ) :
    shown group negative places k = (if negative = true ∧ 0 < k then ['-'] else []) ++
      (if group = true then grouped (wholeDigits (k / 10 ^ places)) else wholeDigits (k / 10 ^ places)) ++
      (if k % 10 ^ places = 0 then [] else '.' :: dropZeros (placeDigits places (k % 10 ^ places))) := by
  have fractional := fraction_dropZeros (Nat.mod_lt k (Nat.pow_pos (by decide) : 0 < 10 ^ places))
  have signed : (negative && k != 0) = true ↔ negative = true ∧ 0 < k := by
    rw [Bool.and_eq_true, bne_iff_ne, ← Nat.pos_iff_ne_zero]
  simp only [shown, Nat.pow_eq, signed, List.isEmpty_iff, fractional.eq_nil_iff]

/-- One text shows a fraction, and no other. -/
theorem shows_iff {group negative : Bool} {places k : ℕ} {q : ℚ} {text : List Char} (near : NearestEven (|q| * 10 ^ places) k)
    (signed : negative = true ∧ 0 < k ↔ q < 0 ∧ 0 < k) : Shows group places q text ↔ text = shown group negative places k := by
  have below (k : ℕ) : k % 10 ^ places < 10 ^ places := Nat.mod_lt k (Nat.pow_pos (by decide))
  simp only [shown_parts, signed]
  constructor
  · intro display
    cases display with
    | @of k' digits whole fraction near' decimal grouping fractional =>
      obtain rfl : k' = k := Int.ofNat_inj.mp (near.unique near')
      rw [decimal.eq_wholeDigits] at grouping
      rw [fractional.eq_dropZeros (below k')]
      cases group with
      | false =>
        cases grouping
        rfl
      | true =>
        rw [grouping.eq_grouped]
        rfl
  · rintro rfl
    have decimal := decimal_wholeDigits (k / 10 ^ places)
    refine .of near decimal ?_ (fraction_dropZeros (below k))
    cases group with
    | false => exact .plain
    | true => exact grouped_grouped decimal.nonempty

theorem signed_iff {x : Float} (finite : isFinite x = true) (places : ℕ) :
    isNegative x = true ∧ 0 < scaled places x ↔ value x < 0 ∧ 0 < scaled places x := by
  rw [value_neg_iff finite]
  constructor
  · rintro ⟨negative, left⟩
    refine ⟨⟨negative, Nat.pos_of_ne_zero ?_⟩, left⟩
    -- nothing is left of zero
    intro zero
    rw [scaled, zero, Nat.zero_mul, roundQuotient_zero] at left
    contradiction
  · rintro ⟨⟨negative, _⟩, left⟩
    exact ⟨negative, left⟩

theorem shows_iff_text {group : Bool} {places : ℕ} {x : Float} (finite : isFinite x = true) {cs : List Char} :
    Shows group places (value x) cs ↔ cs = (text group places x).toList := by
  rw [text_eq finite, String.toList_ofList]
  exact shows_iff (nearestEven_scaled finite places) (signed_iff finite places)

theorem exists_shows (group : Bool) (places : ℕ) {x : Float} (finite : isFinite x = true) : ∃ text, Shows group places (value x) text :=
  ⟨_, (shows_iff_text finite).mpr rfl⟩

/-! ## What follows for every text shown -/

/-- A number of units of the last of some decimal places as it is shown: what stands in front of the point, and
what stands from there on. -/
structure Parts (places k : ℕ) (front rest : List Char) : Prop where
  point : '.' ∉ front
  last : ∃ c, front.getLast? = some c ∧ isDigit c = true
  value : digitsValue (front.filter isDigit) = k / 10 ^ places
  minus : '-' ∈ front → 0 < k
  rest : (rest = [] ∧ k % 10 ^ places = 0) ∨
    ∃ fraction, rest = '.' :: fraction ∧ fraction ≠ [] ∧ Fraction places fraction (k % 10 ^ places)

namespace Shows

variable {group : Bool} {places : ℕ} {q : ℚ} {text : List Char} (display : Shows group places q text)

include display

theorem exists_parts : ∃ (k : ℕ) (front rest : List Char),
    NearestEven (|q| * 10 ^ places) k ∧ text = front ++ rest ∧ Parts places k front rest := by
  cases display with
  | @of k digits whole fraction near decimal grouping fractional =>
    refine ⟨k, _, _, near, rfl, ?_⟩
    have last : whole.getLast? = some (digits.getLast decimal.nonempty) := by
      rw [grouping.getLast?_eq, List.getLast?_eq_some_getLast decimal.nonempty]
    have written : ∀ c ∈ (if q < 0 ∧ 0 < k then ['-'] else []) ++ whole, (c = '-' ∧ 0 < k) ∨ isDigit c = true ∨ c = ',' := by
      intro c mem
      rcases List.mem_append.mp mem with sign | mem
      · split at sign
        · rename_i negative
          exact .inl ⟨List.mem_singleton.mp sign, negative.2⟩
        · contradiction
      · exact .inr ((grouping.mem mem).imp_left (decimal.digit c))
    constructor
    · intro mem
      rcases written _ mem with ⟨minus, _⟩ | digit | comma <;> contradiction
    · refine ⟨_, ?_, decimal.digit _ (List.getLast_mem decimal.nonempty)⟩
      rw [List.getLast?_append, last, Option.some_or]
    · have sign : (if q < 0 ∧ 0 < k then ['-'] else []).filter isDigit = [] := by split <;> rfl
      rw [List.filter_append, sign, List.nil_append, grouping.filter_isDigit decimal.digit, decimal.value]
    · intro mem
      rcases written _ mem with ⟨_, left⟩ | digit | comma
      · exact left
      · contradiction
      · contradiction
    · by_cases none : k % 10 ^ places = 0
      · exact .inl ⟨if_pos none, none⟩
      · exact .inr ⟨fraction, if_neg none, mt fractional.eq_nil_iff.mp none, fractional⟩

/-- The whole digits are those of the rounded number, zeros at their end included. -/
theorem whole_digits {k : ℕ} (near : NearestEven (|q| * 10 ^ places) k) :
    digitsValue ((text.takeWhile (· != '.')).filter isDigit) = k / 10 ^ places := by
  obtain ⟨k', front, rest, near', rfl, parts⟩ := display.exists_parts
  obtain rfl : k' = k := Int.ofNat_inj.mp (near.unique near')
  have noPoint : ∀ c ∈ front, (c != '.') = true := by
    rintro c mem
    rw [bne_iff_ne]
    rintro rfl
    exact parts.point mem
  rw [List.takeWhile_append_of_pos noPoint, ← parts.value]
  rcases parts.rest with ⟨rfl, -⟩ | ⟨fraction, rfl, -, -⟩ <;> simp

theorem getLast?_ne_point : text.getLast? ≠ some '.' := by
  obtain ⟨k, front, rest, -, rfl, parts⟩ := display.exists_parts
  rcases parts.rest with ⟨rfl, -⟩ | ⟨fraction, rfl, some, fractional⟩
  · obtain ⟨c, last, digit⟩ := parts.last
    rw [List.append_nil, last, Option.some_inj.ne]
    rintro rfl
    contradiction
  · rw [List.getLast?_append_of_ne_nil _ (List.cons_ne_nil '.' fraction), List.getLast?_cons_of_ne_nil some]
    intro last
    have digit := fractional.digit '.' (List.mem_of_getLast? last)
    contradiction

theorem getLast?_ne_zero (point : '.' ∈ text) : text.getLast? ≠ some '0' := by
  obtain ⟨k, front, rest, -, rfl, parts⟩ := display.exists_parts
  rcases parts.rest with ⟨rfl, -⟩ | ⟨fraction, rfl, some, fractional⟩
  · rw [List.append_nil] at point
    exact absurd point parts.point
  · rw [List.getLast?_append_of_ne_nil _ (List.cons_ne_nil '.' fraction), List.getLast?_cons_of_ne_nil some]
    exact fractional.trailing

/-- Zero is never negative. -/
theorem ne_minus_zero : text ≠ ['-', '0'] := by
  obtain ⟨k, front, rest, -, rfl, parts⟩ := display.exists_parts
  intro same
  rcases parts.rest with ⟨rfl, whole⟩ | ⟨fraction, rfl, -, -⟩
  · rw [List.append_nil] at same
    subst same
    have value : 0 = k / 10 ^ places := parts.value
    have left : 0 < k := parts.minus (by simp)
    have split := Nat.div_add_mod k (10 ^ places)
    rw [← value, whole, Nat.mul_zero] at split
    exact left.ne split
  · have point : '.' ∈ ['-', '0'] := by
      rw [← same]
      simp
    contradiction

end Shows

end OutlineCalc.Amount

namespace OutlineCalc.Store

open Amount (NearestEven Shows countedDigits mostDigits)
open Binary64 (isFinite nearest value)

/-- Over every store a finite number whose digits can be counted is shown as its exact value, rounded to the places
of the store, and as nothing else: one number of units is the nearest, and its sign, whole digits, groups and fraction
make up the text. So zero has no sign, no text ends in a point and no fraction in a zero, and no whole digit is lost. -/
theorem format_shows [Machine] (store : Store) {x : Float} (finite : isFinite x = true) {places : ℕ}
    (same : store.fractionDigits = places) (countable : places + countedDigits x ≤ mostDigits) :
    ∃ shown, store.format x = .ok shown ∧
      (∀ text, Shows store.groupDigits places (value x) text ↔ text = shown.toList) ∧
      (∃! k : ℤ, NearestEven (|value x| * 10 ^ places) k) ∧
      shown ≠ "-0" ∧
      shown.toList.getLast? ≠ some '.' ∧
      ('.' ∈ shown.toList → shown.toList.getLast? ≠ some '0') ∧
      ∀ k : ℕ, NearestEven (|value x| * 10 ^ places) k →
        Numeral.digitsValue ((shown.toList.takeWhile (· != '.')).filter Letter.isDigit) = k / 10 ^ places := by
  have shows_iff (text : List Char) :
      Shows store.groupDigits places (value x) text ↔ text = (Amount.text store.groupDigits places x).toList :=
    Amount.shows_iff_text finite
  have display := (shows_iff _).mpr rfl
  have near := Amount.nearestEven_scaled finite places
  rw [format, same]
  refine ⟨_, Amount.textTo_eq_text finite countable _, shows_iff, ⟨_, near, fun j near' => near.unique near'⟩, ?_,
    display.getLast?_ne_point, display.getLast?_ne_zero, fun k near => display.whole_digits near⟩
  intro zero
  rw [zero] at display
  exact display.ne_minus_zero rfl

/-- A tie that is carried into another group: minus 999.5, without decimal places. -/
theorem format_shows_carry :
    letI := Machine.usual
    isFinite (-nearest 1999 2) = true ∧ 0 + countedDigits (-nearest 1999 2) ≤ mostDigits ∧
      Store.format ⟨true, 0, []⟩ (-nearest 1999 2) = .ok "-1,000" ∧ Shows true 0 (value (-nearest 1999 2)) "-1,000".toList := by
  let _ := Machine.usual
  have finite : isFinite (-nearest 1999 2) = true := by decide +kernel
  have countable : 0 + countedDigits (-nearest 1999 2) ≤ mostDigits := by decide +kernel
  have carried : Store.format ⟨true, 0, []⟩ (-nearest 1999 2) = .ok "-1,000" := by decide +kernel
  have whole : Store.fractionDigits ⟨true, 0, []⟩ = (0 : ℕ) := rfl
  obtain ⟨shown, same, display, _⟩ := format_shows ⟨true, 0, []⟩ finite whole countable
  obtain rfl := Except.ok.inj (same.symm.trans carried)
  exact ⟨finite, countable, carried, (display _).mpr rfl⟩

/-- To more places than digits can be counted there is a text that shows a number, and yet it is not shown. -/
theorem not_format_shows_beyond :
    letI := Machine.usual
    isFinite (nearest 3 2) = true ∧ (∃ text, Shows false (2 ^ 31) (value (nearest 3 2)) text) ∧
      ∀ shown, Store.format ⟨false, 2 ^ 31, []⟩ (nearest 3 2) ≠ .ok shown := by
  let _ := Machine.usual
  have finite : isFinite (nearest 3 2) = true := by decide +kernel
  have refused : Store.format ⟨false, 2 ^ 31, []⟩ (nearest 3 2) = .error .tooMany := by decide +kernel
  refine ⟨finite, Amount.exists_shows false (2 ^ 31) finite, fun shown given => ?_⟩
  rw [refused] at given
  cases given

end OutlineCalc.Store
