import OutlineCalc.Machine.Usual
import OutlineCalc.Proofs.WrittenNumber

/-!
A number as it is shown, typed back in. What is read need not be the number that was shown, but it is
shown the same: rounded to the places shown, the double nearest to a rounded number gives that again.
Numbers are shown to any number of places that leaves their digits countable.
-/

namespace OutlineCalc.Amount

open Binary64

section Finite

variable {x : Float} (finite : isFinite x = true) (places : Nat)

include finite

/-- What a finite number is rounded to is not too large for a double. -/
theorem isFinite_nearest_scaled : isFinite (nearest (scaled places x) (10 ^ places)) = true := by
  refine isFinite_nearest (Nat.pow_pos (by decide)) ?_
  obtain ⟨whole, top⟩ := unitsPerOne_dvd_largest
  have size := magnitude_le_largest finite
  rw [top] at size ⊢
  have rounded : scaled places x ≤ whole * 10 ^ places := by
    refine roundQuotient_le unitsPerOne_pos ?_
    calc magnitude x * 10 ^ places ≤ unitsPerOne * whole * 10 ^ places := Nat.mul_le_mul_right _ size
      _ = whole * 10 ^ places * unitsPerOne := by ring
  calc scaled places x * unitsPerOne ≤ whole * 10 ^ places * unitsPerOne := Nat.mul_le_mul_right _ rounded
    _ = unitsPerOne * whole * 10 ^ places := by ring

/-- The double nearest to a rounded number is rounded to that again: it is no farther from it than the
number itself is, and where both are one half away from it, it is what a tie was rounded to and even. -/
theorem scaled_nearest : scaled places (nearest (scaled places x) (10 ^ places)) = scaled places x := by
  have closest := nearest_closest (Nat.pow_pos (by decide)) (isFinite_nearest_scaled finite places) finite
  have near : 2 * Nat.dist (scaled places x * unitsPerOne) (magnitude x * 10 ^ places) ≤ unitsPerOne :=
    dist_roundQuotient_le _ unitsPerOne_pos
  have even : 2 * Nat.dist (scaled places x * unitsPerOne) (magnitude x * 10 ^ places) = unitsPerOne →
      scaled places x % 2 = 0 := even_roundQuotient unitsPerOne_pos
  rw [Nat.dist_comm, Nat.dist_comm (magnitude x * 10 ^ places)] at closest
  show roundQuotient (magnitude (nearest (scaled places x) (10 ^ places)) * 10 ^ places) unitsPerOne = scaled places x
  exact roundQuotient_eq unitsPerOne_pos (by omega) fun tie => even (by omega)

theorem text_eq (group : Bool) :
    text group places x = String.ofList (shown group (isNegative x) places (scaled places x)) := by
  simp [text, finite, isNaN_of_isFinite finite]

end Finite

/-- The number that is read where a number is shown to some places: the double nearest to what is
shown, which has no sign if that is zero. -/
def readBack (places : Nat) (x : Float) : Float :=
  withSign (isNegative x && scaled places x != 0) (nearest (scaled places x) (10 ^ places))

section ReadBack

variable {x : Float} (finite : isFinite x = true) (places : Nat)

include finite

theorem isFinite_readBack : isFinite (readBack places x) = true :=
  isFinite_withSign (isFinite_nearest_scaled finite places) _

theorem isNegative_readBack : isNegative (readBack places x) = (isNegative x && scaled places x != 0) :=
  isNegative_withSign (isFinite_nearest_scaled finite places) _ (isNegative_nearest _ _)

theorem scaled_readBack : scaled places (readBack places x) = scaled places x := by
  rw [readBack, scaled, magnitude_withSign (isFinite_nearest_scaled finite places)]
  exact scaled_nearest finite places

theorem text_readBack : text false places (readBack places x) = text false places x := by
  rw [text_eq finite, text_eq (isFinite_readBack finite places), scaled_readBack finite, isNegative_readBack finite,
    shown_eq, shown_eq, Bool.and_assoc, Bool.and_self]

/-- To so many places every double can be written out, and then nothing is lost. -/
theorem magnitude_readBack (fine : 1074 ≤ places) : magnitude (readBack places x) = magnitude x := by
  have pos : 0 < 10 ^ places := Nat.pow_pos (by decide)
  obtain ⟨k, units⟩ : ∃ k, magnitude x * 10 ^ places = k * unitsPerOne := by
    have powers : unitsPerOne ∣ 10 ^ places := by
      unfold unitsPerOne
      generalize 1074 = least at fine ⊢
      exact (Nat.pow_dvd_pow 2 fine).trans (pow_dvd_pow_of_dvd (by decide) places)
    exact exists_eq_mul_left_of_dvd (powers.mul_left (magnitude x))
  have exact : scaled places x = k := by
    rw [scaled, Nat.pow_eq, units]
    refine roundQuotient_eq unitsPerOne_pos ?_ fun tie => ?_
    · rw [Nat.dist_self]
      exact Nat.zero_le _
    · rw [Nat.dist_self] at tie
      exact absurd tie.symm unitsPerOne_pos.ne'
  have closest := nearest_closest pos (isFinite_nearest_scaled finite places) finite
  rw [exact, units, Nat.dist_self, Nat.le_zero] at closest
  have same := (Nat.eq_of_dist_eq_zero closest).trans units.symm
  rw [readBack, magnitude_withSign (isFinite_nearest_scaled finite places), exact]
  exact Nat.eq_of_mul_eq_mul_right pos same

/-- A number typed as it is shown is calculated without a fault. -/
theorem run_text_eq [Machine] (store : Store) :
    Calculation.run (text false places x) store = (⟨.number (readBack places x), none, none, none⟩, store) := by
  rw [text_eq finite, shown_eq, readBack, ← value_numeral]
  exact Calculation.run_written (written_numeral places (scaled places x)) _ store

end ReadBack

/-! ## Digits that can be counted -/

section Countable

variable {x : Float} (finite : isFinite x = true)

include finite

/-- No finite double has more than 309 whole digits. -/
theorem countedDigits_le : countedDigits x ≤ 310 := by
  have whole : magnitude x / unitsPerOne < 10 ^ 309 := by
    have top : largest < 10 ^ 309 * unitsPerOne := by decide +kernel
    rw [Nat.div_lt_iff_lt_mul unitsPerOne_pos]
    exact Nat.lt_of_le_of_lt (magnitude_le_largest finite) top
  have digits : (wholeDigits (magnitude x / unitsPerOne)).length ≤ 309 := Nat.toDigits_length 10 _ 309 (by decide) whole
  rw [countedDigits]
  split
  · exact Nat.zero_le _
  · split <;> omega

/-- What is typed back has no more digits to count than there can be. -/
theorem countedDigits_readBack {places : Nat} (countable : places + countedDigits x ≤ mostDigits) :
    places + countedDigits (readBack places x) ≤ mostDigits := by
  by_cases fine : 1074 ≤ places
  · rwa [countedDigits, magnitude_readBack finite places fine]
  · have few := countedDigits_le (isFinite_readBack finite places)
    have most : 1074 + 310 ≤ mostDigits := by decide
    omega

/-- A finite number is shown to any number of places that leaves its digits countable. -/
theorem textTo_eq_text [Machine] {places : Nat} (countable : places + countedDigits x ≤ mostDigits) (group : Bool) :
    textTo group places x = .ok (text group places x) := by
  have written : mostDigits < Nat.pow 10 4300 := by decide +kernel
  have faultless : placesFault? places = none := by
    rw [placesFault?, if_neg (by omega), if_neg (by omega), if_pos (by omega)]
  rw [textTo, if_pos finite, faultless]
  exact congrArg Except.ok (if_pos countable)

end Countable

end OutlineCalc.Amount

namespace OutlineCalc.Store

open Amount (countedDigits mostDigits)
open Binary64 (isFinite nearest)

/-- Any finite number, as a store without groups shows it to any number of places that leaves its digits
countable, can be typed back: it is shown, over every store the text is calculated without a fault, and
what comes out is shown as the same text. -/
theorem run_format [Machine] {shown : Store} (plain : shown.groupDigits = false) {x : Float} (finite : isFinite x = true)
    {places : Nat} (same : shown.fractionDigits = places) (countable : places + countedDigits x ≤ mostDigits) (store : Store) :
    ∃ text, shown.format x = .ok text ∧
      ∃ w, Calculation.run text store = (⟨.number w, none, none, none⟩, store) ∧ shown.format w = .ok text := by
  have finite' := Amount.isFinite_readBack finite places
  have countable' := Amount.countedDigits_readBack finite countable
  simp only [format, plain, same]
  refine ⟨_, Amount.textTo_eq_text finite countable false, Amount.readBack places x, Amount.run_text_eq finite places store, ?_⟩
  rw [Amount.textTo_eq_text finite' countable', Amount.text_readBack finite]

/-- Half way between two numbers shown: minus five halves, without decimal places, over a store that
binds a name. -/
theorem run_format_tie :
    letI := Machine.usual
    isFinite (-nearest 5 2) = true ∧ 0 + countedDigits (-nearest 5 2) ≤ mostDigits ∧
      ∃ text, Store.format ⟨false, 0, []⟩ (-nearest 5 2) = .ok text ∧
        ∃ w, Calculation.run text ⟨true, 3, [("x", .text "2")]⟩ =
            (⟨.number w, none, none, none⟩, ⟨true, 3, [("x", .text "2")]⟩) ∧
          Store.format ⟨false, 0, []⟩ w = .ok text := by
  let _ := Machine.usual
  have finite : isFinite (-nearest 5 2) = true := by decide +kernel
  have countable : 0 + countedDigits (-nearest 5 2) ≤ mostDigits := by decide +kernel
  exact ⟨finite, countable, run_format rfl finite rfl countable _⟩

/-- To more places than digits can be counted no finite number is shown, so there is nothing to type. -/
theorem not_run_format_beyond :
    letI := Machine.usual
    isFinite (nearest 3 2) = true ∧ (0 : Int) ≤ 2 ^ 31 ∧
      ¬ ∃ text, Store.format ⟨false, 2 ^ 31, []⟩ (nearest 3 2) = .ok text ∧
        ∃ w, Calculation.run text {} = (⟨.number w, none, none, none⟩, {}) ∧ Store.format ⟨false, 2 ^ 31, []⟩ w = .ok text := by
  let _ := Machine.usual
  have refused : Store.format ⟨false, 2 ^ 31, []⟩ (nearest 3 2) = .error .tooMany := by decide +kernel
  refine ⟨by decide +kernel, by decide, ?_⟩
  rintro ⟨text, shown, _⟩
  rw [refused] at shown
  cases shown

end OutlineCalc.Store
