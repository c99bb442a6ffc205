import OutlineCalc.Proofs.DoubleBits
import OutlineCalc.Proofs.Tree

/-!
What is lost when the total is left out. With one line on the top level everything else stands below
that line, so its result and the total add up the same values in the same order, and differ only in
what the sum starts from. Zero added to the first value can turn a negative zero into a positive one
and does nothing else, and sums that differ in the sign of a zero are shown alike.
-/

namespace OutlineCalc.Binary64

open Float.Model (Format)
open Float.Model.UnpackedFloat (Sign add unpack_packedZero pack_unpack_of_valid)

/-- Whether a double is one of the two zeros. -/
def IsZero (x : Float) : Prop := x = 0 ∨ x = -0

/-- Whether two doubles are the same but for the sign of a zero. -/
def SameNumber (x y : Float) : Prop := x = y ∨ IsZero x ∧ IsZero y

theorem SameNumber.symm {x y : Float} (same : SameNumber x y) : SameNumber y x := by
  rcases same with rfl | ⟨zero, zero'⟩
  · exact .inl rfl
  · exact .inr ⟨zero', zero⟩

theorem SameNumber.trans {x y z : Float} (first : SameNumber x y) (second : SameNumber y z) : SameNumber x z := by
  rcases first with rfl | ⟨zero, zero'⟩
  · exact second
  · rcases second with rfl | ⟨_, zero''⟩
    · exact .inr ⟨zero, zero'⟩
    · exact .inr ⟨zero, zero''⟩

/-! ## Sums -/

/-- A double is packed from the parts it is unpacked to. -/
private theorem ofModel_pack_unpack (x : Float) : Float.ofModel (Float.Model.pack x.toModel.unpack) = x := by
  obtain ⟨bits, valid⟩ := x
  refine congrArg Float.ofModel ?_
  simp only [Float.Model.pack, Float.Model.unpack, Float.Model.mk.injEq]
  exact UInt64.toBitVec_inj.1 (pack_unpack_of_valid valid)

private theorem isZero_pack (sign : Sign) : IsZero (.ofModel (.pack (.zero sign))) := by
  cases sign with
  | negative => exact .inr rfl
  | positive => exact .inl rfl

private theorem IsZero.unpack_eq {x : Float} (zero : IsZero x) : ∃ sign, x.toModel.unpack = .zero sign := by
  rcases zero with rfl | rfl
  · exact ⟨.positive, rfl⟩
  · exact ⟨.negative, rfl⟩

/-- A zero that is added to a number changes at most the sign of a zero. -/
theorem sameNumber_zero_add {z : Float} (zero : IsZero z) (x : Float) : SameNumber (z + x) x := by
  obtain ⟨sign, parts⟩ := zero.unpack_eq
  have sum : z + x = .ofModel (.pack (add Format.binary64 (.zero sign) x.toModel.unpack)) := by
    rw [← parts]
    rfl
  have same := ofModel_pack_unpack x
  rw [sum]
  generalize x.toModel.unpack = unpacked at same ⊢
  subst same
  cases unpacked with
  | zero sign' =>
    refine .inr ⟨?_, isZero_pack sign'⟩
    rw [add]
    split
    · exact isZero_pack sign
    · exact isZero_pack .positive
  | notANumber => exact .inl rfl
  | infinity => exact .inl rfl
  | finite => exact .inl rfl

theorem SameNumber.add {x y : Float} (same : SameNumber x y) (v : Float) : SameNumber (x + v) (y + v) := by
  rcases same with rfl | ⟨zero, zero'⟩
  · exact .inl rfl
  · exact (sameNumber_zero_add zero v).trans (sameNumber_zero_add zero' v).symm

theorem SameNumber.foldl_add {x y : Float} (same : SameNumber x y) (values : List Float) :
    SameNumber (values.foldl (· + ·) x) (values.foldl (· + ·) y) := by
  induction values generalizing x y with
  | nil => exact same
  | cons v values ih => exact ih (same.add v)

/-! ## Comparing and showing -/

/-- Numbers that are the same but for the sign of a zero are equal, unless they are no numbers. -/
theorem SameNumber.beq {x y : Float} (same : SameNumber x y) : (x == y) = true ∨ isNaN x = true ∧ isNaN y = true := by
  rcases same with rfl | ⟨zero, zero'⟩
  · cases itself : x == x with
    | true => exact .inl rfl
    | false =>
      obtain rfl := Float.beq_self_eq_false_iff.mp itself
      have undefined : isNaN Float.nan = true := by decide +kernel
      exact .inr ⟨undefined, undefined⟩
  · rcases zero with rfl | rfl <;> rcases zero' with rfl | rfl <;> decide +kernel

theorem IsZero.isFinite {x : Float} (zero : IsZero x) : isFinite x = true := by
  rcases zero with rfl | rfl <;> decide +kernel

theorem IsZero.magnitude_eq {x : Float} (zero : IsZero x) : magnitude x = 0 := by
  rcases zero with rfl | rfl <;> decide +kernel

end OutlineCalc.Binary64

namespace OutlineCalc.Amount

open Binary64

/-- A zero is shown without its sign. -/
theorem text_of_isZero {x : Float} (zero : IsZero x) (group : Bool) (places : Nat) :
    text group places x = text group places 0 := by
  have none : scaled places x = 0 := by
    simp [scaled, zero.magnitude_eq, roundQuotient_zero]
  have none' : scaled places 0 = 0 := by
    simp [scaled, IsZero.magnitude_eq (.inl rfl), roundQuotient_zero]
  simp [text, shown, none, none', zero.isFinite, IsZero.isFinite (.inl rfl), isNaN_of_isFinite]

theorem le_mostDigits_of_placesFault? {places : Int} (faultless : placesFault? places = none) : places.toNat ≤ mostDigits := by
  unfold placesFault? at faultless
  generalize Nat.pow 10 4300 = written at faultless
  split at faultless
  · contradiction
  · split at faultless
    · contradiction
    · split at faultless
      · omega
      · split at faultless <;> contradiction

/-- A zero has no digit to count in front of the point. -/
theorem textTo_of_isZero [Machine] {x : Float} (zero : IsZero x) (group : Bool) (places : Int) :
    textTo group places x = textTo group places 0 := by
  have uncounted : ∀ {y : Float}, IsZero y → countedDigits y = 0 := by
    intro y zero
    simp [countedDigits, zero.magnitude_eq]
  have zero' : IsZero 0 := .inl rfl
  rw [textTo, textTo, if_pos zero.isFinite, if_pos zero'.isFinite]
  cases faultless : placesFault? places with
  | some fault => rfl
  | none =>
    have countable := le_mostDigits_of_placesFault? faultless
    simp only [uncounted zero, uncounted zero', Nat.add_zero, if_pos countable, text_of_isZero zero]

theorem textTo_of_sameNumber [Machine] {x y : Float} (same : SameNumber x y) (group : Bool) (places : Int) :
    textTo group places x = textTo group places y := by
  rcases same with rfl | ⟨zero, zero'⟩
  · rfl
  · rw [textTo_of_isZero zero, textTo_of_isZero zero']

end OutlineCalc.Amount

namespace OutlineCalc.Outline

open Binary64 (SameNumber sameNumber_zero_add)

variable {o : Outline}

/-- With one line on the top level, that is the first one that was put in, and all others stand
below it. -/
theorem below_soleTop (rooted : o.Rooted) (linked : o.Linked) {i : Nat} (sole : o.children 0 = [i]) :
    i = 1 ∧ 1 < o.lines.size ∧ o.below 0 = 1 :: o.below 1 := by
  have child : i ∈ o.children 0 := by
    rw [sole]
    exact List.mem_singleton_self i
  obtain ⟨later, inside⟩ := lt_of_mem_children rooted linked child
  have root : ∀ j, 0 < j → j < o.lines.size → 0 ∈ o.ancestors j := by
    intro j later inside
    have last := List.mem_of_getLast? (getLast?_cons_ancestors rooted inside)
    exact (List.mem_cons.mp last).resolve_left (by omega)
  have top : ∀ j, 0 < j → j < o.lines.size → i ∈ j :: o.ancestors j := by
    intro j later inside
    obtain ⟨c, child, mem⟩ := (mem_ancestors_iff_child rooted linked inside).mp (root j later inside)
    rw [sole] at child
    rwa [List.mem_singleton.mp child] at mem
  obtain rfl : i = 1 := by
    have := le_of_mem_cons_ancestors rooted (by omega) (top 1 (by omega) (by omega))
    omega
  refine ⟨rfl, inside, ?_⟩
  obtain ⟨count, size⟩ : ∃ count, o.lines.size = count + 2 := ⟨o.lines.size - 2, by omega⟩
  have places : List.range o.lines.size = 0 :: 1 :: List.range' 2 count := by
    rw [size, List.range_eq_range', List.range'_succ, List.range'_succ]
  have second : 1 ∉ o.ancestors 1 := fun above => Nat.lt_irrefl 1 (lt_of_mem_ancestors rooted inside 1 above)
  have rest : ∀ j ∈ List.range' 2 count, 0 ∈ o.ancestors j ∧ 1 ∈ o.ancestors j := by
    intro j mem
    have within := List.mem_range'_1.mp mem
    have above := top j (by omega) (by omega)
    exact ⟨root j (by omega) (by omega), (List.mem_cons.mp above).resolve_left (by omega)⟩
  rw [below, below, places, List.filter_cons_of_neg (by simp [ancestors_zero rooted]),
    List.filter_cons_of_pos (by simp [root 1 later inside]), List.filter_cons_of_neg (by simp [ancestors_zero rooted]),
    List.filter_cons_of_neg (by simp [second]), List.filter_eq_self.mpr fun j mem => by simp [(rest j mem).1],
    List.filter_eq_self.mpr fun j mem => by simp [(rest j mem).2]]

/-- The total starts from zero and then adds up what the only line on the top level does. -/
theorem sameNumber_total (rooted : o.Rooted) (linked : o.Linked) {starts : List Float} (rolled : o.RolledUp starts)
    (zero : starts[0]? = some 0) (own : starts[1]? = some (o.value 1)) {i : Nat} (sole : o.children 0 = [i]) :
    SameNumber (o.result i) o.total := by
  obtain ⟨rfl, _, below⟩ := below_soleTop rooted linked sole
  have total : o.total = ((o.below 1).map o.value).foldl (· + ·) (0 + o.value 1) := by
    rw [show o.total = o.result 0 from rfl, rolled.sum 0 0 zero, below]
    rfl
  rw [total, rolled.sum 1 _ own]
  exact ((sameNumber_zero_add (.inl rfl) _).foldl_add _).symm

end OutlineCalc.Outline

namespace OutlineCalc.Document

open Binary64 (SameNumber isNaN isNegative)
open Outline

/-- Where a document has one line on the top level, its total is left out and nothing is lost: the
total and the result of that line are equal or both no numbers, in fact the same but for the sign of a
zero, and every store shows both alike, to any number of places. -/
theorem total_of_soleTop [Machine] (document : String) (store : Store) {i : Nat} (sole : (build document store).1.children 0 = [i]) :
    let o := (build document store).1
    Row.totalOf o = [] ∧ ((o.result i == o.total) = true ∨ isNaN (o.result i) = true ∧ isNaN o.total = true) ∧
      SameNumber (o.result i) o.total ∧ (∀ shown : Store, shown.format (o.result i) = shown.format o.total) ∧
      ∀ group places, Amount.textTo group places (o.result i) = Amount.textTo group places o.total := by
  intro o
  have rooted : o.Rooted := (nested_build document store).rooted
  have linked : o.Linked := linked_build document store
  obtain ⟨_, inside, _⟩ := below_soleTop rooted linked sole
  have zero : (o.lines.toList.map (·.value))[0]? = some 0 := by
    rw [values_build]
    rfl
  have own : (o.lines.toList.map (·.value))[1]? = some (o.value 1) := by
    simp [value, inside]
  have same := sameNumber_total rooted linked (rolledUp_build document store) zero own sole
  exact ⟨by simp [Row.totalOf, o, sole], same.beq, same, fun shown => Amount.textTo_of_sameNumber same _ _,
    fun group places => Amount.textTo_of_sameNumber same _ _⟩

/-- Negative zeros below one another. -/
def negativeZeros : String := "-0\n  -0"

/-- Their sum is the negative zero, and starting from zero it is not. -/
theorem total_of_negativeZeros :
    letI := Machine.usual
    let o := (build negativeZeros {}).1
    o.children 0 = [1] ∧ isNegative (o.result 1) = true ∧ isNegative o.total = false ∧ (o.result 1 == o.total) = true ∧
      Store.format {} (o.result 1) = Store.format {} o.total := by
  let _ := Machine.usual
  intro o
  have sole : o.children 0 = [1] := by decide +kernel
  obtain ⟨_, equal, _, shown, _⟩ := total_of_soleTop negativeZeros {} sole
  have number : isNaN (o.result 1) = false := by decide +kernel
  exact ⟨sole, by decide +kernel, by decide +kernel, equal.resolve_right (by simp [o, number]), shown {}⟩

end OutlineCalc.Document
