import OutlineCalc.Proofs.WrittenNumber

/-!
Decimal digits as a reader knows them: a whole number without leading zeros, commas between groups of three that
are counted from the right, and a fraction without the zeros that it would end in. There is one way to write each
of them, and it is the one in which numbers are shown.
-/

namespace OutlineCalc.Amount

open Letter (isDigit)
open Numeral (digitsValue digitsValue_append digitsValue_zeros digitsValue_digitChar digitsValue_toDigits)

/-! ## Whole numbers -/

/-- Whether digits are those of a whole number, without leading zeros. -/
structure Decimal (digits : List Char) (n : ℕ) : Prop where
  nonempty : digits ≠ []
  digit : ∀ c ∈ digits, isDigit c = true
  value : digitsValue digits = n
  leading : digits.head? = some '0' → digits = ['0']

/-- A number other than zero does not start with one. -/
theorem head?_toDigits {n : ℕ} (pos : 0 < n) : (Nat.toDigits 10 n).head? ≠ some '0' := by
  induction n using Nat.strong_induction_on with
  | _ n ih =>
    by_cases small : n < 10
    · rw [Nat.toDigits_of_lt_base small]
      interval_cases n <;> decide
    · have large : 10 ≤ n := Nat.le_of_not_lt small
      have fewer := ih (n / 10) (Nat.div_lt_self pos (by decide)) (Nat.div_pos large (by decide))
      rwa [Nat.toDigits_of_base_le (by decide) large, List.head?_append_of_ne_nil _ Nat.toDigits_ne_nil]

theorem exists_digitChar {c : Char} (digit : isDigit c = true) : ∃ d < 10, c = Nat.digitChar d := by
  obtain ⟨low, high⟩ := of_decide_eq_true digit
  have least : '0'.toNat ≤ c.toNat := Char.le_def.mp low
  have most : c.toNat ≤ '9'.toNat := Char.le_def.mp high
  have below : c.toNat - '0'.toNat < 10 := by
    have range : '9'.toNat < '0'.toNat + 10 := by decide
    omega
  refine ⟨c.toNat - '0'.toNat, below, ?_⟩
  apply Char.toNat_inj.mp
  rw [Nat.toNat_digitChar_of_lt_ten below]
  change '0'.toNat ≤ c.toNat at least
  have zero : '0'.toNat = 48 := rfl
  omega

/-- As many digits that stand for the same number are the same digits. -/
theorem eq_of_digitsValue {left right : List Char} (digit : ∀ c ∈ left, isDigit c = true)
    (digit' : ∀ c ∈ right, isDigit c = true) (length : left.length = right.length)
    (value : digitsValue left = digitsValue right) : left = right := by
  induction left using List.reverseRecOn generalizing right with
  | nil => exact (List.length_eq_zero_iff.mp length.symm).symm
  | append_singleton front c ih =>
    rcases List.eq_nil_or_concat right with rfl | ⟨front', c', rfl⟩
    · simp at length
    · rw [List.concat_eq_append] at digit' length value ⊢
      obtain ⟨d, below, rfl⟩ := exists_digitChar (digit c (by simp))
      obtain ⟨d', below', rfl⟩ := exists_digitChar (digit' c' (by simp))
      simp only [digitsValue_append, digitsValue_digitChar below, digitsValue_digitChar below', List.length_singleton] at value
      have same : d = d' := by omega
      have fronts : front = front' := by
        apply ih
        · exact fun c mem => digit c (List.mem_append_left _ mem)
        · exact fun c mem => digit' c (List.mem_append_left _ mem)
        · simpa using length
        · omega
      rw [same, fronts]

theorem decimal_wholeDigits (n : ℕ) : Decimal (wholeDigits n) n where
  nonempty := Nat.toDigits_ne_nil
  digit := isDigit_wholeDigits n
  value := digitsValue_toDigits n
  leading := by
    intro zero
    rcases Nat.eq_zero_or_pos n with rfl | pos
    · rfl
    · exact absurd zero (head?_toDigits pos)

/-- A whole number is written in one way only. -/
theorem Decimal.eq_wholeDigits {digits : List Char} {n : ℕ} (decimal : Decimal digits n) : digits = wholeDigits n := by
  induction digits using List.reverseRecOn generalizing n with
  | nil => exact absurd rfl decimal.nonempty
  | append_singleton front c ih =>
    obtain ⟨d, below, rfl⟩ := exists_digitChar (decimal.digit c (by simp))
    have value := decimal.value
    rw [digitsValue_append, digitsValue_digitChar below, List.length_singleton, pow_one] at value
    rw [wholeDigits, ← value]
    by_cases alone : front = []
    · subst alone
      have none : digitsValue [] = 0 := rfl
      rw [none, Nat.mul_zero, Nat.zero_add, Nat.toDigits_of_lt_base below, List.nil_append]
    · have leading : front.head? ≠ some '0' := by
        intro zero
        have single := congrArg List.length (decimal.leading (by rwa [List.head?_append_of_ne_nil _ alone]))
        exact alone (by simpa using single)
      have shorter : front = wholeDigits (digitsValue front) := ih
        { nonempty := alone
          digit := fun c mem => decimal.digit c (List.mem_append_left _ mem)
          value := rfl
          leading := fun zero => absurd zero leading }
      have positive : 0 < digitsValue front := by
        apply Nat.pos_of_ne_zero
        intro zero
        rw [zero] at shorter
        exact leading (by rw [shorter]; rfl)
      rw [← Nat.toDigits_append_toDigits (by decide) positive below, Nat.toDigits_of_lt_base below]
      exact congrArg (· ++ [Nat.digitChar d]) shorter

/-! ## Groups -/

/-- `Grouped group digits written`: digits on their own, or with commas between groups of three that are
counted from the right. -/
inductive Grouped : Bool → List Char → List Char → Prop
  | plain {digits : List Char} : Grouped false digits digits
  | first {digits : List Char} (nonempty : digits ≠ []) (few : digits.length ≤ 3) : Grouped true digits digits
  | next {digits written three : List Char} (before : Grouped true digits written) (length : three.length = 3) :
      Grouped true (digits ++ three) (written ++ ',' :: three)

namespace Grouped

variable {group : Bool} {digits written : List Char} (grouping : Grouped group digits written)

include grouping

theorem mem {c : Char} (mem : c ∈ written) : c ∈ digits ∨ c = ',' := by
  induction grouping with
  | plain => exact .inl mem
  | first => exact .inl mem
  | next before length ih =>
    rw [List.mem_append, List.mem_cons] at mem
    rcases mem with front | rfl | back
    · exact (ih front).imp_left (List.mem_append_left _)
    · exact .inr rfl
    · exact .inl (List.mem_append_right _ back)

/-- Nothing but commas is put between digits. -/
theorem filter_isDigit (digit : ∀ c ∈ digits, isDigit c = true) : written.filter isDigit = digits := by
  induction grouping with
  | plain => exact List.filter_eq_self.mpr digit
  | first => exact List.filter_eq_self.mpr digit
  | next before length ih =>
    have front := ih fun c mem => digit c (List.mem_append_left _ mem)
    have back := List.filter_eq_self.mpr fun c mem => digit c (List.mem_append_right _ mem)
    have comma : ¬isDigit ',' = true := by decide
    rw [List.filter_append, List.filter_cons_of_neg comma, front, back]

theorem getLast?_eq : written.getLast? = digits.getLast? := by
  cases grouping with
  | plain => rfl
  | first => rfl
  | @next digits written three before length =>
    have some : three ≠ [] := by
      rintro rfl
      contradiction
    rw [List.getLast?_append_of_ne_nil _ (List.cons_ne_nil ',' three), List.getLast?_append_of_ne_nil _ some,
      List.getLast?_cons_of_ne_nil some]

end Grouped

theorem grouped_of_few {digits : List Char} (few : digits.length ≤ 3) : grouped digits = digits := by
  match digits, few with
  | [], _ => rfl
  | [_], _ => rfl
  | [_, _], _ => rfl
  | [_, _, _], _ => rfl

theorem grouped_cons (c : Char) {cs : List Char} (more : cs ≠ []) :
    grouped (c :: cs) = if cs.length % 3 = 0 then c :: ',' :: grouped cs else c :: grouped cs := by
  rw [grouped]
  simp [more]

/-- Three more digits make one more group. -/
theorem grouped_append {digits group : List Char} (nonempty : digits ≠ []) (three : group.length = 3) :
    grouped (digits ++ group) = grouped digits ++ ',' :: group := by
  have alone : grouped group = group := grouped_of_few (Nat.le_of_eq three)
  have some : group ≠ [] := by
    rintro rfl
    contradiction
  induction digits with
  | nil => contradiction
  | cons c cs ih =>
    cases cs with
    | nil => simp [grouped, three, some, alone]
    | cons d ds =>
      have rest := ih (List.cons_ne_nil d ds)
      have length : (d :: ds ++ group).length % 3 = (d :: ds).length % 3 := by
        rw [List.length_append, three, Nat.add_mod_right]
      rw [List.cons_append, grouped_cons c (by simp), grouped_cons c (by simp), length, rest]
      split <;> rfl

/-- Digits are put in groups from the right. -/
theorem grouped_grouped {digits : List Char} (nonempty : digits ≠ []) : Grouped true digits (grouped digits) := by
  induction length : digits.length using Nat.strong_induction_on generalizing digits with
  | _ n ih =>
    by_cases few : digits.length ≤ 3
    · rw [grouped_of_few few]
      exact .first nonempty few
    · have split : digits.take (n - 3) ++ digits.drop (n - 3) = digits := List.take_append_drop _ _
      have three : (digits.drop (n - 3)).length = 3 := by
        rw [List.length_drop]
        omega
      have front : (digits.take (n - 3)).length = n - 3 := by
        rw [List.length_take]
        omega
      have more : digits.take (n - 3) ≠ [] := List.ne_nil_of_length_pos (by omega)
      have before := ih (n - 3) (by omega) more front
      rw [← split, grouped_append more three]
      exact .next before three

theorem Grouped.nonempty {digits written : List Char} (grouping : Grouped true digits written) : digits ≠ [] := by
  cases grouping with
  | first nonempty few => exact nonempty
  | next before length => exact List.append_ne_nil_of_right_ne_nil _ (List.ne_nil_of_length_pos (by omega))

theorem Grouped.eq_grouped {digits written : List Char} (grouping : Grouped true digits written) : written = grouped digits := by
  generalize flag : true = group at grouping
  induction grouping with
  | plain => contradiction
  | first nonempty few => rw [grouped_of_few few]
  | next before length ih => rw [grouped_append before.nonempty length, ih rfl]

/-! ## Fractions -/

/-- Whether digits are those of `n` units of the last of some decimal places, without the zeros they end in. -/
structure Fraction (places : ℕ) (digits : List Char) (n : ℕ) : Prop where
  digit : ∀ c ∈ digits, isDigit c = true
  length : digits.length ≤ places
  value : digitsValue (digits ++ List.replicate (places - digits.length) '0') = n
  trailing : digits.getLast? ≠ some '0'

theorem getLast?_dropZeros (cs : List Char) : (dropZeros cs).getLast? ≠ some '0' := by
  rw [dropZeros, List.getLast?_reverse]
  intro zero
  have stops := List.head?_dropWhile_not (· == '0') cs.reverse
  rw [zero] at stops
  contradiction

theorem fraction_dropZeros {places n : ℕ} (below : n < 10 ^ places) : Fraction places (dropZeros (placeDigits places n)) n := by
  obtain ⟨count, split⟩ := exists_dropZeros (placeDigits places n)
  have length := congrArg List.length split
  rw [length_placeDigits, List.length_append, List.length_replicate] at length
  have dropped : places - (dropZeros (placeDigits places n)).length = count := by omega
  constructor
  · intro c mem
    refine isDigit_placeDigits places n c ?_
    rw [split]
    exact List.mem_append_left _ mem
  · omega
  · rw [dropped, ← split]
    exact digitsValue_placeDigits below
  · exact getLast?_dropZeros _

theorem dropZeros_append {cs : List Char} (trailing : cs.getLast? ≠ some '0') (count : ℕ) :
    dropZeros (cs ++ List.replicate count '0') = cs := by
  have zeros : ∀ c ∈ List.replicate count '0', (c == '0') = true := by
    intro c mem
    rw [List.eq_of_mem_replicate mem]
    rfl
  rw [dropZeros, List.reverse_append, List.reverse_replicate, List.dropWhile_append_of_pos zeros]
  rcases List.eq_nil_or_concat cs with rfl | ⟨front, c, rfl⟩
  · rfl
  · have other : c ≠ '0' := by simpa using trailing
    simp [other]

/-- A fraction is written in one way only. -/
theorem Fraction.eq_dropZeros {places n : ℕ} {digits : List Char} (below : n < 10 ^ places)
    (fraction : Fraction places digits n) : digits = dropZeros (placeDigits places n) := by
  have all : digits ++ List.replicate (places - digits.length) '0' = placeDigits places n := by
    apply eq_of_digitsValue
    · intro c mem
      rcases List.mem_append.mp mem with mem | mem
      · exact fraction.digit c mem
      · rw [List.eq_of_mem_replicate mem]
        rfl
    · exact isDigit_placeDigits places n
    · rw [List.length_append, List.length_replicate, length_placeDigits]
      have fits := fraction.length
      omega
    · rw [fraction.value, digitsValue_placeDigits below]
  rw [← all, dropZeros_append fraction.trailing]

/-- There is a fraction unless it is zero. -/
theorem Fraction.eq_nil_iff {places n : ℕ} {digits : List Char} (fraction : Fraction places digits n) : digits = [] ↔ n = 0 := by
  have value := fraction.value
  rw [digitsValue_append, digitsValue_zeros, Nat.add_zero, List.length_replicate] at value
  constructor
  · rintro rfl
    rw [← value]
    rfl
  · intro none
    have zero : digitsValue digits = 0 := by
      rw [none, Nat.mul_eq_zero] at value
      exact value.resolve_left (Nat.pow_pos (by decide)).ne'
    rcases List.eq_nil_or_concat digits with empty | ⟨front, c, rfl⟩
    · exact empty
    · rw [List.concat_eq_append] at *
      obtain ⟨d, below, rfl⟩ := exists_digitChar (fraction.digit c (by simp))
      rw [digitsValue_append, digitsValue_digitChar below] at zero
      -- then the last digit is a zero
      have last : d = 0 := by omega
      have trailing := fraction.trailing
      simp [last] at trailing

end OutlineCalc.Amount
