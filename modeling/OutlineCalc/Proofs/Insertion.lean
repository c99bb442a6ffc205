import OutlineCalc.Outline

/-!
What putting a line into an outline changes. The places above a line only depend on where it was
put, so later lines leave them as they are; the new line adds its value to the results of exactly
the lines above it.
-/

namespace OutlineCalc.Outline

/-- Whether every line but the first stands directly below an earlier one. -/
structure Rooted (o : Outline) : Prop where
  nonempty : 0 < o.lines.size
  root : o.parent? 0 = none
  below : ∀ i, 0 < i → i < o.lines.size → ∃ p, o.parent? i = some p ∧ p < i

variable {o : Outline}

/-- Induction from the root down: what holds of the first line, and of a line when it holds of its
parent, holds of all lines. -/
theorem Rooted.induct {motive : ∀ i, i < o.lines.size → Prop} (rooted : o.Rooted) (first : motive 0 rooted.nonempty)
    (step : ∀ i p inside (_parent : o.parent? i = some p) (before : p < i), motive p (Nat.lt_trans before inside) →
      motive i inside) {i : Nat} (inside : i < o.lines.size) : motive i inside := by
  induction i using Nat.strongRecOn with
  | ind i ih =>
    by_cases start : i = 0
    · subst start
      exact first
    · obtain ⟨p, parent, before⟩ := rooted.below i (by omega) inside
      exact step i p inside parent before (ih p before (by omega))

/-! ## The places above a line -/

private theorem ancestorsWithin_congr (rooted : o.Rooted) {i : Nat} (inside : i < o.lines.size) :
    ∀ m n, i ≤ m → i ≤ n → o.ancestorsWithin m i = o.ancestorsWithin n i := by
  induction inside using rooted.induct with
  | first =>
    intro m n _ _
    cases m <;> cases n <;> simp [ancestorsWithin, rooted.root]
  | step i p _ parent before ih =>
    intro m n enough enough'
    obtain ⟨m, rfl⟩ : ∃ m', m = m' + 1 := ⟨m - 1, by omega⟩
    obtain ⟨n, rfl⟩ : ∃ n', n = n' + 1 := ⟨n - 1, by omega⟩
    simp only [ancestorsWithin, parent]
    rw [ih m n (by omega) (by omega)]

theorem ancestors_zero (rooted : o.Rooted) : o.ancestors 0 = [] := by
  rw [ancestors, ancestorsWithin_congr rooted rooted.nonempty _ 0 (Nat.zero_le _) (Nat.le_refl 0)]
  rfl

/-- Above a line stand its parent and what stands above that. -/
theorem ancestors_eq_cons (rooted : o.Rooted) {i p : Nat} (inside : i < o.lines.size) (parent : o.parent? i = some p)
    (before : p < i) : o.ancestors i = p :: o.ancestors p := by
  obtain ⟨count, size⟩ : ∃ count, o.lines.size = count + 1 := ⟨o.lines.size - 1, by omega⟩
  rw [ancestors, size, ancestorsWithin, parent]
  simp only
  rw [ancestors, ancestorsWithin_congr rooted (by omega) count o.lines.size (by omega) (by omega)]

theorem lt_of_mem_ancestors (rooted : o.Rooted) {i : Nat} (inside : i < o.lines.size) : ∀ j ∈ o.ancestors i, j < i := by
  induction inside using rooted.induct with
  | first => simp [ancestors_zero rooted]
  | step i p inside parent before ih =>
    intro j above
    rw [ancestors_eq_cons rooted inside parent before, List.mem_cons] at above
    rcases above with rfl | above
    · exact before
    · exact Nat.lt_trans (ih j above) before

theorem le_of_mem_cons_ancestors (rooted : o.Rooted) {i j : Nat} (inside : i < o.lines.size)
    (mem : j ∈ i :: o.ancestors i) : j ≤ i := by
  rcases List.mem_cons.mp mem with rfl | above
  · exact Nat.le_refl j
  · exact Nat.le_of_lt (lt_of_mem_ancestors rooted inside j above)

/-- Going up from a line comes to ever earlier lines. -/
theorem descending_cons_ancestors (rooted : o.Rooted) {i : Nat} (inside : i < o.lines.size) :
    (i :: o.ancestors i).Pairwise (· > ·) := by
  induction inside using rooted.induct with
  | first => simp [ancestors_zero rooted]
  | step i p inside parent before ih =>
    rw [ancestors_eq_cons rooted inside parent before, List.pairwise_cons]
    refine ⟨fun j mem => ?_, ih⟩
    have := le_of_mem_cons_ancestors rooted (by omega) mem
    omega

/-- Going up from a line comes to no line twice. -/
theorem nodup_cons_ancestors (rooted : o.Rooted) {i : Nat} (inside : i < o.lines.size) : (i :: o.ancestors i).Nodup :=
  (descending_cons_ancestors rooted inside).imp Nat.ne_of_gt

/-- Going up from any line ends at the root. -/
theorem getLast?_cons_ancestors (rooted : o.Rooted) {i : Nat} (inside : i < o.lines.size) :
    (i :: o.ancestors i).getLast? = some 0 := by
  induction inside using rooted.induct with
  | first => rw [ancestors_zero rooted, List.getLast?_singleton]
  | step i p inside parent before ih => rw [ancestors_eq_cons rooted inside parent before, List.getLast?_cons_cons, ih]

theorem mem_ancestors_trans (rooted : o.Rooted) {i j k : Nat} (inside : i < o.lines.size) (above : j ∈ o.ancestors i)
    (higher : k ∈ o.ancestors j) : k ∈ o.ancestors i := by
  induction inside using rooted.induct with
  | first => simp [ancestors_zero rooted] at above
  | step i p inside parent before ih =>
    rw [ancestors_eq_cons rooted inside parent before, List.mem_cons] at above ⊢
    rcases above with rfl | above
    · exact .inr higher
    · exact .inr (ih above)

/-- Of two lines on the way up from a line the earlier one stands above the later one. -/
theorem mem_ancestors_of_lt (rooted : o.Rooted) {i j k : Nat} (inside : i < o.lines.size)
    (later : j ∈ i :: o.ancestors i) (earlier : k ∈ i :: o.ancestors i) (before : k < j) : k ∈ o.ancestors j := by
  induction inside using rooted.induct with
  | first =>
    simp only [ancestors_zero rooted, List.mem_singleton] at later
    omega
  | step i p inside parent above ih =>
    rcases List.mem_cons.mp earlier with rfl | higher
    · have := le_of_mem_cons_ancestors rooted inside later
      omega
    · rcases List.mem_cons.mp later with rfl | later
      · exact higher
      · rw [ancestors_eq_cons rooted inside parent above] at later higher
        exact ih later higher

theorem isGrounded_of_rooted (rooted : o.Rooted) {i : Nat} (inside : i < o.lines.size) : o.isGrounded i = true := by
  simp only [isGrounded, List.all_eq_true, decide_eq_true_eq]
  intro j above
  exact Nat.lt_trans (lt_of_mem_ancestors rooted inside j above) inside

/-- Whether `more` has the lines of `o` where they were, and behind them one that stands below the
line at `parent`. -/
private structure Grown (o more : Outline) (parent : Nat) : Prop where
  valid : parent < o.lines.size
  size : more.lines.size = o.lines.size + 1
  parents : ∀ i, more.parent? i = if i = o.lines.size then some parent else o.parent? i

section
variable {more : Outline} {parent : Nat}

private theorem Grown.rooted (grown : Grown o more parent) (rooted : o.Rooted) : more.Rooted := by
  have nonempty := rooted.nonempty
  have size := grown.size
  refine ⟨by omega, ?_, fun i later inside => ?_⟩
  · rw [grown.parents, if_neg (by omega), rooted.root]
  · by_cases new : i = o.lines.size
    · refine ⟨parent, by rw [grown.parents, if_pos new], ?_⟩
      rw [new]
      exact grown.valid
    · rw [grown.parents, if_neg new]
      exact rooted.below i later (by omega)

private theorem Grown.ancestors_of_lt (grown : Grown o more parent) (rooted : o.Rooted) {i : Nat}
    (inside : i < o.lines.size) : more.ancestors i = o.ancestors i := by
  have size := grown.size
  induction inside using rooted.induct with
  | first => rw [ancestors_zero rooted, ancestors_zero (grown.rooted rooted)]
  | step i p inside above before ih =>
    have above' : more.parent? i = some p := by rw [grown.parents, if_neg (Nat.ne_of_lt inside), above]
    rw [ancestors_eq_cons rooted inside above before,
      ancestors_eq_cons (grown.rooted rooted) (by omega) above' before, ih]

private theorem Grown.ancestors_self (grown : Grown o more parent) (rooted : o.Rooted) :
    more.ancestors o.lines.size = parent :: o.ancestors parent := by
  have above : more.parent? o.lines.size = some parent := by rw [grown.parents, if_pos rfl]
  rw [ancestors_eq_cons (grown.rooted rooted) (by rw [grown.size]; omega) above grown.valid,
    grown.ancestors_of_lt rooted grown.valid]

end

/-! ## Putting in a line -/

/-- The outline with a line below another, before any result is changed. -/
private def hung (o : Outline) (line : Line) (parent : Nat) : Outline :=
  (Outline.mk (o.lines.push { line with parent := some parent })).modify parent fun above =>
    { above with children := above.children ++ [o.lines.size] }

private theorem getElem?_hung (line : Line) {parent : Nat} (valid : parent < o.lines.size) (i : Nat) :
    (o.hung line parent).lines[i]? =
      if i = o.lines.size then some { line with parent := some parent }
      else o.lines[i]?.map fun above =>
        { above with children := if i = parent then above.children ++ [o.lines.size] else above.children } := by
  simp only [hung, modify, Array.getElem?_modify, Array.getElem?_push]
  by_cases new : i = o.lines.size
  · simp [new, Nat.ne_of_lt valid]
  · by_cases above : i = parent
    · simp [above, Nat.ne_of_lt valid]
    · simp [new, above, Ne.symm above]

private theorem getElem?_foldl_modify (f : Line → Line) {places : List Nat} (distinct : places.Nodup) (o : Outline)
    (i : Nat) : (places.foldl (fun o i => o.modify i f) o).lines[i]? =
      if i ∈ places then o.lines[i]?.map f else o.lines[i]? := by
  induction places generalizing o with
  | nil => simp
  | cons place places ih =>
    obtain ⟨fresh, distinct⟩ := List.nodup_cons.mp distinct
    rw [List.foldl_cons, ih distinct, modify, Array.getElem?_modify]
    by_cases here : place = i
    · subst here
      simp [fresh]
    · simp [here, Ne.symm here]

private theorem grown_hung (line : Line) {parent : Nat} (valid : parent < o.lines.size) :
    Grown o (o.hung line parent) parent := by
  refine ⟨valid, by simp [hung], fun i => ?_⟩
  rw [parent?, getElem?_hung line valid]
  by_cases new : i = o.lines.size
  · simp [new]
  · cases above : o.lines[i]? <;> simp [parent?, new, above]

private theorem insert_eq (rooted : o.Rooted) (line : Line) {parent : Nat} (valid : parent < o.lines.size) :
    o.insert line parent =
      ((parent :: o.ancestors parent).foldl
        (fun o i => o.modify i fun above => { above with result := above.result + line.value })
        (o.hung line parent)).modify parent fun above => { above with marked := line.marked } := by
  have grown := grown_hung line valid
  have grounded := isGrounded_of_rooted (grown.rooted rooted) (by rw [grown.size]; omega : o.lines.size < _)
  rw [← grown.ancestors_self rooted]
  exact if_pos grounded

/-- The lines after a line was put in: it stands at the end, and of the lines before it only its
parent gets a child and its currency mark, and only the lines above it get its value. -/
theorem getElem?_insert (rooted : o.Rooted) (line : Line) {parent : Nat} (valid : parent < o.lines.size) (i : Nat) :
    (o.insert line parent).lines[i]? =
      if i = o.lines.size then some { line with parent := some parent }
      else o.lines[i]?.map fun above =>
        { above with
          children := if i = parent then above.children ++ [o.lines.size] else above.children
          result := if i ∈ parent :: o.ancestors parent then above.result + line.value else above.result
          marked := if i = parent then line.marked else above.marked } := by
  rw [insert_eq rooted line valid, modify, Array.getElem?_modify, getElem?_foldl_modify _ (nodup_cons_ancestors rooted valid),
    getElem?_hung line valid]
  by_cases new : i = o.lines.size
  · have notAbove : i ∉ parent :: o.ancestors parent := by
      intro above
      have := le_of_mem_cons_ancestors rooted valid above
      omega
    rw [if_neg notAbove, if_pos new, if_pos new, if_neg (by omega)]
  · rw [if_neg new, if_neg new]
    cases here : o.lines[i]? with
    | none => simp
    | some above =>
      by_cases same : i = parent
      · simp [same]
      · by_cases higher : i ∈ o.ancestors parent <;> simp [same, Ne.symm same, higher]

private theorem grown_insert (rooted : o.Rooted) (line : Line) {parent : Nat} (valid : parent < o.lines.size) :
    Grown o (o.insert line parent) parent := by
  refine ⟨valid, size_insert o line parent, fun i => ?_⟩
  rw [parent?, getElem?_insert rooted line valid]
  by_cases new : i = o.lines.size
  · simp [new]
  · cases above : o.lines[i]? <;> simp [parent?, new, above]

theorem parent?_insert (rooted : o.Rooted) (line : Line) {parent : Nat} (valid : parent < o.lines.size) (i : Nat) :
    (o.insert line parent).parent? i = if i = o.lines.size then some parent else o.parent? i :=
  (grown_insert rooted line valid).parents i

theorem rooted_empty : empty.Rooted := by
  refine ⟨by decide, rfl, fun i later inside => ?_⟩
  have : empty.lines.size = 1 := rfl
  omega

theorem rooted_insert (rooted : o.Rooted) (line : Line) {parent : Nat} (valid : parent < o.lines.size) :
    (o.insert line parent).Rooted :=
  (grown_insert rooted line valid).rooted rooted

/-- What stands above a line stays as it is when another is put in. -/
theorem ancestors_insert_of_lt (rooted : o.Rooted) (line : Line) {parent i : Nat} (valid : parent < o.lines.size)
    (inside : i < o.lines.size) : (o.insert line parent).ancestors i = o.ancestors i :=
  (grown_insert rooted line valid).ancestors_of_lt rooted inside

/-- Above the line that was put in stand the line it was put below and what stands above that. -/
theorem ancestors_insert_self (rooted : o.Rooted) (line : Line) {parent : Nat} (valid : parent < o.lines.size) :
    (o.insert line parent).ancestors o.lines.size = parent :: o.ancestors parent :=
  (grown_insert rooted line valid).ancestors_self rooted

end OutlineCalc.Outline
