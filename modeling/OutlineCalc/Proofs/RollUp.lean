import OutlineCalc.Proofs.Indentation

/-!
What the results of an outline add up to. Lines are put in one by one and each adds its value to
what stands above it, so a result is what its line started with and then the values of the lines
below, in the order they were put in. In the outline of a document these are the lines that follow
without a break and are indented deeper, and a result is their sum from the first to the last.
-/

namespace OutlineCalc.Outline

variable {o : Outline}

/-- The value of the line at a place. -/
def value (o : Outline) (i : Nat) : Float := (o.lines[i]?.map (·.value)).getD 0

/-- The result of the line at a place. -/
def result (o : Outline) (i : Nat) : Float := (o.lines[i]?.map (·.result)).getD 0

/-- The places of the lines below a line, in the order they were put in. -/
def below (o : Outline) (i : Nat) : List Nat := (List.range o.lines.size).filter fun j => i ∈ o.ancestors j

/-- Whether every result is what its line started with and then the values of the lines below it. -/
structure RolledUp (o : Outline) (starts : List Float) : Prop where
  length : starts.length = o.lines.size
  sum : ∀ i start, starts[i]? = some start → o.result i = ((o.below i).map o.value).foldl (· + ·) start

/-! ## One line after the other -/

theorem value_insert (rooted : o.Rooted) (line : Line) {parent : Nat} (valid : parent < o.lines.size) (i : Nat) :
    (o.insert line parent).value i = if i = o.lines.size then line.value else o.value i := by
  rw [value, getElem?_map_insert _ (fun _ => rfl) rooted line valid]
  by_cases new : i = o.lines.size <;> simp [value, new]

theorem result_insert_self (rooted : o.Rooted) (line : Line) {parent : Nat} (valid : parent < o.lines.size) :
    (o.insert line parent).result o.lines.size = line.result := by
  simp [result, getElem?_insert rooted line valid]

/-- A value is added to what stands above its line, and to no other result. -/
theorem result_insert_of_lt (rooted : o.Rooted) (line : Line) {parent i : Nat} (valid : parent < o.lines.size)
    (inside : i < o.lines.size) : (o.insert line parent).result i =
      if i ∈ parent :: o.ancestors parent then o.result i + line.value else o.result i := by
  rw [result, getElem?_insert rooted line valid, if_neg (Nat.ne_of_lt inside)]
  by_cases above : i ∈ parent :: o.ancestors parent <;> simp [result, inside, above]

theorem lt_of_mem_below (rooted : o.Rooted) {i j : Nat} (mem : j ∈ o.below i) : i < j ∧ j < o.lines.size := by
  obtain ⟨inside, above⟩ := List.mem_filter.mp mem
  have inside := List.mem_range.mp inside
  exact ⟨lt_of_mem_ancestors rooted inside i (of_decide_eq_true above), inside⟩

/-- The line that was put in comes last of the lines below those above it. -/
theorem below_insert (rooted : o.Rooted) (line : Line) {parent : Nat} (valid : parent < o.lines.size) (i : Nat) :
    (o.insert line parent).below i =
      if i ∈ parent :: o.ancestors parent then o.below i ++ [o.lines.size] else o.below i := by
  have same : (List.range o.lines.size).filter (fun j => i ∈ (o.insert line parent).ancestors j) = o.below i := by
    refine List.filter_congr fun j mem => ?_
    rw [ancestors_insert_of_lt rooted line valid (List.mem_range.mp mem)]
  rw [below, size_insert, List.range_succ, List.filter_append, same]
  by_cases above : i ∈ parent :: o.ancestors parent <;>
    simp only [List.filter_cons, ancestors_insert_self rooted line valid, above] <;> simp

/-- Putting in a line keeps the results rolled up, where the line starts with its own result. -/
theorem rolledUp_insert {starts : List Float} (rooted : o.Rooted) (rolled : o.RolledUp starts) (line : Line) {parent : Nat}
    (valid : parent < o.lines.size) : (o.insert line parent).RolledUp (starts ++ [line.result]) := by
  refine ⟨by simp [size_insert, rolled.length], fun i start here => ?_⟩
  have values : (o.below i).map (o.insert line parent).value = (o.below i).map o.value := by
    refine List.map_congr_left fun j mem => ?_
    rw [value_insert rooted line valid, if_neg (Nat.ne_of_lt (lt_of_mem_below rooted mem).2)]
  by_cases inside : i < o.lines.size
  · rw [List.getElem?_append_left (by rw [rolled.length]; exact inside)] at here
    rw [result_insert_of_lt rooted line valid inside, below_insert rooted line valid]
    by_cases above : i ∈ parent :: o.ancestors parent
    · rw [if_pos above, if_pos above, List.map_append, values, List.foldl_append, ← rolled.sum i start here]
      simp [value_insert rooted line valid]
    · rw [if_neg above, if_neg above, values, rolled.sum i start here]
  · obtain rfl : i = o.lines.size := by
      have := (List.getElem?_eq_some_iff.mp here).1
      simp [rolled.length] at this
      omega
    -- Nothing stands below the new line.
    have empty : o.below o.lines.size = [] := by
      refine List.eq_nil_iff_forall_not_mem.mpr fun j mem => ?_
      have := lt_of_mem_below rooted mem
      omega
    have notAbove : o.lines.size ∉ parent :: o.ancestors parent := by
      intro above
      have := le_of_mem_cons_ancestors rooted valid above
      omega
    rw [result_insert_self rooted line valid, below_insert rooted line valid, if_neg notAbove, empty]
    simpa [← rolled.length] using here

theorem rolledUp_empty : empty.RolledUp [0] := by
  refine ⟨rfl, fun i start here => ?_⟩
  obtain ⟨first, rfl⟩ : i = 0 ∧ start = 0 := by
    cases i <;> simp_all
  subst first
  rfl

theorem rolledUp_foldl_put {starts : List Float} (rooted : o.Rooted) (rolled : o.RolledUp starts) (lines : List Line) :
    (lines.foldl put o).RolledUp (starts ++ lines.map (·.result)) := by
  induction lines generalizing o starts with
  | nil => simpa using rolled
  | cons line lines ih =>
    have next := ih (rooted_put rooted line) (rolledUp_insert rooted rolled line (findParent_lt rooted line.indent))
    rwa [List.append_assoc] at next

/-! ## Lines below one another by their indents -/

/-- One line stands below another just when everything after the other, up to the line itself, is
indented deeper than the other. -/
theorem mem_ancestors_iff (nested : o.Nested) {i j : Nat} (inside : j < o.lines.size) :
    i ∈ o.ancestors j ↔ i < j ∧ ∀ k, i < k → k ≤ j → o.indent i < o.indent k := by
  induction inside using nested.rooted.induct with
  | first => simp [ancestors_zero nested.rooted]
  | step j p inside parent before ih =>
    have nearest := nested.nearest j p inside parent
    rw [ancestors_eq_cons nested.rooted inside parent before, List.mem_cons, ih]
    -- What lies between the parent and the line is not indented less than the line.
    have between : ∀ k, p < k → k ≤ j → o.indent j ≤ o.indent k := by
      intro k later upTo
      refine Int.not_lt.mp fun left => ?_
      rcases Nat.lt_or_eq_of_le upTo with earlier | rfl
      · have := nearest.last k earlier left
        omega
      · omega
    have less := nearest.less
    constructor
    · rintro (rfl | ⟨earlier, deeper⟩)
      · refine ⟨before, fun k later upTo => ?_⟩
        have := between k later upTo
        omega
      · refine ⟨by omega, fun k later upTo => ?_⟩
        by_cases within : k ≤ p
        · exact deeper k later within
        · have := deeper p earlier (Nat.le_refl p)
          have := between k (by omega) upTo
          omega
    · rintro ⟨earlier, deeper⟩
      have := nearest.last i earlier (deeper j earlier (Nat.le_refl j))
      by_cases same : i = p
      · exact .inl same
      · exact .inr ⟨by omega, fun k later upTo => deeper k later (by omega)⟩

/-- `last` is the first place after `i` where no line is indented deeper than the one at `i`. -/
structure BlockEnd (o : Outline) (i last : Nat) : Prop where
  after : i < last
  ended : last < o.lines.size → o.indent last ≤ o.indent i
  first : ∀ j, i < j → (j < o.lines.size → o.indent j ≤ o.indent i) → last ≤ j

private theorem blockEnd_of_deeper {i last : Nat} (after : i < last)
    (ended : last < o.lines.size → o.indent last ≤ o.indent i)
    (deeper : ∀ k, i < k → k < last → k < o.lines.size ∧ o.indent i < o.indent k) : o.BlockEnd i last := by
  refine ⟨after, ended, fun k later notDeeper => Nat.le_of_not_lt fun earlier => ?_⟩
  obtain ⟨inside, left⟩ := deeper k later earlier
  have := notDeeper inside
  omega

theorem exists_blockEnd (o : Outline) (i : Nat) : ∃ last, o.BlockEnd i last := by
  -- Places are tried one after the other, the latest behind the last line.
  suffices search : ∀ count j, o.lines.size - j = count → i < j →
      (∀ k, i < k → k < j → k < o.lines.size ∧ o.indent i < o.indent k) → ∃ last, o.BlockEnd i last from
    search _ (i + 1) rfl (Nat.lt_succ_self i) fun k later earlier => by omega
  intro count
  induction count with
  | zero => exact fun j left after passed => ⟨j, blockEnd_of_deeper after (by omega) passed⟩
  | succ count ih =>
    intro j left after passed
    by_cases deeper : o.indent i < o.indent j
    · refine ih (j + 1) (by omega) (by omega) fun k later earlier => ?_
      by_cases here : k = j
      · subst here
        exact ⟨by omega, deeper⟩
      · exact passed k later (by omega)
    · exact ⟨j, blockEnd_of_deeper after (fun _ => Int.not_lt.mp deeper) passed⟩

theorem BlockEnd.deeper {i last k : Nat} (block : o.BlockEnd i last) (later : i < k) (earlier : k < last) :
    k < o.lines.size ∧ o.indent i < o.indent k := by
  refine Classical.byContradiction fun outside => ?_
  have := block.first k later fun inside => Int.not_lt.mp fun deeper => outside ⟨inside, deeper⟩
  omega

theorem BlockEnd.le_size {i last : Nat} (block : o.BlockEnd i last) (inside : i < o.lines.size) : last ≤ o.lines.size :=
  block.first o.lines.size inside fun outside => absurd outside (Nat.lt_irrefl _)

theorem mem_ancestors_iff_lt (nested : o.Nested) {i j last : Nat} (inside : j < o.lines.size)
    (block : o.BlockEnd i last) : i ∈ o.ancestors j ↔ i < j ∧ j < last := by
  rw [mem_ancestors_iff nested inside]
  refine and_congr_right fun later => ⟨fun deeper => ?_, fun earlier k after upTo => ?_⟩
  · refine Nat.lt_of_not_le fun ended => ?_
    have := deeper last block.after ended
    have := block.ended (by omega)
    omega
  · exact (block.deeper after (by omega)).2

private theorem range_eq_append {first last count : Nat} (order : first ≤ last) (within : last ≤ count) :
    List.range count =
      List.range' 0 first ++ (List.range' first (last - first) ++ List.range' last (count - last)) := by
  obtain ⟨middle, rfl⟩ := Nat.exists_eq_add_of_le order
  obtain ⟨rest, rfl⟩ := Nat.exists_eq_add_of_le within
  rw [Nat.add_sub_cancel_left, Nat.add_sub_cancel_left, List.range'_append_1, List.range_eq_range', Nat.add_assoc,
    ← List.range'_append_1, Nat.zero_add]

/-- The lines below a line are those that follow it up to the end of its block. -/
theorem below_eq_range' (nested : o.Nested) {i last : Nat} (inside : i < o.lines.size) (block : o.BlockEnd i last) :
    o.below i = List.range' (i + 1) (last - (i + 1)) := by
  have upTo := block.le_size inside
  have member : ∀ j, j < o.lines.size → (decide (i ∈ o.ancestors j) = true ↔ i < j ∧ j < last) := by
    intro j within
    rw [decide_eq_true_iff, mem_ancestors_iff_lt nested within block]
  rw [below, range_eq_append block.after (block.le_size inside), List.filter_append, List.filter_append]
  rw [List.filter_eq_nil_iff.mpr, List.filter_eq_self.mpr, List.filter_eq_nil_iff.mpr, List.nil_append, List.append_nil]
  all_goals
    intro j mem
    have within := List.mem_range'_1.mp mem
    rw [member j (by omega)]
    omega

private theorem map_value_range' {first last : Nat} (within : last ≤ o.lines.size) :
    (List.range' first (last - first)).map o.value = (o.lines.toList.extract first last).map (·.value) := by
  refine List.ext_getElem (by simp; omega) fun i left right => ?_
  have inside : first + i < o.lines.size := by
    simp only [List.length_map, List.length_range'] at left
    omega
  simp [value, inside]

/-- A result is the sum of what its line started with and the values from the line after it to the
end of its block, added up from the first to the last. -/
theorem RolledUp.result_eq {starts : List Float} (rolled : o.RolledUp starts) (nested : o.Nested) {i last : Nat}
    {start : Float} (here : starts[i]? = some start) (block : o.BlockEnd i last) :
    o.result i = ((o.lines.toList.extract (i + 1) last).map (·.value)).foldl (· + ·) start := by
  have inside : i < o.lines.size := by
    rw [← rolled.length]
    exact (List.getElem?_eq_some_iff.mp here).1
  rw [rolled.sum i start here, below_eq_range' nested inside block, map_value_range' (block.le_size inside)]

theorem indent_root_lt (nested : o.Nested) {i : Nat} (later : 0 < i) (inside : i < o.lines.size) :
    o.indent 0 < o.indent i := by
  induction inside using nested.rooted.induct with
  | first => omega
  | step i p inside parent before ih =>
    have less := (nested.nearest i p inside parent).less
    by_cases top : p = 0
    · rwa [top] at less
    · have := ih (by omega)
      omega

/-- Everything is below the root. -/
theorem blockEnd_root (nested : o.Nested) : o.BlockEnd 0 o.lines.size := by
  refine ⟨nested.rooted.nonempty, fun outside => absurd outside (Nat.lt_irrefl _), fun j later ended => ?_⟩
  refine Nat.le_of_not_lt fun inside => ?_
  have := ended inside
  have := indent_root_lt nested later inside
  omega

end OutlineCalc.Outline

namespace OutlineCalc.Document

open Outline

variable [Machine]

theorem values_build (document : String) (store : Store) :
    (build document store).1.lines.toList.map (·.value) =
      0 :: (calculated (filledRows document) 1 store.clear).map (·.value) :=
  Line.map_eq_of_own Line.value (fun _ => rfl) _ (root :: calculated (filledRows document) 1 store.clear) (own_build document store)

/-- In the outline of a document every line starts with its own value. -/
theorem rolledUp_build (document : String) (store : Store) :
    (build document store).1.RolledUp ((build document store).1.lines.toList.map (·.value)) := by
  have results : (calculated (filledRows document) 1 store.clear).map (·.result) =
      (calculated (filledRows document) 1 store.clear).map (·.value) :=
    List.map_congr_left fun line mem => (of_mem_calculated line mem).2
  rw [values_build, ← results, build_eq]
  exact rolledUp_foldl_put rooted_empty rolledUp_empty _

/-- In the outline of a document a result is the sum of the line's own value and the values of the
lines that follow it without a break and are indented deeper, each once and from the first to the
last; and the total is the sum of all values, from the first to the last. -/
theorem result_build (document : String) (store : Store) :
    let o := (build document store).1
    o.lines.toList.map Line.own = root.own :: (calculated (filledRows document) 1 store.clear).map Line.own ∧
      (∀ i : Fin o.lines.size, ∃ last, o.BlockEnd i last ∧
        o.result i = ((o.lines.toList.extract (i.val + 1) last).map (·.value)).foldl (· + ·) (o.value i)) ∧
      o.total = ((o.lines.toList.drop 1).map (·.value)).foldl (· + ·) 0 := by
  intro o
  have nested : o.Nested := nested_rows (filledRows document) store
  have rolled : o.RolledUp (o.lines.toList.map (·.value)) := rolledUp_build document store
  refine ⟨own_build document store, fun i => ?_, ?_⟩
  · obtain ⟨last, block⟩ := exists_blockEnd o i
    exact ⟨last, block, rolled.result_eq nested (by simp [Outline.value]) block⟩
  · have start : (o.lines.toList.map (·.value))[0]? = some 0 := by
      rw [values_build]
      rfl
    have whole : o.lines.toList.extract 1 o.lines.size = o.lines.toList.drop 1 := by
      rw [List.extract_eq_take_drop, List.take_of_length_le]
      simp
    show o.result 0 = _
    rw [rolled.result_eq nested start (blockEnd_root nested), whole]

end OutlineCalc.Document
