import OutlineCalc.Proofs.Rows

/-!
Which line a row stands below. Only the last line and what stands above it are looked at, and still
it is the nearest of all earlier lines that is indented less: every line passed over between a line
and its parent is indented at least as far as the line.
-/

namespace OutlineCalc.Outline

variable {o : Outline}

/-- The indent of the line at a place. -/
def indent (o : Outline) (i : Nat) : Int := (o.lines[i]?.map (·.indent)).getD 0

/-- `p` is the last place before `i` with a line that is indented less than `indent`. -/
structure Nearest (o : Outline) (i : Nat) (indent : Int) (p : Nat) : Prop where
  before : p < i
  less : o.indent p < indent
  last : ∀ j, j < i → o.indent j < indent → j ≤ p

/-- Whether every line stands below the nearest one before it that is indented less. -/
structure Nested (o : Outline) : Prop where
  rooted : o.Rooted
  outermost : o.indent 0 = -1
  nearest : ∀ i p, i < o.lines.size → o.parent? i = some p → o.Nearest i (o.indent i) p

theorem isLeftOf_iff {i : Nat} (inside : i < o.lines.size) (indent : Int) :
    o.isLeftOf indent i = true ↔ o.indent i < indent := by
  simp [isLeftOf, Outline.indent, inside]

theorem indent_insert (rooted : o.Rooted) (line : Line) {parent : Nat} (valid : parent < o.lines.size) (i : Nat) :
    (o.insert line parent).indent i = if i = o.lines.size then line.indent else o.indent i := by
  rw [indent, getElem?_map_insert _ (fun _ => rfl) rooted line valid]
  by_cases new : i = o.lines.size <;> simp [indent, new]

/-- Going up from a line, the first that is indented less than `indent` is the nearest of all lines
up to it, and there is one: the root. -/
theorem find?_nearest (nested : o.Nested) {indent : Int} (positive : 0 ≤ indent) {i : Nat} (inside : i < o.lines.size) :
    ∃ p, (i :: o.ancestors i).find? (o.isLeftOf indent) = some p ∧ o.Nearest (i + 1) indent p := by
  induction inside using nested.rooted.induct with
  | first =>
    have less : o.indent 0 < indent := by rw [nested.outermost]; omega
    refine ⟨0, List.find?_cons_of_pos ((isLeftOf_iff nested.rooted.nonempty indent).mpr less), by omega, less, ?_⟩
    intro j before _
    omega
  | step i p inside parent before ih =>
    by_cases less : o.indent i < indent
    · refine ⟨i, List.find?_cons_of_pos ((isLeftOf_iff inside indent).mpr less), by omega, less, ?_⟩
      intro j before _
      omega
    · obtain ⟨q, found, nearest⟩ := ih
      have passed : ¬ o.isLeftOf indent i = true := fun left => less ((isLeftOf_iff inside indent).mp left)
      refine ⟨q, ?_, ?_⟩
      · rw [List.find?_cons_of_neg passed, ancestors_eq_cons nested.rooted inside parent before, found]
      · refine ⟨by have := nearest.before; omega, nearest.less, fun j earlier left => ?_⟩
        -- Between the parent and the line nothing is indented less than the line.
        have notLine : j ≠ i := by
          rintro rfl
          exact less left
        have := (nested.nearest i p inside parent).last j (by omega) (by omega)
        exact nearest.last j (by omega) left

/-- The line to put a next line below is the nearest one that is indented less. -/
theorem findParent_nearest (nested : o.Nested) {indent : Int} (positive : 0 ≤ indent) :
    o.Nearest o.lines.size indent (o.findParent (o.lines.size - 1) indent) := by
  have nonempty := nested.rooted.nonempty
  obtain ⟨p, found, nearest⟩ := find?_nearest nested positive (by omega : o.lines.size - 1 < o.lines.size)
  rw [findParent_eq, found, Option.getD_some]
  rwa [Nat.sub_add_cancel nonempty] at nearest

theorem nested_empty : empty.Nested := by
  refine ⟨rooted_empty, rfl, fun i p inside parent => ?_⟩
  obtain rfl : i = 0 := by
    have : empty.lines.size = 1 := rfl
    omega
  rw [rooted_empty.root] at parent
  contradiction

theorem nested_put (nested : o.Nested) {line : Line} (positive : 0 ≤ line.indent) : (o.put line).Nested := by
  have rooted := nested.rooted
  have nearest := findParent_nearest nested positive
  have indents : ∀ j, j < o.lines.size → (o.put line).indent j = o.indent j := by
    intro j inside
    rw [put, indent_insert rooted line nearest.before, if_neg (Nat.ne_of_lt inside)]
  have keep : ∀ i indent p, i ≤ o.lines.size → o.Nearest i indent p → (o.put line).Nearest i indent p := by
    intro i indent p within nearest
    have before := nearest.before
    refine ⟨before, by rw [indents p (by omega)]; exact nearest.less, fun j earlier left => ?_⟩
    rw [indents j (by omega)] at left
    exact nearest.last j earlier left
  refine ⟨rooted_insert rooted line nearest.before, by rw [indents 0 rooted.nonempty, nested.outermost], ?_⟩
  intro i p inside parent
  rw [size_put] at inside
  rw [put, parent?_insert rooted line nearest.before] at parent
  by_cases new : i = o.lines.size
  · rw [if_pos new] at parent
    obtain rfl := Option.some.inj parent
    have own : (o.put line).indent i = line.indent := by
      rw [put, indent_insert rooted line nearest.before, if_pos new]
    rw [own, new]
    exact keep _ _ _ (Nat.le_refl _) nearest
  · rw [if_neg new] at parent
    rw [indents i (by omega)]
    exact keep i _ p (by omega) (nested.nearest i p (by omega) parent)

theorem nested_foldl_put (nested : o.Nested) {lines : List Line} (positive : ∀ line ∈ lines, 0 ≤ line.indent) :
    (lines.foldl put o).Nested :=
  foldl_put_induct nested fun _ line mem nested => nested_put nested (positive line mem)

end OutlineCalc.Outline

namespace OutlineCalc.Document

open Outline

variable [Machine]

theorem indents_build (document : String) (store : Store) :
    (build document store).1.lines.toList.map (·.indent) =
      -1 :: (filledRows document).map (fun row => (leadingIndent row : Int)) := by
  rw [← indents_calculated (filledRows document) 1 store.clear]
  exact Line.map_eq_of_own Line.indent (fun _ => rfl) _ (root :: calculated (filledRows document) 1 store.clear)
    (own_build document store)

theorem size_rows (rows : List String) (store : Store) :
    (rows.foldl Progress.add (.start store)).outline.lines.size = rows.length + 1 := by
  rw [outline_foldl_add rows (.start store) rfl, size_foldl_put, length_calculated, Nat.add_comm]
  rfl

theorem nested_rows (rows : List String) (store : Store) :
    (rows.foldl Progress.add (.start store)).outline.Nested := by
  rw [outline_foldl_add rows (.start store) rfl]
  exact nested_foldl_put nested_empty fun line mem => (of_mem_calculated line mem).1

theorem nested_build (document : String) (store : Store) : (build document store).1.Nested :=
  nested_rows (filledRows document) store

theorem size_build (document : String) (store : Store) :
    (build document store).1.lines.size = (filledRows document).length + 1 :=
  size_rows (filledRows document) store

theorem indent_build (document : String) (store : Store) (i : Fin (filledRows document).length) :
    (build document store).1.indent (i.val + 1) = leadingIndent (filledRows document)[i] := by
  have here : (build document store).1.lines[i.val + 1]?.map (·.indent) = some (leadingIndent (filledRows document)[i] : Int) := by
    rw [← Array.getElem?_toList, ← List.getElem?_map, indents_build]
    simp
  rw [Outline.indent, here, Option.getD_some]

/-- What a row stands below is found by going up from the last line before it, whatever comes
after it. -/
theorem parent_rows (before : List String) (row : String) (after : List String) (store : Store) :
    let p := before.foldl Progress.add (.start store)
    ∃ above, ((before ++ row :: after).foldl Progress.add (.start store)).outline.parent? (before.length + 1) = some above ∧
      (p.current :: p.outline.ancestors p.current).find? (p.outline.isLeftOf (leadingIndent row)) = some above := by
  intro p
  have nested : p.outline.Nested := nested_rows before store
  have size : p.outline.lines.size = before.length + 1 := size_rows before store
  have last : p.current + 1 = p.outline.lines.size := last_foldl_add before rfl
  obtain ⟨above, found, nearest⟩ :=
    find?_nearest nested (Int.natCast_nonneg (leadingIndent row)) (by omega : p.current < p.outline.lines.size)
  refine ⟨above, ?_, found⟩
  have valid : above < p.outline.lines.size := by have := nearest.before; omega
  have added : (p.add row).outline =
      p.outline.insert (evaluateLine row p.outline.lines.size p.store).1 above := by
    have current : p.outline.lines.size - 1 = p.current := by omega
    rw [outline_add p row last, put, current, indent_evaluateLine, findParent_eq, found, Option.getD_some]
  rw [List.foldl_append, List.foldl_cons, outline_foldl_add after _ (last_add p row)]
  rw [parent?_foldl_put (by rw [added]; exact rooted_insert nested.rooted _ valid) _ (by rw [added, size_insert]; omega)]
  rw [added, parent?_insert nested.rooted _ valid, if_pos size.symm]

/-- Every row of a document stands directly below the nearest of all lines before it that is
indented less, where the root counts as indented by minus one. It is found by going up from the
last line, and never for want of any other line. -/
theorem parent_build (document : String) (store : Store) (i : Fin (filledRows document).length) :
    let o := (build document store).1
    let before := ((filledRows document).take i).foldl Progress.add (.start store)
    let indent : Int := leadingIndent (filledRows document)[i]
    o.lines.toList.map (·.indent) = -1 :: (filledRows document).map (fun row => (leadingIndent row : Int)) ∧
      ∃ p, o.parent? (i.val + 1) = some p ∧ o.Nearest (i.val + 1) indent p ∧
        (before.current :: before.outline.ancestors before.current).find? (before.outline.isLeftOf indent) = some p := by
  intro o before indent
  refine ⟨indents_build document store, ?_⟩
  have rows : (filledRows document).take i ++ (filledRows document)[i] :: (filledRows document).drop (i + 1) =
      filledRows document := by
    simp
  obtain ⟨p, parent, found⟩ :=
    parent_rows ((filledRows document).take i) (filledRows document)[i] ((filledRows document).drop (i + 1)) store
  rw [rows, List.length_take, Nat.min_eq_left (Nat.le_of_lt i.isLt)] at parent
  refine ⟨p, parent, ?_, found⟩
  have nested : o.Nested := nested_rows (filledRows document) store
  have inside : i.val + 1 < o.lines.size := by
    have : o.lines.size = (filledRows document).length + 1 := size_rows (filledRows document) store
    omega
  have own : o.indent (i + 1) = indent := by
    have here : o.lines[i.val + 1]?.map (·.indent) = some indent := by
      rw [← Array.getElem?_toList, ← List.getElem?_map, indents_build]
      simp [indent]
    rw [Outline.indent, here, Option.getD_some]
  rw [← own]
  exact nested.nearest (i + 1) p inside parent

end OutlineCalc.Document
