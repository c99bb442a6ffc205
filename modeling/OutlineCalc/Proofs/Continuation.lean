import OutlineCalc.Proofs.Indentation

/-!
What later rows leave of an outline. A row is put below the last line or below a line above that, so
only these lines can change any more, and of them only the results, the currency marks and the
children. A document that goes on keeps the lines that it had.
-/

namespace OutlineCalc

/-- `line.Kept later`: what other lines never change of a line is the same, that is, what it brought
along and the line it stands below, and it still has its children. -/
structure Line.Kept (line later : Line) : Prop where
  own : later.own = line.own
  parent : later.parent = line.parent
  children : line.children <+: later.children

theorem Line.Kept.refl (line : Line) : line.Kept line := ⟨rfl, rfl, List.prefix_refl _⟩

theorem Line.Kept.trans {line next last : Line} (first : line.Kept next) (second : next.Kept last) : line.Kept last :=
  ⟨second.own.trans first.own, second.parent.trans first.parent, first.children.trans second.children⟩

namespace Outline

variable {o : Outline}

/-- The places of the last line and of the lines above it. -/
def spine (o : Outline) : List Nat := (o.lines.size - 1) :: o.ancestors (o.lines.size - 1)

/-- Whether `more` has the lines of `o` where they were, and just as they were unless they are on the
way up from the last line of `o`. -/
structure Continues (o more : Outline) : Prop where
  size : o.lines.size ≤ more.lines.size
  kept : ∀ i line, o.lines[i]? = some line →
    ∃ later, more.lines[i]? = some later ∧ line.Kept later ∧ (i ∈ o.spine ∨ later = line)
  spine : ∀ i ∈ more.spine, i < o.lines.size → i ∈ o.spine

theorem Continues.refl (o : Outline) : o.Continues o :=
  ⟨Nat.le_refl _, fun _ line here => ⟨line, here, .refl line, .inr rfl⟩, fun _ mem _ => mem⟩

theorem Continues.trans {next last : Outline} (first : o.Continues next) (second : next.Continues last) :
    o.Continues last := by
  refine ⟨Nat.le_trans first.size second.size, ?_, ?_⟩
  · intro i line here
    have inside : i < o.lines.size := (Array.getElem?_eq_some_iff.mp here).1
    obtain ⟨later, here', kept, same⟩ := first.kept i line here
    obtain ⟨latest, here'', kept', same'⟩ := second.kept i later here'
    refine ⟨latest, here'', kept.trans kept', ?_⟩
    rcases same with mem | rfl
    · exact .inl mem
    · exact same'.imp_left fun mem => first.spine i mem inside
  · intro i mem inside
    have within : i < next.lines.size := Nat.lt_of_lt_of_le inside first.size
    exact first.spine i (second.spine i mem within) inside

/-- What stands above a line on the way up is on the way up. -/
theorem mem_spine_of_mem_ancestors (rooted : o.Rooted) {i j : Nat} (mem : j ∈ o.spine) (above : i ∈ j :: o.ancestors j) :
    i ∈ o.spine := by
  have nonempty := rooted.nonempty
  rcases List.mem_cons.mp above with rfl | above
  · exact mem
  · rcases List.mem_cons.mp mem with rfl | higher
    · exact List.mem_cons_of_mem _ above
    · exact List.mem_cons_of_mem _ (mem_ancestors_trans rooted (by omega) higher above)

theorem findParent_mem_spine (rooted : o.Rooted) (indent : Int) : o.findParent (o.lines.size - 1) indent ∈ o.spine := by
  have nonempty := rooted.nonempty
  rw [findParent_eq]
  cases found : ((o.lines.size - 1) :: o.ancestors (o.lines.size - 1)).find? (o.isLeftOf indent) with
  | none => exact List.mem_of_getLast? (getLast?_cons_ancestors rooted (by omega))
  | some place => exact List.mem_of_find?_eq_some found

/-- A line that is put in after the last one changes lines on the way up from that one only. -/
theorem continues_put (rooted : o.Rooted) (line : Line) : o.Continues (o.put line) := by
  have valid := findParent_lt rooted line.indent
  have parent := findParent_mem_spine rooted line.indent
  refine ⟨by rw [size_put]; omega, ?_, ?_⟩
  · intro i above here
    have inside : i < o.lines.size := (Array.getElem?_eq_some_iff.mp here).1
    rw [put, getElem?_insert rooted line valid, if_neg (Nat.ne_of_lt inside), here]
    refine ⟨_, rfl, ⟨rfl, rfl, ?_⟩, ?_⟩
    · simp only
      split
      · exact List.prefix_append _ _
      · exact List.prefix_refl _
    · by_cases higher : i ∈ o.findParent (o.lines.size - 1) line.indent :: o.ancestors (o.findParent (o.lines.size - 1) line.indent)
      · exact .inl (mem_spine_of_mem_ancestors rooted parent higher)
      · have other : i ≠ o.findParent (o.lines.size - 1) line.indent := fun same => higher (same ▸ List.mem_cons_self)
        simp [higher, other]
  · intro i mem inside
    rw [spine, size_put, Nat.add_sub_cancel, put, ancestors_insert_self rooted line valid] at mem
    rcases List.mem_cons.mp mem with rfl | higher
    · omega
    · exact mem_spine_of_mem_ancestors rooted parent higher

theorem continues_foldl_put (rooted : o.Rooted) (lines : List Line) : o.Continues (lines.foldl put o) := by
  induction lines generalizing o with
  | nil => exact .refl o
  | cons line lines ih => exact (continues_put rooted line).trans (ih (rooted_put rooted line))

end Outline

namespace Document

theorem filledRows_append (document more : String) :
    filledRows (document ++ "\n" ++ more) = filledRows document ++ filledRows more := by
  have rows : rows (document ++ "\n" ++ more).toList = rows document.toList ++ rows more.toList := by
    rw [String.toList_append, String.toList_append, List.append_assoc]
    exact Pieces.between_append _ _ _
  rw [filledRows, rows, List.filter_append, List.map_append]
  rfl

variable [Machine]

/-- The rows that come after some others leave the outline of those others as it is but for the way up
from its last line. -/
theorem continues_rows (rows more : List String) (store : Store) :
    (rows.foldl Progress.add (.start store)).outline.Continues ((rows ++ more).foldl Progress.add (.start store)).outline := by
  rw [List.foldl_append, outline_foldl_add more _ (last_foldl_add rows rfl)]
  exact Outline.continues_foldl_put (nested_rows rows store).rooted _

/-- A document that goes on keeps what it had: each of its lines has the same text, indent, number, value,
ending and fault and stands below the same line, and its children are still its first ones. All but the
last row and the lines above that one are as they were altogether. -/
theorem continues_build (document more : String) (store : Store) :
    let o := (build document store).1
    let longer := (build (document ++ "\n" ++ more) store).1
    let n := (filledRows document).length
    o.lines.size = n + 1 ∧ ∀ i : Fin (n + 1), ∃ line later, o.lines[i.val]? = some line ∧ longer.lines[i.val]? = some later ∧
      later.own = line.own ∧ later.parent = line.parent ∧ line.children <+: later.children ∧
        (i.val = n ∨ i.val ∈ o.ancestors n ∨ later = line) := by
  intro o longer n
  have size : o.lines.size = n + 1 := size_build document store
  have continues : o.Continues longer := by
    have rows := continues_rows (filledRows document) (filledRows more) store
    rwa [← filledRows_append document more] at rows
  refine ⟨size, fun i => ?_⟩
  obtain ⟨line, here⟩ : ∃ line, o.lines[i.val]? = some line := ⟨_, Array.getElem?_eq_getElem (by omega)⟩
  obtain ⟨later, here', kept, same⟩ := continues.kept i line here
  refine ⟨line, later, here, here', kept.own, kept.parent, kept.children, ?_⟩
  rwa [Outline.spine, size, Nat.add_sub_cancel, List.mem_cons, or_assoc] at same

end Document

end OutlineCalc
