import Mathlib.Data.List.Forall2
import Mathlib.Data.Option.Basic
import OutlineCalc.Proofs.Indentation

/-!
Outlines that are alike. Where a line is put depends on how indents compare and on nothing else, and
what is added up is values. So rows that differ in other things, or in how far they are indented but
not in which of them is indented less, make outlines that differ in just that.
-/

namespace OutlineCalc

/-- Whether a line has the value, the result and the place among the other lines of another, and its
indent moved by `shift`. -/
structure Line.Fits (shift : Int → Int) (line line' : Line) : Prop where
  indent : line'.indent = shift line.indent
  value : line'.value = line.value
  result : line'.result = line.result
  parent : line'.parent = line.parent
  children : line'.children = line.children

/-- Whether lines that are `like` each other fit, and are still so after both were changed in the same
way, as other lines that are put in change them. -/
structure Line.Likeness (shift : Int → Int) (like : Line → Line → Prop) : Prop where
  fits : ∀ {line line'}, like line line' → line.Fits shift line'
  hung : ∀ {line line'}, like line line' → ∀ parent, like { line with parent } { line' with parent }
  changed : ∀ {line line'}, like line line' → ∀ children result,
    like { line with children, result } { line' with children, result }
  marked : ∀ {above above' line line'}, like above above' → like line line' →
    like { above with marked := line.marked } { above' with marked := line'.marked }

namespace Outline

/-- Whether two outlines have lines that are like each other at the same places. -/
def Alike (like : Line → Line → Prop) (o o' : Outline) : Prop := ∀ i : Nat, Option.Rel like o.lines[i]? o'.lines[i]?

variable {shift : Int → Int} {like : Line → Line → Prop} {o o' : Outline}

theorem Alike.getElem? (alike : o.Alike like o') (i : Nat) : (o.lines[i]? = none ∧ o'.lines[i]? = none) ∨
    ∃ line line', o.lines[i]? = some line ∧ o'.lines[i]? = some line' ∧ like line line' := by
  have here := alike i
  generalize o.lines[i]? = line? at here ⊢
  generalize o'.lines[i]? = line'? at here ⊢
  cases here with
  | none => exact .inl ⟨rfl, rfl⟩
  | some same => exact .inr ⟨_, _, rfl, rfl, same⟩

/-- Lines at the same place are like each other. -/
theorem Alike.of_getElem? (alike : o.Alike like o') {i : Nat} {line line' : Line} (here : o.lines[i]? = some line)
    (here' : o'.lines[i]? = some line') : like line line' := by
  have same := alike i
  rw [here, here'] at same
  cases same with
  | some same => exact same

theorem Alike.size_eq (alike : o.Alike like o') : o'.lines.size = o.lines.size := by
  have inside : ∀ i, i < o'.lines.size ↔ i < o.lines.size := by
    intro i
    obtain ⟨here, here'⟩ | ⟨line, line', here, here', _⟩ := alike.getElem? i
    · simp only [Array.getElem?_eq_none_iff] at here here'
      omega
    · have := (Array.getElem?_eq_some_iff.mp here).1
      have := (Array.getElem?_eq_some_iff.mp here').1
      omega
  have := inside o.lines.size
  have := inside o'.lines.size
  omega

section
variable (likeness : Line.Likeness shift like) (alike : o.Alike like o')

include likeness alike

theorem Alike.parent?_eq (i : Nat) : o'.parent? i = o.parent? i := by
  obtain ⟨here, here'⟩ | ⟨line, line', here, here', same⟩ := alike.getElem? i
  · rw [parent?, parent?, here, here']
  · rw [parent?, parent?, here, here']
    exact (likeness.fits same).parent

theorem Alike.total_eq : o'.total = o.total := by
  obtain ⟨here, here'⟩ | ⟨line, line', here, here', same⟩ := alike.getElem? 0
  · rw [total, total, here, here']
  · rw [total, total, here, here']
    exact (likeness.fits same).result

theorem Alike.ancestors_eq (i : Nat) : o'.ancestors i = o.ancestors i := by
  have within : ∀ count i, o'.ancestorsWithin count i = o.ancestorsWithin count i := by
    intro count
    induction count with
    | zero => exact fun i => rfl
    | succ count ih =>
      intro i
      simp only [ancestorsWithin, alike.parent?_eq likeness, ih]
  rw [ancestors, alike.size_eq, within, ancestors]

theorem Alike.rooted (rooted : o.Rooted) : o'.Rooted := by
  have size := alike.size_eq
  refine ⟨by rw [size]; exact rooted.nonempty, by rw [alike.parent?_eq likeness, rooted.root], fun i later inside => ?_⟩
  rw [alike.parent?_eq likeness]
  exact rooted.below i later (by omega)

theorem Alike.isLeftOf_eq (order : ∀ a b, shift a < shift b ↔ a < b) (indent : Int) (i : Nat) :
    o'.isLeftOf (shift indent) i = o.isLeftOf indent i := by
  obtain ⟨here, here'⟩ | ⟨line, line', here, here', same⟩ := alike.getElem? i
  · rw [isLeftOf, isLeftOf, here, here']
  · rw [isLeftOf, isLeftOf, here, here']
    simp only [(likeness.fits same).indent, order]

/-- A line is put below the same line in both. -/
theorem Alike.findParent_eq (order : ∀ a b, shift a < shift b ↔ a < b) (current : Nat) (indent : Int) :
    o'.findParent current (shift indent) = o.findParent current indent := by
  have left : o'.isLeftOf (shift indent) = o.isLeftOf indent := funext (alike.isLeftOf_eq likeness order indent)
  rw [findParent, findParent, left, alike.ancestors_eq likeness]

/-- Outlines stay alike when lines that are like each other are put in at the same place. -/
theorem Alike.insert (rooted : o.Rooted) {line line' : Line} (same : like line line') {parent : Nat}
    (valid : parent < o.lines.size) : (o.insert line parent).Alike like (o'.insert line' parent) := by
  intro i
  have size := alike.size_eq
  rw [getElem?_insert rooted line valid, getElem?_insert (alike.rooted likeness rooted) line' (by omega), size,
    alike.ancestors_eq likeness]
  by_cases new : i = o.lines.size
  · rw [if_pos new, if_pos new]
    exact .some (likeness.hung same _)
  rw [if_neg new, if_neg new]
  obtain ⟨here, here'⟩ | ⟨above, above', here, here', there⟩ := alike.getElem? i
  · rw [here, here']
    exact .none
  rw [here, here']
  refine .some ?_
  have changed := likeness.changed there (if i = parent then above.children ++ [o.lines.size] else above.children)
    (if i ∈ parent :: o.ancestors parent then above.result + line.value else above.result)
  simp only [(likeness.fits same).value, (likeness.fits there).children, (likeness.fits there).result]
  by_cases direct : i = parent
  · simp only [if_pos direct] at changed ⊢
    exact likeness.marked changed same
  · simp only [if_neg direct] at changed ⊢
    exact changed

end

end Outline

namespace Document

open Outline

/-- Whether two outlines under way are alike, and the same comes next in both. -/
structure Progress.Alike (like : Line → Line → Prop) (p p' : Progress) : Prop where
  outline : p.outline.Alike like p'.outline
  current : p'.current = p.current
  store : p'.store = p.store

variable {shift : Int → Int} {like : Line → Line → Prop}

/-- An outline whose lines are like themselves is alike itself. -/
theorem Progress.alike_self {p : Progress} (own : ∀ line ∈ p.outline.lines, like line line) : p.Alike like p := by
  refine ⟨fun i => ?_, rfl, rfl⟩
  cases here : p.outline.lines[i]? with
  | none => exact .none
  | some line => exact .some (own line (Array.mem_of_getElem? here))

variable [Machine]

/-- One row after another that is calculated to the like. -/
theorem Progress.Alike.add {p p' : Progress} (likeness : Line.Likeness shift like) (order : ∀ a b, shift a < shift b ↔ a < b)
    (alike : p.Alike like p') (rooted : p.outline.Rooted) (last : p.current + 1 = p.outline.lines.size)
    {row row' : String}
    (line : like (evaluateLine row p.outline.lines.size p.store).1 (evaluateLine row' p.outline.lines.size p.store).1)
    (store : (evaluateLine row' p.outline.lines.size p.store).2 = (evaluateLine row p.outline.lines.size p.store).2) :
    (p.add row).Alike like (p'.add row') := by
  have size := alike.outline.size_eq
  have valid := findParent_lt rooted (evaluateLine row p.outline.lines.size p.store).1.indent
  rw [show p.outline.lines.size - 1 = p.current by omega] at valid
  have inserted := alike.outline.insert likeness rooted line valid
  refine ⟨?_, size, ?_⟩
  · simp only [Progress.add, size, alike.current, alike.store, (likeness.fits line).indent,
      alike.outline.findParent_eq likeness order]
    exact inserted
  · simp only [Progress.add, size, alike.store, store]

/-- Rows that are calculated to the like one by one, over whatever store. -/
theorem Progress.Alike.foldl_add {p p' : Progress} (likeness : Line.Likeness shift like) (order : ∀ a b, shift a < shift b ↔ a < b)
    (alike : p.Alike like p') (rooted : p.outline.Rooted) (last : p.current + 1 = p.outline.lines.size)
    {rows rows' : List String} (same : List.Forall₂ (fun row row' => ∀ (number : Nat) store,
      like (evaluateLine row number store).1 (evaluateLine row' number store).1 ∧
        (evaluateLine row' number store).2 = (evaluateLine row number store).2) rows rows') :
    (rows.foldl Progress.add p).Alike like (rows'.foldl Progress.add p') := by
  induction same generalizing p p' with
  | nil => exact alike
  | cons same _ ih =>
    obtain ⟨line, store⟩ := same p.outline.lines.size p.store
    refine ih (alike.add likeness order rooted last line store) ?_ (last_add p _)
    rw [outline_add p _ last]
    exact rooted_put rooted _

end Document

end OutlineCalc
