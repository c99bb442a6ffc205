import Mathlib.Data.List.Nodup
import OutlineCalc.Machine.Usual
import OutlineCalc.Proofs.Growth
import OutlineCalc.Proofs.Preorder

/-!
Outlines as trees. Every line knows its parent and its children, and the two agree with each other
wherever lines are put in. So the way up from a line ends at the root, and a line and the lines below
it have one order in which each comes once and everything below one child comes before the next child;
a walk from the line comes to them in this order, as far as the machine has room for it.
-/

namespace OutlineCalc.Outline

variable {o : Outline}

theorem lt_of_parent? {i p : Nat} (parent : o.parent? i = some p) : i < o.lines.size := by
  obtain ⟨line, here, _⟩ := Option.bind_eq_some_iff.mp parent
  exact (Array.getElem?_eq_some_iff.mp here).1

/-- Induction from the children up: what holds of a line when it holds of its children holds of all
lines. -/
theorem Linked.induct {motive : ∀ i, i < o.lines.size → Prop} (linked : o.Linked) (rooted : o.Rooted)
    (step : ∀ i inside, (∀ c (child : c ∈ o.children i), motive c (lt_of_mem_children rooted linked child).2) → motive i inside)
    {i : Nat} (inside : i < o.lines.size) : motive i inside := by
  generalize behind : o.lines.size - i = count
  induction count using Nat.strongRecOn generalizing i with
  | ind count ih =>
    refine step i inside fun c child => ?_
    obtain ⟨later, within⟩ := lt_of_mem_children rooted linked child
    exact ih (o.lines.size - c) (by omega) within rfl

/-! ## The lines below a line -/

theorem sorted_children (linked : o.Linked) (i : Nat) : (o.children i).Pairwise (· < ·) := by
  rw [linked i]
  exact List.pairwise_lt_range.filter _

/-- A line stands above another when the other is one of its children or below one of them. -/
theorem mem_ancestors_iff_child (rooted : o.Rooted) (linked : o.Linked) {i j : Nat} (inside : j < o.lines.size) :
    i ∈ o.ancestors j ↔ ∃ c ∈ o.children i, c ∈ j :: o.ancestors j := by
  induction inside using rooted.induct with
  | first =>
    rw [ancestors_zero rooted]
    constructor
    · intro mem
      cases mem
    · rintro ⟨c, child, mem⟩
      obtain rfl := List.mem_singleton.mp mem
      have := (lt_of_mem_children rooted linked child).1
      omega
  | step j p inside parent before ih =>
    rw [ancestors_eq_cons rooted inside parent before, List.mem_cons, ih]
    constructor
    · rintro (rfl | ⟨c, child, mem⟩)
      · exact ⟨j, (mem_children linked).mpr ⟨inside, parent⟩, List.mem_cons_self⟩
      · exact ⟨c, child, List.mem_cons_of_mem j mem⟩
    · rintro ⟨c, child, mem⟩
      rcases List.mem_cons.mp mem with rfl | mem
      · have parent' := ((mem_children linked).mp child).2
        rw [parent] at parent'
        exact .inl (Option.some.inj parent').symm
      · exact .inr ⟨c, child, mem⟩

theorem mem_preorder (rooted : o.Rooted) (linked : o.Linked) {i j : Nat} (inside : i < o.lines.size) :
    j ∈ o.preorder i ↔ j < o.lines.size ∧ i ∈ j :: o.ancestors j := by
  induction inside using linked.induct rooted with
  | step i inside ih =>
    rw [preorder_eq_cons rooted linked inside, List.mem_cons, List.mem_flatMap]
    constructor
    · rintro (rfl | ⟨c, child, mem⟩)
      · exact ⟨inside, List.mem_cons_self⟩
      · obtain ⟨within, above⟩ := (ih c child).mp mem
        exact ⟨within, List.mem_cons_of_mem j ((mem_ancestors_iff_child rooted linked within).mpr ⟨c, child, above⟩)⟩
    · rintro ⟨within, mem⟩
      rcases List.mem_cons.mp mem with rfl | above
      · exact .inl rfl
      · obtain ⟨c, child, mem⟩ := (mem_ancestors_iff_child rooted linked within).mp above
        exact .inr ⟨c, child, (ih c child).mpr ⟨within, mem⟩⟩

theorem mem_preorder_self (rooted : o.Rooted) (linked : o.Linked) {i : Nat} (inside : i < o.lines.size) : i ∈ o.preorder i :=
  (mem_preorder rooted linked inside).mpr ⟨inside, List.mem_cons_self⟩

/-- The lines below different children of a line are different. -/
private theorem disjoint_preorder (rooted : o.Rooted) (linked : o.Linked) {i c d : Nat} (child : c ∈ o.children i)
    (child' : d ∈ o.children i) (before : c < d) : List.Disjoint (o.preorder c) (o.preorder d) := by
  intro j mem mem'
  obtain ⟨later, inside⟩ := lt_of_mem_children rooted linked child
  obtain ⟨later', inside'⟩ := lt_of_mem_children rooted linked child'
  obtain ⟨within, above⟩ := (mem_preorder rooted linked inside).mp mem
  obtain ⟨_, above'⟩ := (mem_preorder rooted linked inside').mp mem'
  have higher : c ∈ o.ancestors d := mem_ancestors_of_lt rooted within above' above before
  rw [ancestors_eq_cons rooted inside' ((mem_children linked).mp child').2 later'] at higher
  have := le_of_mem_cons_ancestors rooted (by omega) higher
  omega

/-- No line is below a line twice. -/
theorem nodup_preorder (rooted : o.Rooted) (linked : o.Linked) {i : Nat} (inside : i < o.lines.size) :
    (o.preorder i).Nodup := by
  induction inside using linked.induct rooted with
  | step i inside ih =>
    rw [preorder_eq_cons rooted linked inside, List.nodup_cons, List.nodup_flatMap]
    refine ⟨fun mem => ?_, ih, ?_⟩
    · obtain ⟨c, child, mem⟩ := List.mem_flatMap.mp mem
      obtain ⟨later, within⟩ := lt_of_mem_children rooted linked child
      have := le_of_mem_cons_ancestors rooted inside ((mem_preorder rooted linked within).mp mem).2
      omega
    · exact (sorted_children linked i).imp_of_mem fun child child' => disjoint_preorder rooted linked child child'

/-- Everything below a line follows it without a break. -/
theorem isInfix_preorder (rooted : o.Rooted) (linked : o.Linked) {i j : Nat} (inside : i < o.lines.size)
    (mem : j ∈ o.preorder i) : o.preorder j <:+: o.preorder i := by
  induction inside using linked.induct rooted with
  | step i inside ih =>
    rw [preorder_eq_cons rooted linked inside, List.mem_cons, List.mem_flatMap] at mem
    rcases mem with rfl | ⟨c, child, mem⟩
    · exact List.infix_refl _
    · obtain ⟨before, after, children⟩ := List.append_of_mem child
      have whole : o.preorder c <:+: o.preorder i := by
        rw [preorder_eq_cons rooted linked inside, children]
        exact ⟨i :: before.flatMap o.preorder, after.flatMap o.preorder, by simp⟩
      exact (ih c child mem).trans whole

/-- A line comes after its parent. -/
theorem sublist_preorder (rooted : o.Rooted) (linked : o.Linked) {i j p : Nat} (inside : i < o.lines.size)
    (mem : j ∈ o.preorder i) (other : j ≠ i) (parent : o.parent? j = some p) : [p, j].Sublist (o.preorder i) := by
  obtain ⟨within, above⟩ := (mem_preorder rooted linked inside).mp mem
  have child : j ∈ o.children p := (mem_children linked).mpr ⟨within, parent⟩
  have before := (lt_of_mem_children rooted linked child).1
  rw [List.mem_cons, ancestors_eq_cons rooted within parent before] at above
  have mem' : p ∈ o.preorder i := (mem_preorder rooted linked inside).mpr ⟨by omega, above.resolve_left (Ne.symm other)⟩
  have below : j ∈ (o.children p).flatMap o.preorder :=
    List.mem_flatMap.mpr ⟨j, child, mem_preorder_self rooted linked within⟩
  have first : [p, j].Sublist (o.preorder p) := by
    rw [preorder_eq_cons rooted linked (by omega)]
    exact (List.singleton_sublist.mpr below).cons_cons p
  exact first.trans (isInfix_preorder rooted linked inside mem').sublist

/-! ## One tree -/

/-- Whether the way up from every line leads to the line at place 0. `up` says that it is not cut short. -/
structure LeadsUp (o : Outline) : Prop where
  root : ∀ i < o.lines.size, o.parent? i = none ↔ i = 0
  before : ∀ i p, o.parent? i = some p → p < i
  up : ∀ i < o.lines.size, o.ancestors i = ((o.parent? i).map fun p => p :: o.ancestors p).getD []
  descending : ∀ i < o.lines.size, (i :: o.ancestors i).Pairwise (· > ·)
  last : ∀ i < o.lines.size, i ≠ 0 → (o.ancestors i).getLast? = some 0

/-- Whether the lines of an outline are one tree under the line at place 0. `down` says that the order of
what is below a line is not cut short, and `together` that everything below one child of a line comes
before the next child, the one put in first coming first. A walk follows this order up to the first line
that the machine has no room for. -/
structure IsTree [Machine] (o : Outline) : Prop extends o.LeadsUp where
  children : ∀ i j, j ∈ o.children i ↔ o.parent? j = some i
  sorted : ∀ i, (o.children i).Pairwise (· < ·)
  down : ∀ i < o.lines.size, o.preorder i = i :: (o.children i).flatMap o.preorder
  below : ∀ i < o.lines.size, ∀ j < o.lines.size, j ∈ o.preorder i ↔ j = i ∨ i ∈ o.ancestors j
  inside : ∀ i < o.lines.size, ∀ j ∈ o.preorder i, j < o.lines.size
  once : ∀ i < o.lines.size, (o.preorder i).Nodup
  parentFirst : ∀ i < o.lines.size, ∀ j ∈ o.preorder i, j ≠ i →
    ∃ p, o.parent? j = some p ∧ [p, j].Sublist (o.preorder i)
  together : ∀ i < o.lines.size, ∀ j ∈ o.preorder i, j :: (o.children j).flatMap o.preorder <:+: o.preorder i
  walk : ∀ i < o.lines.size, o.walkFrom i = .upTo (fun j => o.depth j < o.depth i + Machine.walkRoom) (o.preorder i)

theorem parent?_eq_none_iff (rooted : o.Rooted) {i : Nat} (inside : i < o.lines.size) : o.parent? i = none ↔ i = 0 := by
  constructor
  · intro none
    by_contra later
    obtain ⟨p, parent, _⟩ := rooted.below i (by omega) inside
    rw [none] at parent
    contradiction
  · rintro rfl
    exact rooted.root

theorem leadsUp (rooted : o.Rooted) : o.LeadsUp where
  root i inside := parent?_eq_none_iff rooted inside
  before i p parent := by
    have inside := lt_of_parent? parent
    have later : i ≠ 0 := by
      rintro rfl
      rw [rooted.root] at parent
      contradiction
    obtain ⟨q, above, before⟩ := rooted.below i (by omega) inside
    rw [parent] at above
    obtain rfl := Option.some.inj above
    exact before
  up i inside := by
    by_cases first : i = 0
    · rw [first, ancestors_zero rooted, rooted.root]
      rfl
    · obtain ⟨p, parent, before⟩ := rooted.below i (by omega) inside
      rw [ancestors_eq_cons rooted inside parent before, parent]
      rfl
  descending i inside := descending_cons_ancestors rooted inside
  last i inside later := by
    have last := getLast?_cons_ancestors rooted inside
    obtain ⟨p, parent, before⟩ := rooted.below i (by omega) inside
    rwa [ancestors_eq_cons rooted inside parent before, List.getLast?_cons_cons,
      ← ancestors_eq_cons rooted inside parent before] at last

theorem isTree_of_linked [Machine] (rooted : o.Rooted) (linked : o.Linked) : o.IsTree where
  toLeadsUp := leadsUp rooted
  children i j := (mem_children linked).trans (and_iff_right_of_imp lt_of_parent?)
  sorted := sorted_children linked
  down i inside := preorder_eq_cons rooted linked inside
  below i inside j within := by
    rw [mem_preorder rooted linked inside, List.mem_cons, eq_comm (a := i), and_iff_right within]
  inside i inside j mem := ((mem_preorder rooted linked inside).mp mem).1
  once i inside := nodup_preorder rooted linked inside
  parentFirst i inside j mem other := by
    obtain ⟨within, above⟩ := (mem_preorder rooted linked inside).mp mem
    have := le_of_mem_cons_ancestors rooted within above
    obtain ⟨p, parent, _⟩ := rooted.below j (by omega) within
    exact ⟨p, parent, sublist_preorder rooted linked inside mem other parent⟩
  together i inside j mem := by
    have within := ((mem_preorder rooted linked inside).mp mem).1
    rw [← preorder_eq_cons rooted linked within]
    exact isInfix_preorder rooted linked inside mem
  walk i inside := walkFrom_eq rooted linked inside

theorem GrownBy.linked {steps : List (Line × Nat)} (grown : o.GrownBy steps)
    (fresh : ∀ step ∈ steps, step.1.children = []) : o.Linked := by
  induction grown with
  | start => exact linked_empty
  | step grown line valid ih =>
    obtain ⟨fresh, childless⟩ := List.forall_mem_append.mp fresh
    exact linked_insert grown.rooted (ih fresh) (childless _ (List.mem_singleton_self _)) valid

/-- The children of a line are those that it came with, and then the lines that stand directly below it in
the order they were put in. -/
theorem GrownBy.children_eq {steps : List (Line × Nat)} (grown : o.GrownBy steps) {i : Nat} {line : Line}
    (here : (came steps)[i]? = some line) :
    o.children i = line.children ++ (List.range o.lines.size).filter fun j => o.parent? j = some i := by
  induction grown generalizing i line with
  | start =>
    obtain ⟨rfl, rfl⟩ : i = 0 ∧ root = line := by
      cases i <;> simp_all [came]
    rfl
  | @step o steps grown new parent valid ih =>
    have inside : i ≤ o.lines.size := by
      have := (List.getElem?_eq_some_iff.mp here).1
      have := (grown.step new valid).length_came
      rw [size_insert] at this
      omega
    rw [grown.getElem?_came_append new parent inside] at here
    rw [children_insert grown.rooted new valid, filter_parent?_insert grown.rooted new valid]
    by_cases last : i = o.lines.size
    · rw [if_pos last] at here
      obtain rfl := Option.some.inj here
      rw [if_pos last, last, filter_parent?_size grown.rooted, if_neg (Nat.ne_of_gt valid), List.append_nil, List.append_nil]
    · rw [if_neg last] at here
      rw [if_neg last, ← List.append_assoc, ← ih here]
      split
      · rfl
      · rw [List.append_nil]

/-- Wherever lines are put in, below the last line or any other, the way up from each leads to the root, and
its children are those put in below it, behind any that it came with itself. If the lines are new and came
with none, the outline stays one tree. -/
theorem isTree_of_grownBy [Machine] {steps : List (Line × Nat)} (grown : o.GrownBy steps) :
    o.LeadsUp ∧
      (∀ i line, (came steps)[i]? = some line →
        o.children i = line.children ++ (List.range o.lines.size).filter fun j => o.parent? j = some i) ∧
      ((∀ step ∈ steps, step.1.children = []) → o.IsTree) :=
  ⟨leadsUp grown.rooted, fun _ _ => grown.children_eq, fun fresh => isTree_of_linked grown.rooted (grown.linked fresh)⟩

/-- A line put in late below an early one is walked to before what was put in between. -/
theorem isTree_of_interleaved :
    letI := Machine.usual
    interleavedOutline.GrownBy interleaved ∧ (∀ step ∈ interleaved, step.1.children = []) ∧ interleavedOutline.IsTree ∧
      interleavedOutline.walkFrom 0 = ⟨[0, 1, 3, 5, 2, 4, 6], false⟩ := by
  let _ := Machine.usual
  have fresh : ∀ step ∈ interleaved, step.1.children = [] := by
    simp [interleaved]
  exact ⟨grownBy_interleaved, fresh, (isTree_of_grownBy grownBy_interleaved).2.2 fresh, rfl⟩

end OutlineCalc.Outline
