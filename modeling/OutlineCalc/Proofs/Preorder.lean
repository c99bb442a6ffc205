import Mathlib.Data.List.Basic
import Mathlib.Data.List.FinRange
import Mathlib.Data.List.TakeWhile
import OutlineCalc.Proofs.RollUp
import OutlineCalc.Row

/-!
In which order the lines of an outline are shown. A walk goes to each line before those below it, and
to lines below the same line in the order they were put in, up to the first line that stands too deep
for it. Every row of a document is put below the last line or a line above that, so the lines below a
line are the ones that follow it up to the end of its block, and a walk comes to the lines just as they
are stored.
-/

namespace OutlineCalc.Walk

/-- The walk that comes to some places one after the other, up to the first that it has no room for. -/
def upTo (hasRoom : Nat → Bool) (places : List Nat) : Walk := ⟨places.takeWhile hasRoom, places.any (!hasRoom ·)⟩

theorem append_assoc (first second third : Walk) : (first.append second).append third = first.append (second.append third) := by
  cases cut : first.isCutOff <;> cases cut' : second.isCutOff <;> simp [append, cut, cut']

theorem upTo_cons {hasRoom : Nat → Bool} {i : Nat} (room : hasRoom i = true) (places : List Nat) :
    upTo hasRoom (i :: places) = append ⟨[i], false⟩ (upTo hasRoom places) := by
  simp [upTo, append, room]

theorem upTo_append (hasRoom : Nat → Bool) (first second : List Nat) :
    (upTo hasRoom first).append (upTo hasRoom second) = upTo hasRoom (first ++ second) := by
  induction first with
  | nil => rfl
  | cons i first ih =>
    cases room : hasRoom i with
    | false => simp [upTo, append, room]
    | true => rw [upTo_cons room, append_assoc, ih, List.cons_append, upTo_cons room]

theorem upTo_flatMap (hasRoom : Nat → Bool) (places : Nat → List Nat) (starts : List Nat) (first : List Nat) :
    (starts.map fun i => upTo hasRoom (places i)).foldl append (upTo hasRoom first) =
      upTo hasRoom (first ++ starts.flatMap places) := by
  induction starts generalizing first with
  | nil => simp
  | cons i starts ih => rw [List.map_cons, List.foldl_cons, upTo_append, ih, List.flatMap_cons, List.append_assoc]

/-- A walk is cut off where there is a place that it has no room for. -/
theorem upTo_of_forall {hasRoom : Nat → Bool} {places : List Nat} (room : ∀ i ∈ places, hasRoom i = true) :
    upTo hasRoom places = ⟨places, false⟩ := by
  have whole : places.takeWhile hasRoom = places := List.takeWhile_eq_self_iff.mpr room
  simpa [upTo, whole] using room

end OutlineCalc.Walk

namespace OutlineCalc.Outline

variable {o : Outline}

/-- Whether every line has for its children the lines that stand directly below it, in the order they
were put in. -/
def Linked (o : Outline) : Prop :=
  ∀ i, o.children i = (List.range o.lines.size).filter fun j => o.parent? j = some i

theorem linked_empty : empty.Linked := by
  intro i
  cases i <;> rfl

theorem children_insert (rooted : o.Rooted) (line : Line) {parent : Nat} (valid : parent < o.lines.size) (i : Nat) :
    (o.insert line parent).children i =
      if i = o.lines.size then line.children else if i = parent then o.children i ++ [o.lines.size] else o.children i := by
  rw [children, getElem?_insert rooted line valid]
  by_cases new : i = o.lines.size
  · simp [new]
  · by_cases above : i = parent
    · subst above
      simp [children, new, valid]
    · simp [children, new, above, Function.comp_def]

/-- A new line comes behind all others that stand directly below the same line. -/
theorem filter_parent?_insert (rooted : o.Rooted) (line : Line) {parent : Nat} (valid : parent < o.lines.size) (i : Nat) :
    ((List.range (o.insert line parent).lines.size).filter fun j => (o.insert line parent).parent? j = some i) =
      ((List.range o.lines.size).filter fun j => o.parent? j = some i) ++ if i = parent then [o.lines.size] else [] := by
  rw [size_insert, List.range_succ, List.filter_append]
  congr 1
  · refine List.filter_congr fun j mem => ?_
    rw [parent?_insert rooted line valid, if_neg (Nat.ne_of_lt (List.mem_range.mp mem))]
  · by_cases above : i = parent
    · simp [parent?_insert rooted line valid, above]
    · simp [parent?_insert rooted line valid, above, Ne.symm above]

/-- Nothing stands below a place without a line. -/
theorem filter_parent?_size (rooted : o.Rooted) : ((List.range o.lines.size).filter fun j => o.parent? j = some o.lines.size) = [] := by
  refine List.filter_eq_nil_iff.mpr fun j mem above => ?_
  have inside := List.mem_range.mp mem
  have above : o.parent? j = some o.lines.size := of_decide_eq_true above
  by_cases first : j = 0
  · rw [first, rooted.root] at above
    contradiction
  · obtain ⟨p, parent, before⟩ := rooted.below j (by omega) inside
    rw [parent] at above
    have := Option.some.inj above
    omega

/-- A new line is the last child of the line it was put below. -/
theorem linked_insert (rooted : o.Rooted) (linked : o.Linked) {line : Line} (childless : line.children = [])
    {parent : Nat} (valid : parent < o.lines.size) : (o.insert line parent).Linked := by
  intro i
  rw [children_insert rooted line valid, filter_parent?_insert rooted line valid, childless]
  by_cases new : i = o.lines.size
  · rw [if_pos new, new, filter_parent?_size rooted, if_neg (Nat.ne_of_gt valid), List.append_nil]
  · rw [if_neg new, ← linked i]
    by_cases above : i = parent <;> simp [above]

theorem linked_foldl_put (rooted : o.Rooted) (linked : o.Linked) {lines : List Line}
    (childless : ∀ line ∈ lines, line.children = []) : (lines.foldl put o).Linked := by
  have both : (lines.foldl put o).Rooted ∧ (lines.foldl put o).Linked := by
    refine foldl_put_induct (motive := fun o => o.Rooted ∧ o.Linked) ⟨rooted, linked⟩ ?_
    intro o line mem ⟨rooted, linked⟩
    exact ⟨rooted_put rooted line, linked_insert rooted linked (childless line mem) (findParent_lt rooted line.indent)⟩
  exact both.2

theorem mem_children (linked : o.Linked) {i j : Nat} : j ∈ o.children i ↔ j < o.lines.size ∧ o.parent? j = some i := by
  simp [linked i]

theorem lt_of_mem_children (rooted : o.Rooted) (linked : o.Linked) {i j : Nat} (mem : j ∈ o.children i) :
    i < j ∧ j < o.lines.size := by
  obtain ⟨inside, parent⟩ := (mem_children linked).mp mem
  refine ⟨?_, inside⟩
  by_cases first : j = 0
  · rw [first, rooted.root] at parent
    contradiction
  · obtain ⟨p, above, before⟩ := rooted.below j (by omega) inside
    rw [parent] at above
    obtain rfl := Option.some.inj above
    exact before

/-! ## Lines before those below them -/

/-- The places of a line and the lines up to so many levels below it, each before those below it. -/
def preorderWithin (o : Outline) : (levels : Nat) → Nat → List Nat
  | 0, _ => []
  | levels + 1, i => i :: (o.children i).flatMap (preorderWithin o levels)

/-- The places of a line and of all lines below it, each before those below it. -/
def preorder (o : Outline) (i : Nat) : List Nat := o.preorderWithin o.lines.size i

/-- As many levels as there are lines behind the first one are as good as any number of levels. -/
private theorem preorderWithin_congr (rooted : o.Rooted) (linked : o.Linked) (m : Nat) :
    ∀ n i, i < o.lines.size → o.lines.size - i ≤ m → o.lines.size - i ≤ n → o.preorderWithin m i = o.preorderWithin n i := by
  induction m with
  | zero => exact fun n i inside enough _ => by omega
  | succ m ih =>
    intro n i inside enough enough'
    obtain ⟨n, rfl⟩ : ∃ n', n = n' + 1 := ⟨n - 1, by omega⟩
    simp only [preorderWithin, List.cons.injEq, true_and]
    refine List.flatMap_congr fun j mem => ?_
    obtain ⟨later, inside⟩ := lt_of_mem_children rooted linked mem
    exact ih n j inside (by omega) (by omega)

/-- Behind a line come the lines of its children, one child after the other. -/
theorem preorder_eq_cons (rooted : o.Rooted) (linked : o.Linked) {i : Nat} (inside : i < o.lines.size) :
    o.preorder i = i :: (o.children i).flatMap o.preorder := by
  obtain ⟨levels, size⟩ : ∃ levels, o.lines.size = levels + 1 := ⟨o.lines.size - 1, by omega⟩
  rw [preorder, size, preorderWithin]
  congr 1
  refine List.flatMap_congr fun j mem => ?_
  obtain ⟨later, inside⟩ := lt_of_mem_children rooted linked mem
  exact preorderWithin_congr rooted linked levels o.lines.size j inside (by omega) (by omega)

/-! ## Walks -/

/-- How many lines a line stands below. -/
def depth (o : Outline) (i : Nat) : Nat := (o.ancestors i).length

theorem depth_of_mem_children (rooted : o.Rooted) (linked : o.Linked) {i j : Nat} (child : j ∈ o.children i) :
    o.depth j = o.depth i + 1 := by
  obtain ⟨inside, parent⟩ := (mem_children linked).mp child
  rw [depth, ancestors_eq_cons rooted inside parent (lt_of_mem_children rooted linked child).1, List.length_cons, depth]

/-- With some room a walk comes to everything below its start that is less deep below it, up to the first
line that is not. -/
theorem walkWithin_eq (rooted : o.Rooted) (linked : o.Linked) (room : Nat) : ∀ i < o.lines.size,
    o.walkWithin room i = .upTo (fun j => o.depth j < o.depth i + room) (o.preorder i) := by
  induction room with
  | zero =>
    intro i inside
    rw [preorder_eq_cons rooted linked inside]
    simp [walkWithin, Walk.upTo]
  | succ room ih =>
    intro i inside
    have below : (o.children i).map (o.walkWithin room) =
        (o.children i).map fun c => .upTo (fun j => o.depth j < o.depth i + (room + 1)) (o.preorder c) := by
      refine List.map_congr_left fun c child => ?_
      rw [ih c (lt_of_mem_children rooted linked child).2, depth_of_mem_children rooted linked child, Nat.add_assoc,
        Nat.add_comm 1]
    have start : (⟨[i], false⟩ : Walk) = .upTo (fun j => o.depth j < o.depth i + (room + 1)) [i] := by
      simp [Walk.upTo]
    rw [walkWithin, below, start, Walk.upTo_flatMap, preorder_eq_cons rooted linked inside]
    rfl

/-- As far as the machine has room a walk comes to a line and to everything below it. -/
theorem walkFrom_eq [Machine] (rooted : o.Rooted) (linked : o.Linked) {i : Nat} (inside : i < o.lines.size) :
    o.walkFrom i = .upTo (fun j => o.depth j < o.depth i + Machine.walkRoom) (o.preorder i) :=
  walkWithin_eq rooted linked Machine.walkRoom i inside

/-! ## Lines below one another by their indents -/

/-- In the block of a line, a line that is indented no deeper than any between stands directly
below it. -/
private theorem parent?_of_outermost (nested : o.Nested) {i last k : Nat} (block : o.BlockEnd i last) (later : i < k)
    (earlier : k < last) (outermost : ∀ j, i < j → j < k → o.indent k ≤ o.indent j) : o.parent? k = some i := by
  obtain ⟨inside, deeper⟩ := block.deeper later earlier
  obtain ⟨p, parent, before⟩ := nested.rooted.below k (by omega) inside
  have nearest := nested.nearest k p inside parent
  have := nearest.last i later deeper
  by_cases same : p = i
  · rw [parent, same]
  · have := outermost p (by omega) before
    have := nearest.less
    omega

/-- In the block of a line everything stands below it, and so directly below no line before it. -/
private theorem le_parent_of_block (nested : o.Nested) {k last j p : Nat} (block : o.BlockEnd k last) (later : k < j)
    (earlier : j < last) (parent : o.parent? j = some p) : k ≤ p := by
  obtain ⟨inside, deeper⟩ := block.deeper later earlier
  exact (nested.nearest j p inside parent).last k later deeper

/-- From the end of one child's block to the end of the whole block, the children and the lines below
them are all lines as they are stored. -/
private theorem flatMap_preorder (nested : o.Nested) {i last : Nat} (block : o.BlockEnd i last)
    (blocks : ∀ k e, i < k → k < last → o.BlockEnd k e → o.preorder k = List.range' k (e - k)) (count k : Nat)
    (left : last - k = count) (later : i < k) (within : k ≤ last)
    (outermost : ∀ j, i < j → j < k → k < last → o.indent k ≤ o.indent j) :
    ((List.range' k (last - k)).filter fun j => o.parent? j = some i).flatMap o.preorder = List.range' k (last - k) := by
  induction count using Nat.strongRecOn generalizing k with
  | ind count ih =>
    by_cases ended : k = last
    · simp [ended]
    have earlier : k < last := by omega
    have parent := parent?_of_outermost nested block later earlier fun j after before => outermost j after before earlier
    obtain ⟨e, inner⟩ := exists_blockEnd o k
    have after := inner.after
    have upTo : e ≤ last := by
      refine inner.first last earlier fun inside => ?_
      have := block.ended inside
      have := (block.deeper later earlier).2
      omega
    have next : ((List.range' e (last - e)).filter fun j => o.parent? j = some i).flatMap o.preorder =
        List.range' e (last - e) := by
      refine ih (last - e) (by omega) e rfl (by omega) upTo fun j after before inside => ?_
      have ended := inner.ended (block.deeper (by omega) inside).1
      by_cases first : j < k
      · have := outermost j after first earlier
        omega
      · by_cases here : j = k
        · rw [here]
          exact ended
        · have := (inner.deeper (by omega) before).2
          omega
    have first : ((List.range' k (e - k)).filter fun j => o.parent? j = some i) = [k] := by
      obtain ⟨more, size⟩ : ∃ more, e - k = more + 1 := ⟨e - k - 1, by omega⟩
      rw [size, List.range'_succ, List.filter_cons_of_pos (by simpa using parent), List.filter_eq_nil_iff.mpr]
      intro j mem above
      have := List.mem_range'_1.mp mem
      have := le_parent_of_block nested inner (by omega) (by omega) (of_decide_eq_true above)
      omega
    have split : List.range' k (last - k) = List.range' k (e - k) ++ List.range' e (last - e) := by
      rw [show last - k = e - k + (last - e) by omega, ← List.range'_append_1, Nat.add_sub_cancel' (Nat.le_of_lt after)]
    rw [split, List.filter_append, List.flatMap_append, first, next, List.flatMap_singleton,
      blocks k e later earlier inner]

/-- A line and the lines below it are the lines of its block as they are stored. -/
theorem preorder_eq_range' (nested : o.Nested) (linked : o.Linked) {i last : Nat} (inside : i < o.lines.size)
    (block : o.BlockEnd i last) : o.preorder i = List.range' i (last - i) := by
  generalize behind : o.lines.size - i = count
  induction count using Nat.strongRecOn generalizing i last with
  | ind count ih =>
    have after := block.after
    have upTo := block.le_size inside
    have children : o.children i = (List.range' (i + 1) (last - (i + 1))).filter fun j => o.parent? j = some i := by
      rw [← below_eq_range' nested inside block, below, List.filter_filter, linked i]
      refine List.filter_congr fun j mem => ?_
      by_cases parent : o.parent? j = some i
      · have below : j ∈ o.children i := (mem_children linked).mpr ⟨List.mem_range.mp mem, parent⟩
        obtain ⟨later, inside⟩ := lt_of_mem_children nested.rooted linked below
        simp [parent, ancestors_eq_cons nested.rooted inside parent later]
      · simp [parent]
    obtain ⟨more, size⟩ : ∃ more, last - i = more + 1 := ⟨last - i - 1, by omega⟩
    rw [preorder_eq_cons nested.rooted linked inside, children, flatMap_preorder nested block _ _ _ rfl (by omega) (by omega),
      size, List.range'_succ, show last - (i + 1) = more by omega]
    · intro j later before _
      omega
    · intro k e later before inner
      exact ih (o.lines.size - k) (by omega) (by omega) inner rfl

/-- The root and the lines below it are all lines as they are stored. -/
theorem preorder_root (nested : o.Nested) (linked : o.Linked) : o.preorder 0 = List.range o.lines.size := by
  rw [preorder_eq_range' nested linked nested.rooted.nonempty (blockEnd_root nested), List.range_eq_range', Nat.sub_zero]

/-- A line stands directly below the root when no line before it is indented less. -/
theorem parent?_eq_root_iff (nested : o.Nested) {i : Nat} (later : 0 < i) (inside : i < o.lines.size) :
    o.parent? i = some 0 ↔ ∀ j, 0 < j → j < i → o.indent i ≤ o.indent j := by
  constructor
  · intro parent j after before
    refine Int.not_lt.mp fun less => ?_
    have := (nested.nearest i 0 inside parent).last j before less
    omega
  · exact parent?_of_outermost nested (blockEnd_root nested) later inside

end OutlineCalc.Outline

namespace OutlineCalc.Row

variable {o : Outline}

theorem linesAt_range (o : Outline) : o.linesAt (List.range o.lines.size) = o.lines.toList := by
  have seen : (List.range o.lines.size).map (o.lines[·]?) = o.lines.toList.map some :=
    List.ext_getElem (by simp) fun i inside _ => by simp
  calc o.linesAt (List.range o.lines.size) = ((List.range o.lines.size).map (o.lines[·]?)).filterMap id := by
        rw [Outline.linesAt, List.filterMap_map]
        rfl
    _ = o.lines.toList := by
        rw [seen, List.filterMap_map]
        exact List.filterMap_some

section
variable [Machine]

/-- A walk that comes to all lines shows all but the first above the total, in the order they are stored. -/
theorem linesOf_eq_drop (rooted : o.Rooted) (whole : (o.walkFrom 0).places = List.range o.lines.size) :
    linesOf o = o.lines.toList.drop 1 := by
  have seen : ∀ i line, o.lines.toList[i]? = some line → line.isRoot = (o.parent? i).isNone := by
    intro i line here
    rw [Array.getElem?_toList] at here
    simp [Line.isRoot, Outline.parent?, here]
  rw [linesOf, whole, linesAt_range]
  cases stored : o.lines.toList with
  | nil => rfl
  | cons first rest =>
    have size : o.lines.size = rest.length + 1 := by
      rw [← Array.length_toList, stored, List.length_cons]
    rw [stored] at seen
    have isRoot : first.isRoot = true := by
      rw [seen 0 first rfl, rooted.root]
      rfl
    rw [List.filter_cons_of_neg (by simp [isRoot]), List.drop_one, List.tail_cons, List.filter_eq_self]
    intro line mem
    obtain ⟨i, inside, rfl⟩ := List.getElem_of_mem mem
    obtain ⟨p, parent, _⟩ := rooted.below (i + 1) (by omega) (by omega)
    simp [seen (i + 1) rest[i] (by simp), parent]

/-- Lines are refused for the places that results are shown to, or shown each as a row of its own. -/
theorem mapM_ofLine (store : Store) (lines : List Line) :
    (∃ fault, Amount.placesFault? store.fractionDigits = some fault ∧ lines.mapM (ofLine store) = .error (.places fault)) ∨
      ∃ rows, lines.mapM (ofLine store) = .ok rows ∧
        rows.map (fun row => (row.index, row.text)) = lines.map fun line => (line.row, line.source) := by
  induction lines with
  | nil => exact .inr ⟨[], rfl, rfl⟩
  | cons line lines ih =>
    cases shown : store.format line.result with
    | error fault =>
      have refused : Amount.placesFault? store.fractionDigits = some fault := by
        rw [Store.format, Amount.textTo] at shown
        split at shown
        · split at shown <;> simp_all
        · contradiction
      refine .inl ⟨fault, refused, ?_⟩
      rw [List.mapM_cons, ofLine, resultText, shown]
      rfl
    | ok text =>
      have row : ∃ result, ofLine store line = .ok ⟨line.row, line.source, result, line.fault.map LineFault.message⟩ := by
        rw [ofLine, resultText, shown]
        exact ⟨_, rfl⟩
      obtain ⟨result, row⟩ := row
      obtain ⟨fault, refused, failed⟩ | ⟨rows, given, texts⟩ := ih
      · refine .inl ⟨fault, refused, ?_⟩
        rw [List.mapM_cons, row, failed]
        rfl
      · refine .inr ⟨⟨line.row, line.source, result, line.fault.map LineFault.message⟩ :: rows, ?_, ?_⟩
        · rw [List.mapM_cons, row, given]
          rfl
        · rw [List.map_cons, texts, List.map_cons]

/-- An outline that a walk comes through as it is stored has its lines for its rows, and then the total. -/
theorem ofOutline_of_whole (rooted : o.Rooted) (store : Store) (whole : o.walkFrom 0 = ⟨List.range o.lines.size, false⟩) :
    (∃ fault, Amount.placesFault? store.fractionDigits = some fault ∧ ofOutline o store = .error (.places fault)) ∨
      (ofOutline o store).map (·.map fun row => (row.index, row.text)) =
        .ok ((o.lines.toList.drop 1 ++ totalOf o).map fun line => (line.row, line.source)) := by
  rw [ofOutline, linesOf_eq_drop rooted (congrArg Walk.places whole), whole]
  obtain ⟨fault, refused, failed⟩ | ⟨rows, given, texts⟩ := mapM_ofLine store (o.lines.toList.drop 1)
  · rw [failed]
    exact .inl ⟨fault, refused, rfl⟩
  rw [given]
  obtain ⟨fault, refused, failed⟩ | ⟨total, given', texts'⟩ := mapM_ofLine store (totalOf o)
  · rw [failed]
    exact .inl ⟨fault, refused, rfl⟩
  · rw [given', List.map_append, ← texts, ← texts']
    refine .inr (congrArg Except.ok (List.map_append.trans ?_))
    rw [List.map_map]
    rfl

/-- An outline that is deeper than a walk can go has no rows. -/
theorem ofOutline_of_isCutOff (store : Store) (cut : (o.walkFrom 0).isCutOff = true) :
    (∃ fault, Amount.placesFault? store.fractionDigits = some fault ∧ ofOutline o store = .error (.places fault)) ∨
      ofOutline o store = .error .tooDeep := by
  rw [ofOutline, cut]
  obtain ⟨fault, refused, failed⟩ | ⟨rows, given, _⟩ := mapM_ofLine store (linesOf o)
  · rw [failed]
    exact .inl ⟨fault, refused, rfl⟩
  · rw [given]
    exact .inr rfl

end

end OutlineCalc.Row

namespace OutlineCalc.Document

open Outline

/-- How many rows are indented no deeper than any row before them. -/
def outermost (rows : List String) : Nat :=
  (List.finRange rows.length).countP fun i => ∀ j < i, leadingIndent rows[i] ≤ leadingIndent rows[j]

section
variable [Machine]

theorem children_of_mem_calculated {rows : List String} {row : Nat} {store : Store} :
    ∀ line ∈ calculated rows row store, line.children = [] := by
  induction rows generalizing row store with
  | nil => simp [calculated]
  | cons source rows ih =>
    intro line mem
    rcases List.mem_cons.mp mem with rfl | mem
    · rfl
    · exact ih line mem

theorem numbered_calculated (rows : List String) (row : Nat) (store : Store) :
    (calculated rows row store).map (fun line => (line.row, line.source)) =
      (rows.zipIdx row).map fun (source, number) => ((number : Int), source) := by
  induction rows generalizing row store with
  | nil => rfl
  | cons source rows ih =>
    rw [calculated, List.map_cons, ih, List.zipIdx_cons, List.map_cons]
    rfl

/-- A built outline holds the total line and then the rows that are not blank, with their numbers. -/
theorem numbered_build (document : String) (store : Store) :
    (build document store).1.lines.toList.map (fun line => (line.row, line.source)) =
      (0, "Total") :: ((filledRows document).zipIdx 1).map fun (text, number) => ((number : Int), text) := by
  have own := congrArg (List.map fun line => (line.row, line.source)) (own_build document store)
  rw [← numbered_calculated (filledRows document) 1 store.clear]
  simpa [Line.own, root, Function.comp_def] using own

theorem linked_build (document : String) (store : Store) : (build document store).1.Linked := by
  rw [build_eq]
  exact linked_foldl_put rooted_empty linked_empty children_of_mem_calculated

/-- The rows on the top level are those that are indented no deeper than any row before them. -/
theorem length_children_root (document : String) (store : Store) :
    ((build document store).1.children 0).length = outermost (filledRows document) := by
  have nested := nested_build document store
  have size := size_build document store
  rw [linked_build document store 0, size, List.range_succ_eq_map, List.filter_cons_of_neg (by simp [nested.rooted.root]),
    ← List.countP_eq_length_filter, List.countP_map, ← List.map_coe_finRange_eq_range, List.countP_map, outermost]
  refine List.countP_congr fun i _ => ?_
  have inside : i.val + 1 < (build document store).1.lines.size := by omega
  simp only [Function.comp_apply, decide_eq_true_eq, Nat.succ_eq_add_one]
  rw [parent?_eq_root_iff nested (Nat.succ_pos _) inside, indent_build document store i]
  constructor
  · intro least j before
    have := least (j.val + 1) (Nat.succ_pos _) (Nat.succ_lt_succ before)
    rw [indent_build document store j] at this
    exact Int.ofNat_le.mp this
  · intro least j later before
    obtain ⟨j, rfl⟩ : ∃ j', j = j' + 1 := ⟨j - 1, by omega⟩
    rw [indent_build document store ⟨j, by omega⟩]
    exact Int.ofNat_le.mpr (least ⟨j, by omega⟩ (Fin.lt_def.mpr (Nat.lt_of_succ_lt_succ before)))

/-- A document is shown line by line as it stands: a walk through its outline comes to the root and
then to the rows in their order, up to the first row that the machine has no room for. If there is
none, each row that is not blank is shown once with its number and its text, and the total comes last,
unless there is exactly one row that is indented no deeper than any row before it; and if there is one,
nothing is shown. Nothing is shown either if a result cannot be shown to the places that are asked for. -/
theorem rows_build (document : String) (store shown : Store) :
    let o := (build document store).1
    let n := (filledRows document).length
    o.walkFrom 0 = .upTo (fun i => o.depth i < Machine.walkRoom) (List.range (n + 1)) ∧
      ((∃ fault, Amount.placesFault? shown.fractionDigits = some fault ∧ Row.ofOutline o shown = .error (.places fault)) ∨
        (Row.ofOutline o shown).map (·.map fun row => (row.index, row.text)) =
          if ∀ i ≤ n, o.depth i < Machine.walkRoom then
            .ok (((filledRows document).zipIdx 1).map (fun (text, number) => ((number : Int), text)) ++
              if outermost (filledRows document) = 1 then [] else [(0, "Total")])
          else .error .tooDeep) := by
  intro o n
  have nested : o.Nested := nested_build document store
  have linked : o.Linked := linked_build document store
  have size : o.lines.size = n + 1 := size_build document store
  have walk : o.walkFrom 0 = .upTo (fun i => o.depth i < Machine.walkRoom) (List.range (n + 1)) := by
    have top : o.depth 0 = 0 := congrArg List.length (ancestors_zero nested.rooted)
    rw [walkFrom_eq nested.rooted linked nested.rooted.nonempty, preorder_root nested linked, size, top]
    simp only [Nat.zero_add]
  refine ⟨walk, ?_⟩
  split
  case isTrue room =>
    have whole : o.walkFrom 0 = ⟨List.range o.lines.size, false⟩ := by
      rw [walk, size]
      refine Walk.upTo_of_forall fun i mem => decide_eq_true (room i ?_)
      exact Nat.le_of_lt_succ (List.mem_range.mp mem)
    have stored : o.lines.toList.map (fun line => (line.row, line.source)) = _ := numbered_build document store
    have total : (o.linesAt [0]).map (fun line => (line.row, line.source)) = [(0, "Total")] := by
      have first := congrArg List.head? stored
      rw [List.head?_map, List.head?_eq_getElem?, Array.getElem?_toList] at first
      obtain ⟨line, here, shownAs⟩ := Option.map_eq_some_iff.mp first
      simpa [linesAt, here] using shownAs
    refine (Row.ofOutline_of_whole nested.rooted shown whole).imp_right fun given => given.trans ?_
    rw [List.map_append, List.map_drop, stored, List.drop_one, List.tail_cons, Row.totalOf,
      length_children_root document store]
    split
    · rfl
    · rw [total]
  case isFalse deep =>
    obtain ⟨i, deep⟩ := not_forall.mp deep
    obtain ⟨inside, deep⟩ := Classical.not_imp.mp deep
    have cut : (o.walkFrom 0).isCutOff = true := by
      rw [walk]
      exact List.any_eq_true.mpr ⟨i, List.mem_range.mpr (Nat.lt_succ_of_le inside), by simpa using deep⟩
    refine (Row.ofOutline_of_isCutOff shown cut).imp_right fun given => ?_
    rw [given]
    rfl

end

end OutlineCalc.Document
