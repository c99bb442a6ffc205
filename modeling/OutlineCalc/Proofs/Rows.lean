import OutlineCalc.Document
import OutlineCalc.Proofs.Insertion

/-!
Building an outline in two steps that do not depend on each other: the rows of a document are
calculated one after the other, and then each is put after the last line, below the one that its
indent tells.
-/

namespace OutlineCalc

/-- What a line brings along, and no other line that is put in changes. -/
def Line.own (line : Line) : Line := { line with result := 0, marked := false, parent := none, children := [] }

/-- Lines that bring along the same agree in every field that no other line changes. -/
theorem Line.map_eq_of_own {α : Type} (field : Line → α) (kept : ∀ line : Line, field line.own = field line)
    (lines lines' : List Line) (own : lines.map Line.own = lines'.map Line.own) : lines.map field = lines'.map field := by
  have same := congrArg (List.map field) own
  simpa only [List.map_map, Function.comp_def, kept] using same

namespace Outline

variable {o : Outline}

/-- Puts a line after the last one, below the line that its indent tells. -/
def put (o : Outline) (line : Line) : Outline := o.insert line (o.findParent (o.lines.size - 1) line.indent)

theorem size_put (o : Outline) (line : Line) : (o.put line).lines.size = o.lines.size + 1 := size_insert o line _

theorem size_foldl_put (o : Outline) (lines : List Line) :
    (lines.foldl put o).lines.size = o.lines.size + lines.length := by
  induction lines generalizing o with
  | nil => rfl
  | cons line lines ih =>
    rw [List.foldl_cons, ih, size_put, List.length_cons]
    omega

/-- A place is looked for in the line itself first, and then in what stands above it. -/
theorem findParent_eq (o : Outline) (current : Nat) (indent : Int) :
    o.findParent current indent = ((current :: o.ancestors current).find? (o.isLeftOf indent)).getD 0 := by
  rw [findParent, List.find?_cons]
  cases o.isLeftOf indent current <;> rfl

/-- The line to put a next one below is always there. -/
theorem findParent_lt (rooted : o.Rooted) (indent : Int) : o.findParent (o.lines.size - 1) indent < o.lines.size := by
  have nonempty := rooted.nonempty
  rw [findParent_eq]
  cases found : ((o.lines.size - 1) :: o.ancestors (o.lines.size - 1)).find? (o.isLeftOf indent) with
  | none => exact nonempty
  | some place =>
    have := le_of_mem_cons_ancestors rooted (by omega) (List.mem_of_find?_eq_some found)
    rw [Option.getD_some]
    omega

/-- Whatever a line brings along is still there after another is put in. -/
theorem getElem?_map_insert {α : Type} (field : Line → α) (kept : ∀ line : Line, field line.own = field line)
    (rooted : o.Rooted) (line : Line) {parent : Nat} (valid : parent < o.lines.size) (i : Nat) :
    (o.insert line parent).lines[i]?.map field = if i = o.lines.size then some (field line) else o.lines[i]?.map field := by
  have same : ∀ above below : Line, above.own = below.own → field above = field below := by
    intro above below own
    rw [← kept above, own, kept below]
  rw [getElem?_insert rooted line valid]
  by_cases new : i = o.lines.size
  · rw [if_pos new, if_pos new]
    exact congrArg some (same _ _ rfl)
  · rw [if_neg new, if_neg new]
    cases o.lines[i]? with
    | none => rfl
    | some above => exact congrArg some (same _ _ rfl)

theorem own_insert (rooted : o.Rooted) (line : Line) {parent : Nat} (valid : parent < o.lines.size) :
    (o.insert line parent).lines.toList.map Line.own = o.lines.toList.map Line.own ++ [line.own] := by
  refine List.ext_getElem? fun i => ?_
  rw [List.getElem?_map, Array.getElem?_toList, getElem?_map_insert Line.own (fun _ => rfl) rooted line valid]
  by_cases inside : i < o.lines.size
  · rw [if_neg (Nat.ne_of_lt inside), List.getElem?_append_left (by simpa using inside), List.getElem?_map,
      Array.getElem?_toList]
  · rw [List.getElem?_append_right (by simp; omega), Array.getElem?_eq_none (by omega), List.length_map,
      Array.length_toList]
    by_cases new : i = o.lines.size
    · simp [new]
    · obtain ⟨beyond, rest⟩ : ∃ beyond, i - o.lines.size = beyond + 1 := ⟨i - o.lines.size - 1, by omega⟩
      simp [new, rest]

theorem rooted_put (rooted : o.Rooted) (line : Line) : (o.put line).Rooted :=
  rooted_insert rooted line (findParent_lt rooted line.indent)

/-- What the lines bring along is what an outline keeps of them, in the order they were put in. -/
theorem own_foldl_put (rooted : o.Rooted) (lines : List Line) :
    (lines.foldl put o).lines.toList.map Line.own = o.lines.toList.map Line.own ++ lines.map Line.own := by
  induction lines generalizing o with
  | nil => simp
  | cons line lines ih =>
    rw [List.foldl_cons, ih (rooted_put rooted line), put, own_insert rooted line (findParent_lt rooted line.indent)]
    simp

/-- Where a line stands is settled when it is put in. -/
theorem parent?_foldl_put (rooted : o.Rooted) (lines : List Line) {i : Nat} (inside : i < o.lines.size) :
    (lines.foldl put o).parent? i = o.parent? i := by
  induction lines generalizing o with
  | nil => rfl
  | cons line lines ih =>
    rw [List.foldl_cons, ih (rooted_put rooted line) (by rw [size_put]; omega), put,
      parent?_insert rooted line (findParent_lt rooted line.indent), if_neg (Nat.ne_of_lt inside)]

/-- What holds at the start and is kept by every line that is put in holds in the end. -/
theorem foldl_put_induct {motive : Outline → Prop} {lines : List Line} (start : motive o)
    (step : ∀ o, ∀ line ∈ lines, motive o → motive (o.put line)) : motive (lines.foldl put o) := by
  induction lines generalizing o with
  | nil => exact start
  | cons line lines ih =>
    exact ih (step o line List.mem_cons_self start) fun o other mem => step o other (List.mem_cons_of_mem _ mem)

end Outline

namespace Document

variable [Machine]

@[simp] theorem indent_evaluateLine (source : String) (row : Int) (store : Store) :
    (evaluateLine source row store).1.indent = leadingIndent source := rfl

/-- The lines of some rows, the first of which has the number `row`, each calculated over what the
rows before it bound. -/
def calculated : List String → (row : Nat) → Store → List Line
  | [], _, _ => []
  | source :: more, row, store =>
    (evaluateLine source row store).1 :: calculated more (row + 1) (evaluateLine source row store).2

/-- A calculated row is indented as its text says, and its result is at first its own value. -/
theorem of_mem_calculated {rows : List String} {row : Nat} {store : Store} :
    ∀ line ∈ calculated rows row store, 0 ≤ line.indent ∧ line.result = line.value := by
  induction rows generalizing row store with
  | nil => simp [calculated]
  | cons source rows ih =>
    intro line mem
    rcases List.mem_cons.mp mem with rfl | mem
    · exact ⟨by simp, rfl⟩
    · exact ih line mem

theorem length_calculated (rows : List String) (row : Nat) (store : Store) :
    (calculated rows row store).length = rows.length := by
  induction rows generalizing row store with
  | nil => rfl
  | cons source rows ih => rw [calculated, List.length_cons, ih, List.length_cons]

theorem indents_calculated (rows : List String) (row : Nat) (store : Store) :
    (calculated rows row store).map (·.indent) = rows.map fun source => (leadingIndent source : Int) := by
  induction rows generalizing row store with
  | nil => rfl
  | cons source rows ih => simp [calculated, ih]

theorem outline_add (p : Progress) (source : String) (last : p.current + 1 = p.outline.lines.size) :
    (p.add source).outline = p.outline.put (evaluateLine source p.outline.lines.size p.store).1 := by
  have current : p.current = p.outline.lines.size - 1 := by omega
  simp only [Progress.add, Outline.put, current]

theorem last_add (p : Progress) (source : String) : (p.add source).current + 1 = (p.add source).outline.lines.size :=
  (Outline.size_insert p.outline _ _).symm

/-- The line that was put in last is the current one. -/
theorem last_foldl_add (rows : List String) {p : Progress} (last : p.current + 1 = p.outline.lines.size) :
    (rows.foldl Progress.add p).current + 1 = (rows.foldl Progress.add p).outline.lines.size := by
  induction rows generalizing p with
  | nil => exact last
  | cons source rows ih => exact ih (last_add p source)

/-- After some rows the outline is that of their calculated lines. -/
theorem outline_foldl_add (rows : List String) (p : Progress) (last : p.current + 1 = p.outline.lines.size) :
    (rows.foldl Progress.add p).outline = (calculated rows p.outline.lines.size p.store).foldl Outline.put p.outline := by
  induction rows generalizing p with
  | nil => rfl
  | cons source rows ih =>
    have added := outline_add p source last
    have size : (p.add source).outline.lines.size = p.outline.lines.size + 1 := by
      rw [added, Outline.size_put]
    rw [List.foldl_cons, ih (p.add source) (last_add p source), size, added]
    rfl

/-- The outline of a document is that of its calculated rows. -/
theorem build_eq (document : String) (store : Store) :
    (build document store).1 = (calculated (filledRows document) 1 store.clear).foldl Outline.put .empty :=
  outline_foldl_add (filledRows document) (.start store) rfl

/-- The lines of a document's outline are the root and its calculated rows, in their order. -/
theorem own_build (document : String) (store : Store) :
    (build document store).1.lines.toList.map Line.own =
      Outline.root.own :: (calculated (filledRows document) 1 store.clear).map Line.own := by
  rw [build_eq, Outline.own_foldl_put Outline.rooted_empty]
  rfl

end Document

end OutlineCalc
