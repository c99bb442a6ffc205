import OutlineCalc.Proofs.Depth
import OutlineCalc.Proofs.Layout
import OutlineCalc.Proofs.Preorder
import OutlineCalc.Proofs.RowReferences

/-!
What a row can do to the others when it cannot be calculated. It counts as zero and has bound nothing
but its own name, and so the rest of the document is the same as with a row that says nothing at all in
its place.
-/

namespace OutlineCalc

/-- Whether a line has the number, the value, the result and the place of another, and, unless `number` is
its number, also its text, its last word and its fault. -/
structure Line.SameBut (number : Int) (line line' : Line) : Prop extends Line.Fits id line line' where
  row : line'.row = line.row
  others : line.row ≠ number → line'.source = line.source ∧ line'.word = line.word ∧ line'.fault = line.fault

theorem Line.SameBut.refl (number : Int) (line : Line) : SameBut number line line :=
  ⟨⟨rfl, rfl, rfl, rfl, rfl⟩, rfl, fun _ => ⟨rfl, rfl, rfl⟩⟩

theorem Line.likeness_sameBut (number : Int) : Likeness id (SameBut number) where
  fits same := same.toFits
  hung same _ := ⟨⟨same.indent, same.value, same.result, rfl, same.children⟩, same.row, same.others⟩
  changed same _ _ := ⟨⟨same.indent, same.value, rfl, same.parent, rfl⟩, same.row, same.others⟩
  marked same _ := ⟨⟨same.indent, same.value, same.result, same.parent, same.children⟩, same.row, same.others⟩

namespace Eval

/-- An expression without assignments leaves the store as it is, whether it fails or not. -/
theorem store_run_of_unassigned [Machine] {tree : Expr} (unassigned : ∀ name, .assign name ∉ tree.postorder) (store : Store) :
    (run (some tree) store).2 = store := by
  obtain ⟨done, executes⟩ := exists_executes tree store
  obtain ⟨_, _, _, performs⟩ := executes.performs
  have none : assigned done = [] :=
    List.eq_nil_iff_forall_not_mem.mpr fun (name, value) => executes.not_mem_assigned (unassigned name) value
  have kept := performs.store_eq
  rwa [none] at kept

theorem value_run_of_fault [Machine] {tree : Option Expr} {store : Store} (fails : (run tree store).1.fault ≠ none) :
    (run tree store).1.value = .number 0 := by
  simp only [run] at fails ⊢
  cases outcome : expr tree store with
  | ok value after => simp [outcome] at fails
  | error fault after => rfl

end Eval

namespace Document

/-! ## Replacing a row -/

/-- Rows with a text in place of the one that is not blank and has `k` such rows before it. -/
def replaced (text : List Char) : (k : Nat) → List (List Char) → List (List Char)
  | _, [] => []
  | k, row :: rows =>
    if row.all Blank.isBlank then row :: replaced text k rows
    else match k with
      | 0 => text :: rows
      | k + 1 => row :: replaced text k rows

/-- A document with a text in place of the row that is not blank and has `k` such rows before it. -/
def withRow (document : String) (k : Nat) (text : List Char) : String :=
  String.ofList (List.intercalate ['\n'] (replaced text k (rows document.toList)))

theorem length_replaced (text : List Char) (k : Nat) (rows : List (List Char)) : (replaced text k rows).length = rows.length := by
  fun_induction replaced text k rows <;> simp_all

theorem mem_replaced {text row : List Char} {k : Nat} {rows : List (List Char)} (mem : row ∈ replaced text k rows) :
    row = text ∨ row ∈ rows := by
  fun_induction replaced text k rows <;> grind

theorem filter_replaced {text : List Char} (filled : text.all Blank.isBlank = false) (k : Nat) (rows : List (List Char)) :
    (replaced text k rows).filter (!·.all Blank.isBlank) = (rows.filter (!·.all Blank.isBlank)).set k text := by
  fun_induction replaced text k rows with
  | case1 => rfl
  | case2 k row rows blank ih => simp [blank, ih]
  | case3 row rows blank => simp [blank, filled]
  | case4 row rows blank k ih => simp [blank, ih]

theorem filledRows_withRow {text : List Char} (filled : text.all Blank.isBlank = false) (free : '\n' ∉ text) (document : String)
    (k : Nat) : filledRows (withRow document k text) = (filledRows document).set k (String.ofList text) := by
  have nonempty : replaced text k (rows document.toList) ≠ [] := by
    rw [← List.length_pos_iff, length_replaced, List.length_pos_iff]
    exact Pieces.between_ne_nil '\n' _
  have pieces : rows (withRow document k text).toList = replaced text k (rows document.toList) := by
    rw [withRow, String.toList_ofList]
    refine Pieces.between_intercalate nonempty fun row mem => ?_
    rcases mem_replaced mem with rfl | mem
    · exact free
    · exact Pieces.not_mem_of_mem_between mem
  rw [filledRows, pieces, filter_replaced filled, List.map_set]
  rfl

/-! ## Rows that cannot be calculated -/

/-- Whether a row is nested too deep to be read, or has an expression without assignments that fails over
a store. -/
inductive Malformed [Machine] (row : String) (store : Store) : Prop
  | nested (deep : Calculation.tree row = .error .tooDeep)
  | failing {tree : Expr} (read : Calculation.tree row = .ok (some tree)) (unassigned : ∀ name, .assign name ∉ tree.postorder)
      (fails : (Eval.run (some tree) store).1.fault ≠ none)

/-- A row that cannot be calculated is zero, has a fault, and binds nothing. -/
theorem Malformed.run [Machine] {row : String} {store : Store} (malformed : Malformed row store) :
    (Calculation.run row store).1.value = .number 0 ∧ (Calculation.run row store).1.fault? ≠ none ∧
      (Calculation.run row store).2 = store := by
  cases malformed with
  | nested deep =>
    rw [Calculation.run_of_fault deep]
    exact ⟨rfl, nofun, rfl⟩
  | failing read unassigned fails =>
    rw [Calculation.run_of_tree read]
    refine ⟨Eval.value_run_of_fault fails, ?_, Eval.store_run_of_unassigned unassigned store⟩
    obtain ⟨fault, failed⟩ := Option.ne_none_iff_exists'.mp fails
    rw [Calculation.fault?, failed]
    exact nofun

/-- A closing parenthesis, indented like a row. -/
def closed (row : String) : List Char := List.replicate (leadingIndent row) ' ' ++ [')']

theorem filled_closed (row : String) : (closed row).all Blank.isBlank = false := by
  rw [closed, List.all_append, show [')'].all Blank.isBlank = false by decide, Bool.and_false]

theorem newline_not_mem_closed (row : String) : '\n' ∉ closed row := by
  refine List.not_mem_append (fun mem => ?_) (by decide)
  exact absurd (List.eq_of_mem_replicate mem) (by decide)

theorem leadingIndent_closed (row : String) : leadingIndent (String.ofList (closed row)) = leadingIndent row :=
  leadingIndent_replicate_append _ (by decide)

/-- A closing parenthesis says nothing: it is zero and binds nothing. -/
theorem run_closed [Machine] (row : String) (store : Store) :
    Calculation.run (String.ofList (closed row)) store = (⟨.number 0, none, none, none⟩, store) := by
  have absent (calls : Nat) : Parse.Rule.expression.read calls [.mark .rightParen, .endOfLine] = .absent :=
    Grammar.read_of_shallow rfl
  have nothing : Parse.line [.mark .rightParen, .endOfLine] = .ok none := by
    simp [Parse.line, Parse.leading, Parse.trailing, absent, Parse.Outcome.node?]
  have scanned : Scan.line (String.ofList (closed row)) = ⟨[.mark .rightParen, .endOfLine], none⟩ := by
    rw [Scan.line, String.toList_ofList, closed, chars_replicate_append]
    decide +kernel
  simp only [Calculation.run, scanned, nothing]
  rfl

/-! ## The rest of the document -/

section
variable [Machine]

/-- A row that cannot be calculated or a closing parenthesis in its place: all else comes to the same. -/
theorem Malformed.alike {before : List String} {row : String} {store : Store}
    (malformed : Malformed row (storeAfter before store)) (after : List String) :
    ((before ++ row :: after).foldl Progress.add (.start store)).Alike (Line.SameBut (before.length + 1 : Nat))
      ((before ++ String.ofList (closed row) :: after).foldl Progress.add (.start store)) := by
  have likeness := Line.likeness_sameBut (before.length + 1 : Nat)
  rw [List.foldl_append, List.foldl_append, List.foldl_cons, List.foldl_cons]
  have size := size_rows before store
  have rooted := (nested_rows before store).rooted
  have last := last_foldl_add before (show (Progress.start store).current + 1 = (Progress.start store).outline.lines.size from rfl)
  unfold storeAfter at malformed
  generalize before.foldl Progress.add (.start store) = p at malformed size rooted last ⊢
  have start : p.Alike (Line.SameBut (before.length + 1 : Nat)) p := Progress.alike_self fun line _ => .refl _ line
  obtain ⟨zero, _, kept⟩ := malformed.run
  -- The two runs part at this row only, and by its text only: neither value nor store tells them apart.
  have amount : (evaluateLine (String.ofList (closed row)) p.outline.lines.size p.store).1.value =
      (evaluateLine row p.outline.lines.size p.store).1.value := by
    simp only [evaluateLine, run_closed, zero]
  have line : Line.SameBut (before.length + 1 : Nat) (evaluateLine row p.outline.lines.size p.store).1
      (evaluateLine (String.ofList (closed row)) p.outline.lines.size p.store).1 := by
    refine ⟨⟨?_, amount, amount, rfl, rfl⟩, rfl, fun other => absurd (congrArg Int.ofNat size) other⟩
    rw [indent_evaluateLine, indent_evaluateLine, leadingIndent_closed, id]
  have bound : (evaluateLine (String.ofList (closed row)) p.outline.lines.size p.store).2 =
      (evaluateLine row p.outline.lines.size p.store).2 := by
    simp only [evaluateLine, run_closed, zero, kept]
  have added := start.add likeness (fun _ _ => .rfl) rooted last line bound
  refine added.foldl_add likeness (fun _ _ => .rfl) ?_ (last_add p row) (List.forall₂_same.mpr fun _ _ _ _ => ⟨.refl _ _, rfl⟩)
  rw [outline_add p row last]
  exact Outline.rooted_put rooted _

/-- The line at a place has the place for its number. -/
theorem row_build (document : String) (store : Store) {i : Nat} {line : Line}
    (here : (build document store).1.lines[i]? = some line) : line.row = i := by
  have numbers := Line.map_eq_of_own (·.row) (fun _ => rfl) _ (Outline.root :: calculated (filledRows document) 1 store.clear)
    (own_build document store)
  have counted := congrArg (List.map Prod.fst) (numbered_calculated (filledRows document) 1 store.clear)
  simp only [List.map_map, Function.comp_def] at counted
  rw [List.map_cons, counted] at numbers
  have row := congrArg (·[i]?) numbers
  simp only [List.getElem?_map, Array.getElem?_toList, here] at row
  cases i with
  | zero => exact Option.some.inj row
  | succ i =>
    rw [List.getElem?_cons_succ, List.getElem?_map, List.getElem?_zipIdx, Option.map_map, Option.map_some] at row
    obtain ⟨_, _, number⟩ := Option.map_eq_some_iff.mp row.symm
    rw [← number]
    simp [Nat.add_comm]

/-- The same with a document and the row that cannot be calculated in it. -/
theorem Malformed.alike_build {document : String} {store : Store} {k : Fin (filledRows document).length}
    (malformed : Malformed ((filledRows document).get k) (storeAfter ((filledRows document).take k.val) store)) :
    (build document store).1.Alike (Line.SameBut (k.val + 1 : Nat))
        (build (withRow document k (closed ((filledRows document).get k))) store).1 ∧
      (build (withRow document k (closed ((filledRows document).get k))) store).2 = (build document store).2 := by
  have split : (filledRows document).take k ++ (filledRows document).get k :: (filledRows document).drop (k + 1) =
      filledRows document := by
    rw [List.get_eq_getElem, List.getElem_cons_drop, List.take_append_drop]
  have alike := malformed.alike ((filledRows document).drop (k + 1))
  rw [split, List.length_take_of_le (Nat.le_of_lt k.isLt)] at alike
  simp only [build, filledRows_withRow (filled_closed _) (newline_not_mem_closed _), List.set_eq_take_append_cons_drop,
    if_pos k.isLt]
  exact ⟨alike.outline, alike.store⟩

/-- A row that cannot be calculated is contained. It is zero and has a fault, and when it is replaced by a
closing parenthesis every row keeps its value, its result and its place, every other row keeps its last
word and its fault, and the total and what is bound in the end stay as they are. -/
theorem contained_build (document : String) (store : Store) (k : Fin (filledRows document).length)
    (malformed : Malformed ((filledRows document).get k) (storeAfter ((filledRows document).take k.val) store)) :
    let document' := withRow document k (closed ((filledRows document).get k))
    let o := (build document store).1
    let o' := (build document' store).1
    filledRows document' = (filledRows document).set k (String.ofList (closed ((filledRows document).get k))) ∧
      (∃ line, o.lines[k.val + 1]? = some line ∧ line.value = 0 ∧ line.fault ≠ none) ∧
      o'.lines.size = o.lines.size ∧
      (∀ (i : Nat) line line', o.lines[i]? = some line → o'.lines[i]? = some line' →
        line'.value = line.value ∧ line'.result = line.result ∧ line'.parent = line.parent ∧ line'.children = line.children ∧
          (i ≠ k.val + 1 → line'.source = line.source ∧ line'.word = line.word ∧ line'.fault = line.fault)) ∧
      o'.total = o.total ∧ (build document' store).2 = (build document store).2 := by
  intro document' o o'
  obtain ⟨outline, bound⟩ : o.Alike (Line.SameBut (k.val + 1 : Nat)) o' ∧ _ := malformed.alike_build
  obtain ⟨zero, faulty, _⟩ := malformed.run
  refine ⟨filledRows_withRow (filled_closed _) (newline_not_mem_closed _) document k, ?_, outline.size_eq, ?_,
    outline.total_eq (Line.likeness_sameBut _), bound⟩
  · obtain ⟨line, here, own⟩ := own_row document store k
    refine ⟨line, here, ?_, ?_⟩
    · rw [show line.value = line.own.value from rfl, own]
      exact congrArg Value.amount zero
    · rw [show line.fault = line.own.fault from rfl, own]
      exact faulty
  · intro i line line' here here'
    have same := outline.of_getElem? here here'
    refine ⟨same.value, same.result, same.parent, same.children, fun other => same.others fun number => other ?_⟩
    rw [row_build document store here] at number
    exact Int.ofNat.inj number

end

/-- A row that calls a function that there is none of, between a row that it reads and a row that reads it. -/
def faulty : String := "rent = 5\n  bogus(rent)\nLine2 + rent"

private theorem rows_faulty : filledRows faulty = ["rent = 5", "  bogus(rent)", "Line2 + rent"] := by decide +kernel

private theorem malformed_bogus (store : Store) :
    letI := Machine.usual
    Malformed "  bogus(rent)" store := by
  let _ := Machine.usual
  have scanned : (Scan.line "  bogus(rent)").tokens =
      [.name "bogus", .mark .leftParen, .name "rent", .mark .rightParen, .endOfLine] := by
    decide +kernel
  have read : Calculation.tree "  bogus(rent)" = .ok (some (.call "bogus" [.name "rent"])) := by
    rw [Calculation.tree, scanned]
    rfl
  exact .failing read (by simp [Expr.postorder, Expr.postorders]) (Option.some_ne_none _)

/-- With nothing in the place of the row that failed, the same is bound in the end. -/
theorem contained_of_faulty :
    letI := Machine.usual
    Malformed "  bogus(rent)" (storeAfter ["rent = 5"] {}) ∧ (build "rent = 5\n  )\nLine2 + rent" {}).2 = (build faulty {}).2 := by
  let _ := Machine.usual
  have count : (filledRows faulty).length = 3 := congrArg List.length rows_faulty
  have second : (filledRows faulty).get ⟨1, by omega⟩ = "  bogus(rent)" := by simp [rows_faulty]
  have malformed := malformed_bogus (storeAfter ((filledRows faulty).take 1) {})
  rw [← second] at malformed
  have replaced : withRow faulty 1 (closed ((filledRows faulty).get ⟨1, by omega⟩)) = "rent = 5\n  )\nLine2 + rent" := by
    rw [second]
    decide +kernel
  obtain ⟨_, _, _, _, _, bound⟩ := contained_build faulty {} ⟨1, by omega⟩ malformed
  rw [← replaced]
  exact ⟨malformed_bogus _, bound⟩

end Document

end OutlineCalc
