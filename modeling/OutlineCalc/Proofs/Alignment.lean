import Mathlib.Algebra.GroupWithZero.Nat
import Mathlib.Data.List.Forall2
import Mathlib.Data.List.TakeWhile
import OutlineCalc.Pieces
import OutlineCalc.Sheet

/-!
Tables with aligned columns. Every column is as wide as the longest of its cells and its heading, and
two spaces stand between columns. The blanks that a line ends in are left out, and filled up with
spaces the line has each cell in its column again, but for blanks at the ends of the cell.
-/

namespace OutlineCalc.Blank

variable {cs ds blanks : List Char}

/-! ## Blanks at the ends of a text -/

theorem exists_eq_trimEnd_append (cs : List Char) : ∃ blanks, cs = trimEnd cs ++ blanks ∧ ∀ c ∈ blanks, isBlank c = true := by
  refine ⟨(cs.reverse.takeWhile isBlank).reverse, ?_, fun c mem => ?_⟩
  · rw [trimEnd, ← List.reverse_append, List.takeWhile_append_dropWhile, List.reverse_reverse]
  · exact List.all_eq_true.mp List.all_takeWhile c (List.mem_reverse.mp mem)

theorem trimEnd_append_blanks (cs : List Char) (blank : ∀ c ∈ blanks, isBlank c = true) : trimEnd (cs ++ blanks) = trimEnd cs := by
  rw [trimEnd, List.reverse_append, List.dropWhile_append_of_pos fun c mem => blank c (List.mem_reverse.mp mem), ← trimEnd]

theorem trim_append_blanks (cs : List Char) (blank : ∀ c ∈ blanks, isBlank c = true) : trim (cs ++ blanks) = trim cs := by
  rw [trim, trim, List.dropWhile_append]
  split
  · rename_i none
    have gone : blanks.dropWhile isBlank = [] := List.dropWhile_eq_nil_iff.mpr blank
    rw [gone, List.isEmpty_iff.mp none]
  · exact trimEnd_append_blanks _ blank

theorem trim_blanks_append (cs : List Char) (blank : ∀ c ∈ blanks, isBlank c = true) : trim (blanks ++ cs) = trim cs := by
  rw [trim, trim, List.dropWhile_append_of_pos blank]

theorem isBlank_of_mem_spaces {count : Nat} : ∀ c ∈ List.replicate count ' ', isBlank c = true := by
  intro c mem
  rw [List.eq_of_mem_replicate mem]
  decide

/-- Whether a text is another with spaces in place of some of the blanks that it ends in. -/
def Faded (cs ds : List Char) : Prop :=
  ∃ kept blanks, cs = kept ++ blanks ∧ ds = kept ++ List.replicate blanks.length ' ' ∧ ∀ c ∈ blanks, isBlank c = true

theorem Faded.drop (faded : Faded cs ds) (count : Nat) : Faded (cs.drop count) (ds.drop count) := by
  obtain ⟨kept, blanks, rfl, rfl, blank⟩ := faded
  refine ⟨kept.drop count, blanks.drop (count - kept.length), List.drop_append, ?_, fun c mem => blank c (List.mem_of_mem_drop mem)⟩
  rw [List.drop_append, List.drop_replicate, List.length_drop]

theorem Faded.take (faded : Faded cs ds) (count : Nat) : Faded (cs.take count) (ds.take count) := by
  obtain ⟨kept, blanks, rfl, rfl, blank⟩ := faded
  refine ⟨kept.take count, blanks.take (count - kept.length), List.take_append, ?_, fun c mem => blank c (List.mem_of_mem_take mem)⟩
  rw [List.take_append, List.take_replicate, List.length_take]

theorem Faded.length_eq (faded : Faded cs ds) : ds.length = cs.length := by
  obtain ⟨kept, blanks, rfl, rfl, _⟩ := faded
  simp

theorem Faded.trimEnd_eq (faded : Faded cs ds) : trimEnd ds = trimEnd cs := by
  obtain ⟨kept, blanks, rfl, rfl, blank⟩ := faded
  rw [trimEnd_append_blanks _ blank, trimEnd_append_blanks _ isBlank_of_mem_spaces]

theorem Faded.trim_eq (faded : Faded cs ds) : trim ds = trim cs := by
  obtain ⟨kept, blanks, rfl, rfl, blank⟩ := faded
  rw [trim_append_blanks _ blank, trim_append_blanks _ isBlank_of_mem_spaces]

/-- A text that does not end in a blank stays as it is. -/
theorem Faded.eq_of_getLast? (faded : Faded cs ds) {c : Char} (last : cs.getLast? = some c) (filled : isBlank c = false) :
    ds = cs := by
  obtain ⟨kept, blanks, rfl, rfl, blank⟩ := faded
  have none : blanks = [] := by
    rw [← List.getLast?_eq_none_iff, Option.eq_none_iff_forall_ne_some]
    intro d ends
    rw [List.getLast?_append, ends, Option.some_or] at last
    obtain rfl := Option.some.inj last
    rw [blank d (List.mem_of_getLast? ends)] at filled
    contradiction
  simp [none]

theorem Faded.eq_spaces (count : Nat) (faded : Faded (List.replicate count ' ') ds) : ds = List.replicate count ' ' := by
  obtain ⟨kept, blanks, spaces, rfl, _⟩ := faded
  obtain ⟨sum, front, _⟩ := List.replicate_eq_append_iff.mp spaces
  rw [front, List.replicate_append_replicate, sum]

theorem faded_trimEnd (cs : List Char) :
    Faded cs (trimEnd cs ++ List.replicate (cs.length - (trimEnd cs).length) ' ') := by
  obtain ⟨blanks, split, blank⟩ := exists_eq_trimEnd_append cs
  refine ⟨trimEnd cs, blanks, split, ?_, blank⟩
  have length := congrArg List.length split
  rw [List.length_append] at length
  rw [show cs.length - (trimEnd cs).length = blanks.length by omega]

end OutlineCalc.Blank

namespace OutlineCalc.Sheet

open Blank (isBlank trim trimEnd Faded)

/-! ## Places in a line -/

/-- Where a column starts in a line, with two places between columns. -/
def offset (widths : List Nat) (i : Nat) : Nat := ((widths.take i).map (· + 2)).sum

/-- How wide a line is with all its columns. -/
def fullWidth (widths : List Nat) : Nat := offset widths widths.length - 2

/-- A line filled up with spaces to its full width. -/
def filledUp (widths : List Nat) (line : List Char) : List Char :=
  line ++ List.replicate (fullWidth widths - line.length) ' '

/-- What stands in a column of a line that is filled up. -/
def slice (widths : List Nat) (line : List Char) (i : Nat) : List Char :=
  ((filledUp widths line).drop (offset widths i)).take (widths.getD i 0)

theorem offset_succ (width : Nat) (widths : List Nat) (i : Nat) : offset (width :: widths) (i + 1) = width + 2 + offset widths i := by
  simp [offset]

variable {parts : List (List Char)}

theorem length_intercalate (nonempty : parts ≠ []) :
    (List.intercalate [' ', ' '] parts).length = fullWidth (parts.map List.length) := by
  rw [fullWidth]
  induction parts with
  | nil => contradiction
  | cons part parts ih =>
    cases parts with
    | nil => simp [offset]
    | cons second more =>
      have ih := ih (List.cons_ne_nil _ _)
      rw [List.intercalate_cons_cons, List.length_append, ih, List.map_cons, List.length_cons, offset_succ]
      simp [offset]
      omega

theorem drop_offset {i : Nat} (inside : i < parts.length) :
    (List.intercalate [' ', ' '] parts).drop (offset (parts.map List.length) i) = List.intercalate [' ', ' '] (parts.drop i) := by
  induction parts generalizing i with
  | nil => contradiction
  | cons part parts ih =>
    cases i with
    | zero => rfl
    | succ i =>
      have inside : i < parts.length := by simpa using inside
      rw [List.map_cons, offset_succ, List.drop_succ_cons, ← ih inside]
      cases parts with
      | nil => contradiction
      | cons second more =>
        have width : part.length + 2 = (part ++ [' ', ' ']).length := by
          rw [List.length_append]
          rfl
        rw [List.intercalate_cons_cons, ← List.drop_drop, width, List.drop_left]

/-! ## Aligned lines -/

/-- Whether a line shows some cells in columns of some widths, where `right` is the one with results:
no line is longer than all columns together, and filled up with spaces it has two spaces between
columns, and each cell in its column but for blanks at the ends of the cell. On the left of its column
a cell stands as it is up to the blanks it ends in; a result that does not end in a blank stands at the
right edge. -/
structure Aligned (widths : List Nat) (right : Nat) (cells : List (List Char)) (line : List Char) : Prop where
  count : cells.length = widths.length
  fits : line.length ≤ fullWidth widths
  whole : ∀ i width, widths[i]? = some width → (slice widths line i).length = width
  apart : ∀ i width, widths[i]? = some width → i + 1 < widths.length →
    ((filledUp widths line).drop (offset widths i + width)).take 2 = [' ', ' ']
  trimmed : ∀ i cell, cells[i]? = some cell → trim (slice widths line i) = trim cell
  onLeft : ∀ i cell, cells[i]? = some cell → i ≠ right → trimEnd cell <+: slice widths line i
  onRight : ∀ cell, cells[right]? = some cell → ∀ c, cell.getLast? = some c → isBlank c = false →
    cell <:+ slice widths line right

/-- What stands between the columns of a line. -/
theorem gap_of_intercalate {i : Nat} {part : List Char} (here : parts[i]? = some part) (more : i + 1 < parts.length) :
    ((List.intercalate [' ', ' '] parts).drop (offset (parts.map List.length) i + part.length)).take 2 = [' ', ' '] := by
  obtain ⟨inside, rfl⟩ := List.getElem?_eq_some_iff.mp here
  rw [← List.drop_drop, drop_offset inside, List.drop_eq_getElem_cons inside, List.drop_eq_getElem_cons more,
    List.intercalate_cons_cons, List.append_assoc, List.drop_left]
  rfl

theorem slice_of_intercalate {i : Nat} {part : List Char} (here : parts[i]? = some part) :
    ((List.intercalate [' ', ' '] parts).drop (offset (parts.map List.length) i)).take part.length = part := by
  obtain ⟨inside, rfl⟩ := List.getElem?_eq_some_iff.mp here
  rw [drop_offset inside, List.drop_eq_getElem_cons inside]
  by_cases more : i + 1 < parts.length
  · rw [List.drop_eq_getElem_cons more, List.intercalate_cons_cons, List.append_assoc, List.take_left]
  · rw [List.drop_eq_nil_of_le (by omega), List.intercalate_singleton, List.take_length]

/-- A line of parts, trimmed at its end and filled up again, is the line with spaces for the blanks that
it ended in, and so is every slice of it. -/
theorem faded_filledUp (nonempty : parts ≠ []) :
    Faded (List.intercalate [' ', ' '] parts)
      (filledUp (parts.map List.length) (trimEnd (List.intercalate [' ', ' '] parts))) := by
  rw [filledUp, ← length_intercalate nonempty]
  exact Blank.faded_trimEnd _

theorem faded_slice {i : Nat} {part : List Char} (here : parts[i]? = some part) :
    Faded part (slice (parts.map List.length) (trimEnd (List.intercalate [' ', ' '] parts)) i) := by
  have nonempty : parts ≠ [] := List.ne_nil_of_mem (List.mem_of_getElem? here)
  have width : (parts.map List.length).getD i 0 = part.length := by
    simp [here]
  have faded := ((faded_filledUp nonempty).drop (offset (parts.map List.length) i)).take part.length
  rwa [slice_of_intercalate here, ← width, ← slice] at faded

/-- Cells that are filled up with spaces, the one in the column on the right from its left and all others
from their right, make an aligned line. -/
theorem aligned_trimEnd {cells : List (List Char)} {right : Nat} (nonempty : parts ≠ []) (count : cells.length = parts.length)
    (padding : ∀ (i : Nat) cell part, cells[i]? = some cell → parts[i]? = some part →
      ∃ spaces, part = if i = right then List.replicate spaces ' ' ++ cell else cell ++ List.replicate spaces ' ') :
    Aligned (parts.map List.length) right cells (trimEnd (List.intercalate [' ', ' '] parts)) := by
  have shown : ∀ {i : Nat} {cell : List Char}, cells[i]? = some cell → ∃ part, parts[i]? = some part := by
    intro i cell here
    have inside := (List.getElem?_eq_some_iff.mp here).1
    exact ⟨parts[i], List.getElem?_eq_getElem (by omega)⟩
  refine ⟨by rw [count, List.length_map], ?_, ?_, ?_, ?_, ?_, ?_⟩
  · obtain ⟨blanks, split, _⟩ := Blank.exists_eq_trimEnd_append (List.intercalate [' ', ' '] parts)
    have length := congrArg List.length split
    rw [List.length_append, length_intercalate nonempty] at length
    omega
  · intro i width column
    rw [List.getElem?_map] at column
    obtain ⟨part, here, rfl⟩ := Option.map_eq_some_iff.mp column
    exact (faded_slice here).length_eq
  · intro i width column more
    rw [List.getElem?_map] at column
    obtain ⟨part, here, rfl⟩ := Option.map_eq_some_iff.mp column
    have faded := ((faded_filledUp nonempty).drop (offset (parts.map List.length) i + part.length)).take 2
    rw [gap_of_intercalate here (by simpa using more)] at faded
    exact Blank.Faded.eq_spaces 2 faded
  · intro i cell here
    obtain ⟨part, part_eq⟩ := shown here
    obtain ⟨spaces, pads⟩ := padding i cell part here part_eq
    rw [(faded_slice part_eq).trim_eq, pads]
    split
    · exact Blank.trim_blanks_append _ Blank.isBlank_of_mem_spaces
    · exact Blank.trim_append_blanks _ Blank.isBlank_of_mem_spaces
  · intro i cell here left
    obtain ⟨part, part_eq⟩ := shown here
    obtain ⟨spaces, pads⟩ := padding i cell part here part_eq
    rw [if_neg left] at pads
    have same : trimEnd cell = trimEnd (slice (parts.map List.length) (trimEnd (List.intercalate [' ', ' '] parts)) i) := by
      rw [(faded_slice part_eq).trimEnd_eq, pads, Blank.trimEnd_append_blanks _ Blank.isBlank_of_mem_spaces]
    obtain ⟨blanks, split, _⟩ :=
      Blank.exists_eq_trimEnd_append (slice (parts.map List.length) (trimEnd (List.intercalate [' ', ' '] parts)) i)
    exact ⟨blanks, by rw [same, ← split]⟩
  · intro cell here c last filled
    obtain ⟨part, part_eq⟩ := shown here
    obtain ⟨spaces, pads⟩ := padding right cell part here part_eq
    rw [if_pos rfl] at pads
    have ends : part.getLast? = some c := by
      rw [pads, List.getLast?_append, last, Option.some_or]
    rw [(faded_slice part_eq).eq_of_getLast? ends filled, pads]
    exact List.suffix_append _ _

/-! ## Tables -/

/-- How many characters the longest cell in a column of some records has. -/
def columnWidth (records : List (List String)) (i : Nat) : Nat :=
  ((records.map fun cells => (cells.getD i "").length).max?).getD 0

/-- No cell is longer than its column is wide. -/
theorem length_le_columnWidth {records : List (List String)} {cells : List String} (mem : cells ∈ records) {i : Nat}
    {cell : String} (here : cells[i]? = some cell) : cell.length ≤ columnWidth records i := by
  refine List.le_max?_getD_of_mem (List.mem_map.mpr ⟨cells, mem, ?_⟩)
  rw [List.getD_eq_getElem?_getD, here, Option.getD_some]

theorem widths_eq (showIndex : Bool) (rows : List Row) :
    widths (Column.shown showIndex rows) rows =
      (List.range (Column.shown showIndex rows).length).map (columnWidth (records showIndex rows)) := by
  refine List.ext_getElem (by simp [widths]) fun i inside _ => ?_
  simp only [widths, List.length_map] at inside
  have lengths : (records showIndex rows).map (fun cells => (cells.getD i "").length) =
      (Column.shown showIndex rows)[i].heading.length ::
        rows.map fun row => ((Column.shown showIndex rows)[i].cell row).length := by
    simp [records, inside]
  rw [List.getElem_map, List.getElem_range, columnWidth, lengths, List.max?_cons', Option.getD_some, List.foldl_map]
  simp [widths]

theorem length_padded {column : Column} {width : Nat} {cell : String} (fits : cell.length ≤ width) :
    (padded column width cell).length = width := by
  rw [String.length_toList.symm] at fits
  simp only [padded]
  split <;> simp <;> omega

/-- The cells of a line, each filled up to the width of its column. -/
def paddedCells (columns : List Column) (widths : List Nat) (cells : List String) : List (List Char) :=
  List.zipWith (fun column cell => padded column.1 column.2 cell) (columns.zip widths) cells

theorem tableLine_eq (columns : List Column) (widths : List Nat) (cells : List String) :
    tableLine columns widths cells = trimEnd (List.intercalate [' ', ' '] (paddedCells columns widths cells)) := rfl

theorem length_paddedCells {columns : List Column} {widths : List Nat} {cells : List String}
    (count : widths.length = columns.length) (count' : cells.length = columns.length) :
    (paddedCells columns widths cells).length = columns.length := by
  simp [paddedCells, count, count']

theorem getElem?_paddedCells {columns : List Column} {widths : List Nat} {cells : List String} {i : Nat} {part : List Char} :
    (paddedCells columns widths cells)[i]? = some part ↔ ∃ column width cell,
      columns[i]? = some column ∧ widths[i]? = some width ∧ cells[i]? = some cell ∧ part = padded column width cell := by
  rw [paddedCells, List.getElem?_zipWith_eq_some]
  constructor
  · rintro ⟨⟨column, width⟩, cell, place, here, rfl⟩
    obtain ⟨here', here''⟩ := List.getElem?_zip_eq_some.mp place
    exact ⟨column, width, cell, here', here'', here, rfl⟩
  · rintro ⟨column, width, cell, here, here', here'', rfl⟩
    exact ⟨(column, width), cell, List.getElem?_zip_eq_some.mpr ⟨here, here'⟩, here'', rfl⟩

/-- A line of a table is aligned if its cells fit into their columns. -/
theorem aligned_tableLine {columns : List Column} {widths : List Nat} {cells : List String} {right : Nat}
    (nonempty : columns ≠ []) (count : widths.length = columns.length) (count' : cells.length = columns.length)
    (fits : ∀ (i : Nat) cell width, cells[i]? = some cell → widths[i]? = some width → cell.length ≤ width)
    (results : ∀ (i : Nat) column, columns[i]? = some column → (column = .result ↔ i = right)) :
    Aligned widths right (cells.map String.toList) (tableLine columns widths cells) := by
  have length := length_paddedCells count count'
  have lengths : (paddedCells columns widths cells).map List.length = widths := by
    refine List.ext_getElem? fun i => ?_
    rw [List.getElem?_map]
    by_cases inside : i < columns.length
    · have here : (paddedCells columns widths cells)[i]? = some (padded columns[i] widths[i] cells[i]) :=
        getElem?_paddedCells.mpr ⟨_, _, _, List.getElem?_eq_getElem _, List.getElem?_eq_getElem _,
          List.getElem?_eq_getElem _, rfl⟩
      rw [here, Option.map_some, List.getElem?_eq_getElem (by omega),
        length_padded (fits i _ _ (List.getElem?_eq_getElem _) (List.getElem?_eq_getElem _))]
    · rw [List.getElem?_eq_none (by omega), List.getElem?_eq_none (by omega), Option.map_none]
  have parts : paddedCells columns widths cells ≠ [] := by
    rw [← List.length_pos_iff, length]
    exact List.length_pos_iff.mpr nonempty
  have aligned : Aligned ((paddedCells columns widths cells).map List.length) right (cells.map String.toList)
      (tableLine columns widths cells) := by
    refine aligned_trimEnd parts (by rw [List.length_map, count', length]) fun i cell part here filled => ?_
    obtain ⟨column, width, text, place, _, text_eq, rfl⟩ := getElem?_paddedCells.mp filled
    rw [List.getElem?_map, text_eq] at here
    obtain rfl := Option.some.inj here
    exact ⟨width - text.toList.length, by simp only [padded, results i column place]⟩
  rwa [lengths] at aligned

/-- The results stand in the second column, behind the numbers of rows if they are shown. -/
theorem shown_eq_result_iff (showIndex : Bool) (rows : List Row) (i : Nat) (column : Column)
    (here : (Column.shown showIndex rows)[i]? = some column) : column = .result ↔ i = if showIndex then 2 else 1 := by
  rw [Column.shown] at here
  generalize rows.any (·.report != "") = errors at here
  cases showIndex <;> cases errors <;> rcases i with _ | _ | _ | _ | i <;> simp_all <;> simp [← here]

theorem newline_not_mem_repr (n : Int) : '\n' ∉ n.repr.toList := by
  have digits : ∀ k : Nat, '\n' ∉ k.repr.toList := by
    intro k mem
    rw [Nat.repr, String.toList_ofList] at mem
    exact absurd (Nat.isDigit_of_mem_toDigits (by decide) (by decide) mem) (by decide)
  cases n with
  | ofNat k => exact digits k
  | negSucc k =>
    rw [Int.repr, String.toList_append, List.mem_append]
    exact not_or.mpr ⟨by decide, digits k.succ⟩

theorem newline_not_mem_cell {row : Row} (text : '\n' ∉ row.text.toList) (result : '\n' ∉ row.result.toList)
    (error : '\n' ∉ (row.error.getD "").toList) (column : Column) : '\n' ∉ (column.cell row).toList := by
  cases column with
  | index =>
    rw [Column.cell]
    split
    · simp
    · exact newline_not_mem_repr row.index
  | line => exact text
  | result => exact result
  | error => exact error

theorem map_shown (showIndex : Bool) (rows : List Row) (f : Column → String) :
    (Column.shown showIndex rows).map f = (if showIndex then [f .index] else []) ++ [f .line, f .result] ++
      (if rows.any (fun row => row.error.getD "" != "") then [f .error] else []) := by
  have errors : rows.any (fun row => row.report != "") = rows.any fun row => row.error.getD "" != "" := rfl
  rw [Column.shown, errors]
  generalize rows.any (fun row => row.error.getD "" != "") = anyError
  cases showIndex <;> cases anyError <;> rfl

private theorem not_mem_intercalate {c : Char} (other : c ≠ ' ') (free : ∀ part ∈ parts, c ∉ part) :
    c ∉ List.intercalate [' ', ' '] parts := by
  induction parts with
  | nil => exact List.not_mem_nil
  | cons part parts ih =>
    have first := free part List.mem_cons_self
    have ih := ih fun part mem => free part (List.mem_cons_of_mem _ mem)
    cases parts with
    | nil => rwa [List.intercalate_singleton]
    | cons second more =>
      rw [List.intercalate_cons_cons]
      simp [first, other, ih]

theorem newline_not_mem_tableLine (columns : List Column) (widths : List Nat) {cells : List String}
    (free : ∀ cell ∈ cells, '\n' ∉ cell.toList) : '\n' ∉ tableLine columns widths cells := by
  intro mem
  rw [tableLine_eq] at mem
  obtain ⟨blanks, split, _⟩ :=
    Blank.exists_eq_trimEnd_append (List.intercalate [' ', ' '] (paddedCells columns widths cells))
  have whole := List.mem_append_left blanks mem
  rw [← split] at whole
  refine not_mem_intercalate (by decide) (fun part here => ?_) whole
  obtain ⟨i, here⟩ := List.mem_iff_getElem?.mp here
  obtain ⟨column, width, cell, -, -, cell_eq, rfl⟩ := getElem?_paddedCells.mp here
  have free := free cell (List.mem_of_getElem? cell_eq)
  simp only [padded]
  split <;> simp [free]

section Records

variable {showIndex : Bool} {rows : List Row}

theorem length_of_mem_records : ∀ cells ∈ records showIndex rows, cells.length = (Column.shown showIndex rows).length := by
  intro cells mem
  rcases List.mem_cons.mp mem with rfl | mem
  · rw [List.length_map]
  · obtain ⟨row, _, rfl⟩ := List.mem_map.mp mem
    rw [List.length_map]

theorem newline_not_mem_of_mem_records
    (free : ∀ row ∈ rows, '\n' ∉ row.text.toList ∧ '\n' ∉ row.result.toList ∧ '\n' ∉ (row.error.getD "").toList) :
    ∀ cells ∈ records showIndex rows, ∀ cell ∈ cells, '\n' ∉ cell.toList := by
  intro cells mem cell inside
  rcases List.mem_cons.mp mem with rfl | mem
  · obtain ⟨column, _, rfl⟩ := List.mem_map.mp inside
    cases column <;> decide
  · obtain ⟨row, here, rfl⟩ := List.mem_map.mp mem
    obtain ⟨column, _, rfl⟩ := List.mem_map.mp inside
    obtain ⟨text, result, error⟩ := free row here
    exact newline_not_mem_cell text result error column

/-- Between its line breaks a table has a line for each of its records. -/
theorem between_table
    (free : ∀ row ∈ rows, '\n' ∉ row.text.toList ∧ '\n' ∉ row.result.toList ∧ '\n' ∉ (row.error.getD "").toList) :
    Pieces.between '\n' (table showIndex rows).toList =
      (records showIndex rows).map (tableLine (Column.shown showIndex rows) (widths (Column.shown showIndex rows) rows)) := by
  rw [table, String.toList_ofList]
  refine Pieces.between_intercalate (by simp [records]) fun line mem => ?_
  obtain ⟨cells, here, rfl⟩ := List.mem_map.mp mem
  exact newline_not_mem_tableLine _ _ (newline_not_mem_of_mem_records free cells here)

theorem aligned_of_mem_records : ∀ cells ∈ records showIndex rows,
    Aligned ((List.range (Column.shown showIndex rows).length).map (columnWidth (records showIndex rows)))
      (if showIndex then 2 else 1) (cells.map String.toList)
      (tableLine (Column.shown showIndex rows) (widths (Column.shown showIndex rows) rows) cells) := by
  intro cells mem
  rw [widths_eq]
  refine aligned_tableLine (by simp [Column.shown]) (by simp) (length_of_mem_records cells mem) ?_
    (shown_eq_result_iff showIndex rows)
  intro i cell width here column
  rw [List.getElem?_map] at column
  obtain ⟨place, counted, rfl⟩ := Option.map_eq_some_iff.mp column
  obtain rfl : i = place := by
    simpa using (List.getElem?_eq_some_iff.mp counted).2
  exact length_le_columnWidth mem here

end Records

/-- A table of rows without line breaks in their cells has a line for its headings and one for each row, no
line ends in a blank, and the lines are aligned: a column is as wide as its longest cell, the heading
included, and results stand on the right. -/
theorem table_aligned (showIndex : Bool) {rows : List Row}
    (free : ∀ row ∈ rows, '\n' ∉ row.text.toList ∧ '\n' ∉ row.result.toList ∧ '\n' ∉ (row.error.getD "").toList) :
    let anyError : Bool := rows.any fun row => row.error.getD "" != ""
    let cells (index line result error : String) : List String :=
      (if showIndex then [index] else []) ++ [line, result] ++ (if anyError then [error] else [])
    let headings := cells "#" "line" "result" "error"
    let records := headings ::
      rows.map fun row => cells (if row.index = 0 then "" else toString row.index) row.text row.result (row.error.getD "")
    let lines := Pieces.between '\n' (table showIndex rows).toList
    lines.length = rows.length + 1 ∧ (∀ line ∈ lines, ∀ c, line.getLast? = some c → isBlank c = false) ∧
      List.Forall₂ (Aligned ((List.range headings.length).map (columnWidth records)) (if showIndex then 2 else 1))
        (records.map (·.map String.toList)) lines := by
  intro anyError cells headings shownRecords lines
  have same : records showIndex rows = shownRecords := by
    simp only [records, map_shown]
    rfl
  have columns : (Column.shown showIndex rows).length = headings.length := by
    have shown := congrArg List.length (map_shown showIndex rows Column.heading)
    rwa [List.length_map] at shown
  have written : lines = (records showIndex rows).map _ := between_table free
  rw [written, ← same, ← columns]
  refine ⟨by simp [records], fun line mem c last => ?_, ?_⟩
  · obtain ⟨cells, _, rfl⟩ := List.mem_map.mp mem
    exact Blank.isBlank_getLast_trimEnd last
  · rw [List.forall₂_map_left_iff, List.forall₂_map_right_iff, List.forall₂_same]
    exact aligned_of_mem_records

/-- Rows of which one ends in a blank that is no space, and the other has nothing in its last column. -/
def blankEnds : List Row := [⟨12, "  rent\t", "1,000", some "a \u3000"⟩, ⟨0, "Total", "", none⟩]

theorem table_aligned_blankEnds :
    (∀ row ∈ blankEnds, '\n' ∉ row.text.toList ∧ '\n' ∉ row.result.toList ∧ '\n' ∉ (row.error.getD "").toList) ∧
      table true blankEnds = "#   line     result  error\n12    rent\t   1,000  a\n    Total" ∧
      List.Forall₂ (Aligned [2, 7, 6, 5] 2)
        ([["#", "line", "result", "error"], ["12", "  rent\t", "1,000", "a \u3000"], ["", "Total", "", ""]].map (·.map String.toList))
        (Pieces.between '\n' (table true blankEnds).toList) := by
  have free : ∀ row ∈ blankEnds, '\n' ∉ row.text.toList ∧ '\n' ∉ row.result.toList ∧ '\n' ∉ (row.error.getD "").toList := by
    decide
  exact ⟨free, by decide +kernel, (table_aligned true free).2.2⟩

end OutlineCalc.Sheet
