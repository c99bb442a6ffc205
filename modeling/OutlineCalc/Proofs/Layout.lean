import Mathlib.Data.List.TakeWhile
import Mathlib.Order.Monotone.Basic
import OutlineCalc.Machine.Usual
import OutlineCalc.Proofs.Likeness
import OutlineCalc.Proofs.MaximalMunch

/-!
What the layout of a document means: of the spaces in front of its rows only which rows have less of
them, and of blanks at the ends of rows, and of rows that are blank, nothing. Each part of a
calculation cuts off blanks by a rule of its own, and none of them sees the difference.
-/

namespace OutlineCalc

namespace Blank

theorem lastWord_append_blanks (cs : List Char) {blanks : List Char} (blank : ∀ c ∈ blanks, isBlank c = true) :
    lastWord (cs ++ blanks) = lastWord cs := by
  rw [lastWord, List.reverse_append, List.dropWhile_append_of_pos fun c mem => blank c (List.mem_reverse.mp mem), lastWord]

/-- Blanks in front of a text that has a word do not belong to its last word. -/
theorem lastWord_blanks_append {cs blanks : List Char} (filled : cs.all isBlank = false)
    (blank : ∀ c ∈ blanks, isBlank c = true) : lastWord (blanks ++ cs) = lastWord cs := by
  have remains : ¬ (cs.reverse.dropWhile isBlank).isEmpty = true := by
    rw [List.isEmpty_iff, List.dropWhile_eq_nil_iff]
    intro none
    rw [List.all_eq_true.mpr fun c mem => none c (List.mem_reverse.mpr mem)] at filled
    contradiction
  have stops : blanks.reverse.takeWhile (!isBlank ·) = [] := by
    cases behind : blanks.reverse with
    | nil => rfl
    | cons c more =>
      have here : isBlank c = true := blank c (List.mem_reverse.mp (by rw [behind]; exact List.mem_cons_self))
      exact List.takeWhile_cons_of_neg (by simp [here])
  rw [lastWord, List.reverse_append, List.dropWhile_append, if_neg remains, List.takeWhile_append, stops, List.append_nil,
    lastWord]
  split
  · rename_i whole
    rw [(List.takeWhile_prefix _).eq_of_length whole]
  · rfl

end Blank

/-- Only the tokens of a line and its fault decide what is calculated. -/
theorem Calculation.run_congr [Machine] {line line' : String} (scanned : Scan.line line' = Scan.line line) (store : Store) :
    run line' store = run line store := by
  simp only [run, scanned]

/-- Whether a line is another one with a different text, its indent moved by `shift`. -/
def Line.Shifted (shift : Int → Int) (line line' : Line) : Prop :=
  ∃ source, line' = { line with source, indent := shift line.indent }

theorem Line.likeness_shifted (shift : Int → Int) : Likeness shift (Shifted shift) where
  fits := by
    rintro line _ ⟨source, rfl⟩
    exact ⟨rfl, rfl, rfl, rfl, rfl⟩
  hung := by
    rintro line _ ⟨source, rfl⟩ parent
    exact ⟨source, rfl⟩
  changed := by
    rintro line _ ⟨source, rfl⟩ children result
    exact ⟨source, rfl⟩
  marked := by
    rintro above _ line _ ⟨source, rfl⟩ ⟨_, rfl⟩
    exact ⟨source, rfl⟩

namespace Document

open Blank (isBlank)

/-- Whether a character can be put at the end of a row: a space, a tab or a carriage return. -/
def isPadding (c : Char) : Bool := c == ' ' || c == '\t' || c == '\r'

/-- A row with `f d` spaces at its start in place of the `d` that it has there. -/
def moved (f : Nat → Nat) (row : List Char) : List Char :=
  List.replicate (f (row.takeWhile (· == ' ')).length) ' ' ++ row.dropWhile (· == ' ')

/-- `Relaid f rows rows'`: `rows` become `rows'` when those that are not blank are moved by `f`, any of them
get padding at their ends, and blank rows are put in anywhere. -/
inductive Relaid (f : Nat → Nat) : List (List Char) → List (List Char) → Prop
  | nil : Relaid f [] []
  | filled {row padding : List Char} {rows rows' : List (List Char)} (filled : row.all isBlank = false)
      (pads : padding.all isPadding = true) (more : Relaid f rows rows') :
      Relaid f (row :: rows) ((moved f row ++ padding) :: rows')
  | blank {row padding : List Char} {rows rows' : List (List Char)} (blank : row.all isBlank = true)
      (pads : padding.all isPadding = true) (more : Relaid f rows rows') : Relaid f (row :: rows) ((row ++ padding) :: rows')
  | inserted {row : List Char} {rows rows' : List (List Char)} (blank : row.all isBlank = true)
      (more : Relaid f rows rows') : Relaid f rows (row :: rows')

section
variable {padding : List Char} (pads : padding.all isPadding = true)

include pads

private theorem of_isPadding {p : Char → Bool} (each : p ' ' && p '\t' && p '\r') : ∀ c ∈ padding, p c = true := by
  intro c mem
  have here := List.all_eq_true.mp pads c mem
  simp only [isPadding, Bool.or_eq_true, beq_iff_eq] at here
  simp only [Bool.and_eq_true] at each
  rcases here with (rfl | rfl) | rfl
  · exact each.1.1
  · exact each.1.2
  · exact each.2

theorem isBlank_of_isPadding : ∀ c ∈ padding, isBlank c = true := of_isPadding pads (by decide)

theorem isGap_of_isPadding : ∀ c ∈ padding, Scan.isGap c = true := of_isPadding pads (by decide)

end

/-! ## What is read of a row that starts with spaces -/

section
variable (d : Nat) {text : List Char}

theorem leadingIndent_replicate_append (start : text.head? ≠ some ' ') :
    leadingIndent (String.ofList (List.replicate d ' ' ++ text)) = d := by
  have stops : text.takeWhile (· == ' ') = [] := by
    cases text with
    | nil => rfl
    | cons c text => exact List.takeWhile_cons_of_neg (by simpa using start)
  rw [leadingIndent, String.toList_ofList, List.takeWhile_append_of_pos fun c mem => by simpa using List.eq_of_mem_replicate mem,
    stops, List.append_nil, List.length_replicate]

theorem chars_replicate_append (text : List Char) : Scan.chars (List.replicate d ' ' ++ text) = Scan.chars text := by
  induction d with
  | zero => rfl
  | succ d ih => rw [List.replicate_succ, List.cons_append, Scan.chars_of_isGap (by decide), ih]

theorem lastWord_replicate_append (filled : text.all isBlank = false) :
    Blank.lastWord (List.replicate d ' ' ++ text) = Blank.lastWord text := by
  refine Blank.lastWord_blanks_append filled fun c mem => ?_
  rw [List.eq_of_mem_replicate mem]
  decide

end

theorem takeWhile_space_eq (row : List Char) :
    row.takeWhile (· == ' ') = List.replicate (row.takeWhile (· == ' ')).length ' ' :=
  List.eq_replicate_of_mem fun c mem => by simpa using List.mem_takeWhile_imp mem

/-- A row that is not blank is some spaces and then a text that is not blank and starts with no space. -/
theorem exists_text {row : List Char} (filled : row.all isBlank = false) :
    ∃ d text, row = List.replicate d ' ' ++ text ∧ text.all isBlank = false ∧ text.head? ≠ some ' ' ∧
      ∀ f, moved f row = List.replicate (f d) ' ' ++ text := by
  have split : row = List.replicate (row.takeWhile (· == ' ')).length ' ' ++ row.dropWhile (· == ' ') := by
    rw [← takeWhile_space_eq, List.takeWhile_append_dropWhile]
  refine ⟨_, row.dropWhile (· == ' '), split, ?_, ?_, fun f => rfl⟩
  · have blank : (List.replicate (row.takeWhile (· == ' ')).length ' ').all isBlank = true := by
      rw [List.all_eq_true]
      intro c mem
      rw [List.eq_of_mem_replicate mem]
      decide
    rw [split, List.all_append, blank, Bool.true_and] at filled
    exact filled
  · intro first
    have stopped := List.head?_dropWhile_not (· == ' ') row
    rw [first] at stopped
    contradiction

/-- What becomes of a row that is not blank when it is moved and gets padding at its end: neither does the
text before the padding end in another word, nor is it cut into other tokens. -/
theorem evaluateLine_moved [Machine] (f : Nat → Nat) {row padding : List Char} (filled : row.all isBlank = false)
    (pads : padding.all isPadding = true) (number : Int) (store : Store) :
    evaluateLine (String.ofList (moved f row ++ padding)) number store =
      ({ (evaluateLine (String.ofList row) number store).1 with
          source := String.ofList (moved f row ++ padding), indent := f (leadingIndent (String.ofList row)) },
        (evaluateLine (String.ofList row) number store).2) := by
  obtain ⟨d, text, rfl, filled, start, moved⟩ := exists_text filled
  rw [moved f]
  have scanned : Scan.line (String.ofList (List.replicate (f d) ' ' ++ text ++ padding)) =
      Scan.line (String.ofList (List.replicate d ' ' ++ text)) := by
    simp only [Scan.line, String.toList_ofList]
    rw [Scan.chars_append_of_isGap _ (isGap_of_isPadding pads), chars_replicate_append, chars_replicate_append]
  have word : trailingWord (String.ofList (List.replicate (f d) ' ' ++ text ++ padding)) =
      trailingWord (String.ofList (List.replicate d ' ' ++ text)) := by
    simp only [trailingWord, String.toList_ofList]
    rw [Blank.lastWord_append_blanks _ (isBlank_of_isPadding pads), lastWord_replicate_append _ filled,
      lastWord_replicate_append _ filled]
  have start' : (text ++ padding).head? ≠ some ' ' := by
    cases text with
    | nil => simp at filled
    | cons c text => exact start
  have indent : leadingIndent (String.ofList (List.replicate (f d) ' ' ++ text ++ padding)) = f d := by
    rw [List.append_assoc, leadingIndent_replicate_append _ start']
  simp only [evaluateLine, word, Calculation.run_congr scanned, indent, leadingIndent_replicate_append d start]

theorem moved_id (row : List Char) : moved id row = row := by
  rw [moved, id, ← takeWhile_space_eq, List.takeWhile_append_dropWhile]

/-- Padding alone is a change of layout. -/
theorem relaid_of_padded {rows rows' : List (List Char)}
    (padded : List.Forall₂ (fun row row' => ∃ padding, padding.all isPadding = true ∧ row' = row ++ padding) rows rows') :
    Relaid id rows rows' := by
  induction padded with
  | nil => exact .nil
  | @cons row _ rows rows' here _ ih =>
    obtain ⟨padding, pads, rfl⟩ := here
    by_cases blank : row.all isBlank = true
    · exact .blank blank pads ih
    · have filled := Relaid.filled (Bool.eq_false_iff.mpr blank) pads ih
      rwa [moved_id] at filled

/-- A text with two characters for each line break. -/
def withReturns (cs : List Char) : List Char := cs.flatMap fun c => if c = '\n' then ['\r', '\n'] else [c]

/-- Line breaks of two characters are a change of layout. -/
theorem relaid_withReturns (cs : List Char) : Relaid id (rows cs) (rows (withReturns cs)) := by
  refine relaid_of_padded ?_
  induction cs with
  | nil => exact .cons ⟨[], rfl, rfl⟩ .nil
  | cons c cs ih =>
    by_cases newline : c = '\n'
    · subst newline
      have rows_cons : rows (withReturns ('\n' :: cs)) = ['\r'] :: rows (withReturns cs) := Pieces.between_append '\n' ['\r'] _
      rw [rows_cons]
      exact .cons ⟨['\r'], by decide, rfl⟩ ih
    · have same : withReturns (c :: cs) = c :: withReturns cs := by rw [withReturns, List.flatMap_cons, if_neg newline]; rfl
      rw [same]
      simp only [rows, Pieces.between, if_neg newline] at ih ⊢
      generalize Pieces.between '\n' cs = before at ih ⊢
      generalize Pieces.between '\n' (withReturns cs) = after at ih ⊢
      -- The character goes in front of the first row of both texts.
      cases ih with
      | nil => exact .cons ⟨[], rfl, (List.append_nil _).symm⟩ .nil
      | cons first more =>
        obtain ⟨padding, pads, rfl⟩ := first
        exact .cons ⟨padding, pads, rfl⟩ more

/-- How `f` moves an indent, where that of the root stays as it is. -/
def shift (f : Nat → Nat) (indent : Int) : Int := if indent < 0 then indent else f indent.toNat

theorem shift_natCast (f : Nat → Nat) (d : Nat) : shift f d = f d := by
  rw [shift, if_neg (by omega), Int.toNat_natCast]

/-- What is indented less is moved to less, and nothing else is. -/
theorem shift_lt_iff {f : Nat → Nat} (order : StrictMono f) (a b : Int) : shift f a < shift f b ↔ a < b := by
  unfold shift
  by_cases negative : a < 0 <;> by_cases negative' : b < 0 <;> simp only [negative, negative', if_true, if_false]
  · omega
  · omega
  · rw [Int.ofNat_lt, order.lt_iff_lt]
    omega

/-- Rows that are not blank stay as many, and each is calculated as the one in its place was. -/
theorem Relaid.forall₂ [Machine] {f : Nat → Nat} {rows rows' : List (List Char)} (relaid : Relaid f rows rows') :
    List.Forall₂ (fun row row' => ∀ (number : Nat) store,
        Line.Shifted (shift f) (evaluateLine row number store).1 (evaluateLine row' number store).1 ∧
          (evaluateLine row' number store).2 = (evaluateLine row number store).2)
      ((rows.filter (!·.all isBlank)).map String.ofList) ((rows'.filter (!·.all isBlank)).map String.ofList) := by
  induction relaid with
  | nil => exact .nil
  | @filled row padding rows rows' filled pads more ih =>
    have filled' : (moved f row ++ padding).all isBlank = false := by
      obtain ⟨d, text, _, filled, _, moved⟩ := exists_text filled
      rw [moved, List.all_append, List.all_append, filled, Bool.and_false, Bool.false_and]
    rw [List.filter_cons_of_pos (by simp [filled]), List.filter_cons_of_pos (by simp [filled']), List.map_cons, List.map_cons]
    refine .cons (fun number store => ?_) ih
    rw [evaluateLine_moved f filled pads]
    refine ⟨⟨String.ofList (moved f row ++ padding), ?_⟩, rfl⟩
    rw [indent_evaluateLine, shift_natCast]
  | @blank row padding rows rows' blank pads more ih =>
    have blank' : (row ++ padding).all isBlank = true := by
      rw [List.all_append, blank, Bool.true_and, List.all_eq_true]
      exact isBlank_of_isPadding pads
    rw [List.filter_cons_of_neg (by simp [blank]), List.filter_cons_of_neg (by simp [blank'])]
    exact ih
  | @inserted row rows rows' blank more ih =>
    rw [List.filter_cons_of_neg (by simp [blank])]
    exact ih

/-- The layout of a document does not matter: when its rows are moved so that those with less spaces at
their starts still have less, when blanks are put at their ends, and when blank rows are put in, the lines
differ in their texts and indents and in nothing else, and the same is bound in the end. -/
theorem layout_build [Machine] {f : Nat → Nat} (order : StrictMono f) {document document' : String}
    (relaid : Relaid f (rows document.toList) (rows document'.toList)) (store : Store) :
    let o := (build document store).1
    let o' := (build document' store).1
    o'.lines.size = o.lines.size ∧
      (∀ (i : Nat) line line', o.lines[i]? = some line → o'.lines[i]? = some line' →
        line' = { line with source := line'.source, indent := shift f line.indent }) ∧
      (build document' store).2 = (build document store).2 := by
  have start : (Progress.start store).Alike (Line.Shifted (shift f)) (Progress.start store) := by
    refine Progress.alike_self fun line mem => ?_
    obtain rfl : line = Outline.root := Array.mem_singleton.mp mem
    exact ⟨"Total", rfl⟩
  have alike := start.foldl_add (Line.likeness_shifted (shift f)) (shift_lt_iff order) Outline.rooted_empty rfl relaid.forall₂
  refine ⟨alike.outline.size_eq, fun i line line' here here' => ?_, alike.store⟩
  obtain ⟨source, same⟩ := alike.outline.of_getElem? here here'
  rw [same]

/-- Rows below one another, one of them with a quote that nothing closes, and the same rows further apart,
with a blank one between them and with two characters for each line break. -/
def narrow : String := "rent\n  $5 'a\n 7"

@[inherit_doc narrow] def wide : String := " rent\t\r\n\t \r\n     $5 'a \r\n   7\r"

theorem layout_of_wide :
    letI := Machine.usual
    StrictMono (fun d => 2 * d + 1) ∧ Relaid (fun d => 2 * d + 1) (rows narrow.toList) (rows wide.toList) ∧
      (build wide {}).1.lines.size = (build narrow {}).1.lines.size ∧
      (∀ (i : Nat) line line', (build narrow {}).1.lines[i]? = some line → (build wide {}).1.lines[i]? = some line' →
        line' = { line with source := line'.source, indent := shift (fun d => 2 * d + 1) line.indent }) ∧
      (build wide {}).2 = (build narrow {}).2 := by
  let _ := Machine.usual
  have order : StrictMono (fun d => 2 * d + 1) := fun a b less => by
    simp only
    omega
  have relaid : Relaid (fun d => 2 * d + 1) (rows narrow.toList) (rows wide.toList) := by
    have rows_narrow : rows narrow.toList = ["rent".toList, "  $5 'a".toList, " 7".toList] := by decide +kernel
    have rows_wide : rows wide.toList = [" rent\t\r".toList, "\t \r".toList, "     $5 'a \r".toList, "   7\r".toList] := by
      decide +kernel
    rw [rows_narrow, rows_wide]
    refine @Relaid.filled _ "rent".toList ['\t', '\r'] _ _ (by decide) (by decide) ?_
    refine .inserted (by decide) ?_
    refine @Relaid.filled _ "  $5 'a".toList [' ', '\r'] _ _ (by decide) (by decide) ?_
    exact @Relaid.filled _ " 7".toList ['\r'] _ _ (by decide) (by decide) .nil
  exact ⟨order, relaid, layout_build order relaid {}⟩

end Document

end OutlineCalc
