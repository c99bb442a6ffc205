import OutlineCalc.Proofs.Tree

/-!
Which lines are marked with the currency mark. A line that is put in hands the mark it came with to
the line directly above it and to no other, and the line that comes last settles it. So a mark is
always one that some line came with, whatever has become of that line's own mark since. In the
outline of a document it is read off the last word of the last row directly below.
-/

namespace OutlineCalc.Blank

/-- `IsLastWord cs word`: a text ends in a word, which no blank interrupts, and at most blanks behind
it; what stands in front of the word ends in a blank, if anything does. -/
structure IsLastWord (cs word : List Char) : Prop where
  nonempty : word ≠ []
  unbroken : ∀ c ∈ word, isBlank c = false
  placed : ∃ before after, cs = before ++ word ++ after ∧ (∀ c, before.getLast? = some c → isBlank c = true) ∧
    ∀ c ∈ after, isBlank c = true

theorem isLastWord_lastWord {cs : List Char} (filled : cs.all isBlank = false) : IsLastWord cs (lastWord cs) := by
  have split : cs.reverse.takeWhile isBlank ++ cs.reverse.dropWhile isBlank = cs.reverse := List.takeWhile_append_dropWhile
  have ends : ∃ c rest, cs.reverse.dropWhile isBlank = c :: rest ∧ isBlank c = false := by
    cases left : cs.reverse.dropWhile isBlank with
    | nil =>
      have blank : cs.reverse.all isBlank = true := by
        rw [← split, left, List.append_nil]
        exact List.all_takeWhile
      rw [List.all_reverse, filled] at blank
      contradiction
    | cons c rest =>
      have first := List.head?_dropWhile_not isBlank cs.reverse
      rw [left] at first
      exact ⟨c, rest, rfl, by simpa using first⟩
  obtain ⟨c, rest, ends, filled⟩ := ends
  have word : lastWord cs = (c :: rest.takeWhile (!isBlank ·)).reverse := by
    simp [lastWord, ends, filled]
  refine ⟨by simp [word], ?_, (rest.dropWhile (!isBlank ·)).reverse, (cs.reverse.takeWhile isBlank).reverse, ?_, ?_, ?_⟩
  · intro d mem
    rw [word, List.mem_reverse, List.mem_cons] at mem
    rcases mem with rfl | mem
    · exact filled
    · simpa using List.all_eq_true.mp List.all_takeWhile d mem
  · calc cs = (cs.reverse.takeWhile isBlank ++ c :: rest).reverse := by rw [← ends, split, List.reverse_reverse]
      _ = (cs.reverse.takeWhile isBlank ++ c :: (rest.takeWhile (!isBlank ·) ++ rest.dropWhile (!isBlank ·))).reverse := by
        rw [List.takeWhile_append_dropWhile]
      _ = _ := by simp only [word, List.reverse_append, List.reverse_cons, List.append_assoc]
  · intro d last
    rw [List.getLast?_reverse] at last
    have first := List.head?_dropWhile_not (!isBlank ·) rest
    rw [last] at first
    simpa using first
  · intro d mem
    exact List.all_eq_true.mp List.all_takeWhile d (List.mem_reverse.mp mem)

/-- A text has one last word. -/
theorem IsLastWord.eq_lastWord {cs word : List Char} (last : IsLastWord cs word) : word = lastWord cs := by
  obtain ⟨before, after, rfl, apart, blank⟩ := last.placed
  have first : ∃ c rest, word.reverse = c :: rest ∧ isBlank c = false := by
    cases reversed : word.reverse with
    | nil => exact absurd (List.reverse_eq_nil_iff.mp reversed) last.nonempty
    | cons c rest => exact ⟨c, rest, rfl, last.unbroken c (List.mem_reverse.mp (by simp [reversed]))⟩
  obtain ⟨c, rest, reversed, filled⟩ := first
  have behind : (before ++ word ++ after).reverse.dropWhile isBlank = word.reverse ++ before.reverse := by
    rw [List.reverse_append, List.reverse_append, List.dropWhile_append_of_pos fun d mem => blank d (List.mem_reverse.mp mem),
      reversed, List.cons_append, List.dropWhile_cons_of_neg (by simp [filled])]
  have upTo : before.reverse.takeWhile (!isBlank ·) = [] := by
    cases front : before.reverse with
    | nil => rfl
    | cons d rest =>
      have blank := apart d (by rw [← List.head?_reverse, front, List.head?_cons])
      simp [blank]
  rw [lastWord, behind, List.takeWhile_append_of_pos fun d mem => by simp [last.unbroken d (List.mem_reverse.mp mem)], upTo,
    List.append_nil, List.reverse_reverse]

end OutlineCalc.Blank

namespace OutlineCalc.Outline

variable {o : Outline} {steps : List (Line × Nat)}

/-- Whether the line at a place is marked. -/
def marked (o : Outline) (i : Nat) : Bool := (o.lines[i]?.map (·.marked)).getD false

/-- The line that was put in last directly below a place, as it came. -/
def lastBelow? (steps : List (Line × Nat)) (i : Nat) : Option Line :=
  (steps.filter fun (_, parent) => parent = i).getLast?.map Prod.fst

/-! ## One line after the other -/

/-- The mark of a line is handed to the line directly above it and to no other. -/
theorem marked_insert (rooted : o.Rooted) (line : Line) {parent : Nat} (valid : parent < o.lines.size) (i : Nat) :
    (o.insert line parent).marked i = if i = o.lines.size ∨ i = parent then line.marked else o.marked i := by
  rw [marked, getElem?_insert rooted line valid]
  by_cases new : i = o.lines.size
  · simp [new]
  · by_cases above : i = parent
    · simp [above, Nat.ne_of_lt valid, valid]
    · simp [marked, new, above, Function.comp_def]

theorem lastBelow?_append_singleton (steps : List (Line × Nat)) (line : Line) (parent i : Nat) :
    lastBelow? (steps ++ [(line, parent)]) i = if parent = i then some line else lastBelow? steps i := by
  by_cases here : parent = i <;> simp [lastBelow?, here]

theorem GrownBy.parent_lt (grown : o.GrownBy steps) : ∀ step ∈ steps, step.2 < o.lines.size := by
  induction grown with
  | start => simp
  | step _ line valid ih =>
    intro step mem
    rw [size_insert]
    rcases List.mem_append.mp mem with mem | mem
    · exact Nat.lt_succ_of_lt (ih step mem)
    · obtain rfl := List.mem_singleton.mp mem
      exact Nat.lt_succ_of_lt valid

/-- Nothing has been put below a place that has no line yet. -/
theorem GrownBy.lastBelow?_size (grown : o.GrownBy steps) : lastBelow? steps o.lines.size = none := by
  have none : (steps.filter fun (_, parent) => parent = o.lines.size) = [] := by
    refine List.filter_eq_nil_iff.mpr fun step mem => ?_
    simpa using Nat.ne_of_lt (grown.parent_lt step mem)
  rw [lastBelow?, none]
  rfl

/-- However an outline has grown, a line has the mark that the line put in last directly below it
came with, or else the mark that it came with itself. -/
theorem GrownBy.marked_eq (grown : o.GrownBy steps) {i : Nat} {line : Line} (here : (came steps)[i]? = some line) :
    o.marked i = ((lastBelow? steps i).getD line).marked := by
  induction grown generalizing i line with
  | start =>
    obtain ⟨rfl, rfl⟩ : i = 0 ∧ root = line := by
      cases i <;> simp_all [came]
    rfl
  | @step o steps grown new parent valid ih =>
    have inside : i ≤ o.lines.size := by
      have := (List.getElem?_eq_some_iff.mp here).1
      have := (grown.step new valid).length_came
      rw [size_insert] at this
      omega
    rw [grown.getElem?_came_append new parent inside] at here
    rw [marked_insert grown.rooted new valid, lastBelow?_append_singleton]
    by_cases last : i = o.lines.size
    · subst last
      obtain rfl : new = line := by simpa using here
      simp [Nat.ne_of_lt valid, grown.lastBelow?_size]
    · rw [if_neg last] at here
      by_cases above : i = parent
      · simp [above]
      · simp [last, above, Ne.symm above, ih here]

/-! ## The last child -/

/-- Where new lines are put in, the line put in last below a place is the last child there. -/
theorem GrownBy.lastChild_eq (grown : o.GrownBy steps) (fresh : ∀ step ∈ steps, step.1.children = []) (i : Nat) :
    ((o.children i).getLast?.bind fun j => (came steps)[j]?) = lastBelow? steps i := by
  induction grown with
  | start => cases i <;> rfl
  | @step o steps grown line parent valid ih =>
    obtain ⟨fresh, childless⟩ := List.forall_mem_append.mp fresh
    have ih := ih fresh
    rw [children_insert grown.rooted line valid, childless _ (List.mem_singleton_self _), lastBelow?_append_singleton]
    by_cases new : i = o.lines.size
    · simp [new, Nat.ne_of_lt valid, grown.lastBelow?_size]
    · by_cases above : i = parent
      · simp [above, Nat.ne_of_lt valid, grown.getElem?_came_append line parent (Nat.le_refl _)]
      · rw [if_neg new, if_neg above, if_neg (Ne.symm above), ← ih]
        refine Option.bind_congr fun j last => ?_
        have inside := (lt_of_mem_children grown.rooted (grown.linked fresh) (List.mem_of_getLast? last)).2
        rw [grown.getElem?_came_append line parent (Nat.le_of_lt inside), if_neg (Nat.ne_of_lt inside)]

/-- A line has the mark that its last child came with, or else its own. -/
theorem GrownBy.marked_eq_lastChild (grown : o.GrownBy steps) (fresh : ∀ step ∈ steps, step.1.children = []) {i : Nat}
    (inside : i < o.lines.size) :
    ∃ line, (came steps)[(o.children i).getLast?.getD i]? = some line ∧ o.marked i = line.marked := by
  rw [← grown.length_came] at inside
  have own := List.getElem?_eq_getElem inside
  have settled := grown.marked_eq own
  have child := grown.lastChild_eq fresh i
  cases last : (o.children i).getLast? with
  | none =>
    rw [last, Option.bind_none] at child
    rw [← child] at settled
    exact ⟨_, own, settled⟩
  | some j =>
    have placed := (lt_of_mem_children grown.rooted (grown.linked fresh) (List.mem_of_getLast? last)).2
    rw [← grown.length_came] at placed
    have came := List.getElem?_eq_getElem placed
    rw [last, Option.bind_some, came] at child
    rw [← child] at settled
    exact ⟨_, came, settled⟩

theorem grownBy_foldl_put (grown : o.GrownBy steps) (lines : List Line) :
    ∃ more, more.map Prod.fst = lines ∧ (lines.foldl put o).GrownBy (steps ++ more) := by
  induction lines generalizing o steps with
  | nil => exact ⟨[], rfl, by rwa [List.append_nil]⟩
  | cons line lines ih =>
    obtain ⟨more, lines, grown⟩ := ih (grown.step line (findParent_lt grown.rooted line.indent))
    exact ⟨(line, _) :: more, by rw [List.map_cons, lines], by rwa [List.append_assoc] at grown⟩

end OutlineCalc.Outline

namespace OutlineCalc.Document

open Outline
open Blank (isBlank lastWord IsLastWord isLastWord_lastWord)

theorem filled_of_mem_filledRows {document row : String} (mem : row ∈ filledRows document) :
    row.toList.all isBlank = false := by
  obtain ⟨cs, kept, rfl⟩ := List.mem_map.mp mem
  simpa using (List.mem_filter.mp kept).2

section
variable [Machine]

/-- A calculated row has its own text, and is marked as its last word says. -/
theorem source_of_mem_calculated {rows : List String} {row : Nat} {store : Store} :
    ∀ line ∈ calculated rows row store, line.source ∈ rows ∧ line.marked = (lastWord line.source.toList).contains '$' := by
  induction rows generalizing row store with
  | nil => simp [calculated]
  | cons source rows ih =>
    intro line mem
    rcases List.mem_cons.mp mem with rfl | mem
    · exact ⟨List.mem_cons_self, rfl⟩
    · obtain ⟨source, marked⟩ := ih line mem
      exact ⟨List.mem_cons_of_mem _ source, marked⟩

theorem sources_calculated (rows : List String) (row : Nat) (store : Store) :
    (calculated rows row store).map (·.source) = rows := by
  have numbered := congrArg (List.map Prod.snd) (numbered_calculated rows row store)
  simpa [Function.comp_def] using numbered

theorem sources_build (document : String) (store : Store) :
    (build document store).1.lines.toList.map (·.source) = "Total" :: filledRows document := by
  have own := Line.map_eq_of_own Line.source (fun _ => rfl) _ (root :: calculated (filledRows document) 1 store.clear)
    (own_build document store)
  rwa [List.map_cons, sources_calculated] at own

/-- The root and the calculated rows of a document come with a mark just when the last word of their
text has one in it. -/
theorem marked_iff_of_came {document : String} {store : Store} {line : Line}
    (mem : line ∈ root :: calculated (filledRows document) 1 store) :
    line.source.toList.all isBlank = false ∧ (line.marked = true ↔ '$' ∈ lastWord line.source.toList) := by
  rcases List.mem_cons.mp mem with rfl | mem
  · decide
  · obtain ⟨source, marked⟩ := source_of_mem_calculated line mem
    exact ⟨filled_of_mem_filledRows source, by rw [marked, List.contains_iff_mem]⟩

/-- The lines that make the outline of a document are its calculated rows. -/
theorem exists_grownBy_build (document : String) (store : Store) :
    ∃ steps, steps.map Prod.fst = calculated (filledRows document) 1 store.clear ∧
      (build document store).1.GrownBy steps := by
  obtain ⟨steps, lines, grown⟩ := grownBy_foldl_put .start (calculated (filledRows document) 1 store.clear)
  exact ⟨steps, lines, by rwa [build_eq]⟩

/-- Whatever lines are put in below one another, after each of them a line has the mark that the line
put in last directly below it came with, or else the mark that it came with itself, and the root is
not marked while nothing stands below it; a new line changes the mark of the line directly above it
and no other. So in the outline of a document a row is marked just when the last word of its last
child, or of the row itself if it has none, has a currency mark in it. -/
theorem marked_build :
    (∀ {o : Outline} {steps : List (Line × Nat)}, o.GrownBy steps →
      (∀ i line, (came steps)[i]? = some line → o.marked i = ((lastBelow? steps i).getD line).marked) ∧
        ∀ line parent, parent < o.lines.size → ∀ i < o.lines.size, i ≠ parent →
          (o.insert line parent).marked i = o.marked i) ∧
    ∀ (document : String) (store : Store),
      let o := (build document store).1
      o.lines.toList.map (·.source) = "Total" :: filledRows document ∧
        ∀ i < o.lines.size, ∃ source, ("Total" :: filledRows document)[(o.children i).getLast?.getD i]? = some source ∧
          (∃ word, IsLastWord source.toList word) ∧
            ∀ word, IsLastWord source.toList word → (o.marked i = true ↔ '$' ∈ word) := by
  refine ⟨fun grown => ⟨fun i line here => grown.marked_eq here, fun line parent valid i inside other => ?_⟩,
    fun document store => ⟨sources_build document store, fun i inside => ?_⟩⟩
  · rw [marked_insert grown.rooted line valid, if_neg (by omega)]
  · obtain ⟨steps, lines, grown⟩ := exists_grownBy_build document store
    have fresh : ∀ step ∈ steps, step.1.children = [] := by
      intro step mem
      exact children_of_mem_calculated step.1 (lines ▸ List.mem_map_of_mem mem)
    obtain ⟨line, here, marked⟩ := grown.marked_eq_lastChild fresh inside
    rw [came, lines] at here
    obtain ⟨filled, dollar⟩ := marked_iff_of_came (List.mem_of_getElem? here)
    refine ⟨line.source, ?_, ⟨_, isLastWord_lastWord filled⟩, fun word last => ?_⟩
    · have sources : "Total" :: filledRows document =
          (root :: calculated (filledRows document) 1 store.clear).map (·.source) := by
        rw [List.map_cons, sources_calculated]
        rfl
      rw [sources, List.getElem?_map, here, Option.map_some]
    · rw [marked, dollar, last.eq_lastWord]

end

/-- Lines below one another, of which the middle one comes with a mark and then loses it to its own
child, when it has already handed it on. -/
def handedOn : List (Line × Nat) :=
  [({ source := "rent", indent := 0, row := 1 }, 0),
   ({ source := "march 5$", indent := 2, row := 2, marked := true }, 1),
   ({ source := "late 7", indent := 4, row := 3 }, 2)]

/-- The outline that these lines make. -/
def handedOnOutline : Outline := handedOn.foldl (fun o (line, parent) => o.insert line parent) empty

theorem grownBy_handedOn : handedOnOutline.GrownBy handedOn := by
  have rent := GrownBy.start.step handedOn[0].1 (by decide : 0 < _)
  have march := rent.step handedOn[1].1 (by decide : 1 < _)
  exact march.step handedOn[2].1 (by decide : 2 < _)

/-- The same lines as the rows of a document. -/
def handedOnRows : String := "rent\n  march 5$\n    late 7"

theorem marked_of_handedOn :
    letI := Machine.usual
    handedOnOutline.GrownBy handedOn ∧ handedOnOutline.marked 1 = true ∧ handedOnOutline.marked 2 = false ∧
      1 < (build handedOnRows {}).1.lines.size ∧ (build handedOnRows {}).1.marked 1 = true := by
  let _ := Machine.usual
  have settled := (marked_build.1 grownBy_handedOn).1
  have first : handedOnOutline.marked 1 = true := settled 1 handedOn[0].1 rfl
  have second : handedOnOutline.marked 2 = false := settled 2 handedOn[1].1 rfl
  have inside : 1 < (build handedOnRows {}).1.lines.size := by decide +kernel
  obtain ⟨source, last, ⟨word, ends⟩, dollar⟩ := (marked_build.2 handedOnRows {}).2 1 inside
  have child : ("Total" :: filledRows handedOnRows)[((build handedOnRows {}).1.children 1).getLast?.getD 1]? =
      some "  march 5$" := by decide +kernel
  obtain rfl : "  march 5$" = source := Option.some.inj (child.symm.trans last)
  refine ⟨grownBy_handedOn, first, second, inside, ?_⟩
  rw [dollar word ends, ends.eq_lastWord]
  decide

end OutlineCalc.Document
