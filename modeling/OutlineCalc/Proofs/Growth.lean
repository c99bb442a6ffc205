import OutlineCalc.Proofs.RollUp

/-!
Outlines that grow line by line, where each line can be put below any line that is there by then.
Whatever the lines bring along, and wherever they are put, a result is what its line came with and
then the values of all lines that were put in below it, in the order they came.
-/

namespace OutlineCalc.Outline

/-- `o.GrownBy steps`: nothing but the root becomes `o` when the lines of `steps` are put in one after
the other, each below the line at the place that stands beside it and is there by then. -/
inductive GrownBy : Outline → List (Line × Nat) → Prop
  | start : GrownBy .empty []
  | step {o : Outline} {steps : List (Line × Nat)} (grown : GrownBy o steps) (line : Line) {parent : Nat}
      (valid : parent < o.lines.size) : GrownBy (o.insert line parent) (steps ++ [(line, parent)])

variable {o : Outline} {steps : List (Line × Nat)}

theorem GrownBy.rooted (grown : o.GrownBy steps) : o.Rooted := by
  induction grown with
  | start => exact rooted_empty
  | step _ line valid ih => exact rooted_insert ih line valid

/-- The lines of an outline as they came, the root first. -/
def came (steps : List (Line × Nat)) : List Line := root :: steps.map Prod.fst

theorem GrownBy.length_came (grown : o.GrownBy steps) : (came steps).length = o.lines.size := by
  induction grown with
  | start => rfl
  | step _ line valid ih => simp [came, size_insert, ← ih]

theorem GrownBy.getElem?_came_append (grown : o.GrownBy steps) (line : Line) (parent : Nat) {i : Nat}
    (inside : i ≤ o.lines.size) :
    (came (steps ++ [(line, parent)]))[i]? = if i = o.lines.size then some line else (came steps)[i]? := by
  have more : came (steps ++ [(line, parent)]) = came steps ++ [line] := by
    simp [came]
  have length := grown.length_came
  rw [more]
  by_cases new : i = o.lines.size
  · rw [if_pos new, new, ← length, List.getElem?_concat_length]
  · rw [if_neg new, List.getElem?_append_left (by omega)]

/-- The lines are still what they were when they were put in, as far as no other line changes them. -/
theorem GrownBy.own (grown : o.GrownBy steps) :
    o.lines.toList.map Line.own = (came steps).map Line.own := by
  induction grown with
  | start => rfl
  | step grown line valid ih => simp [own_insert grown.rooted line valid, ih, came]

theorem GrownBy.rolledUp (grown : o.GrownBy steps) : o.RolledUp (0 :: steps.map fun (line, _) => line.result) := by
  induction grown with
  | start => exact rolledUp_empty
  | step grown line valid ih =>
    rw [List.map_append, ← List.cons_append]
    exact rolledUp_insert grown.rooted ih line valid

theorem GrownBy.value_eq (grown : o.GrownBy steps) :
    o.lines.toList.map (·.value) = 0 :: steps.map fun (line, _) => line.value := by
  have values := Line.map_eq_of_own Line.value (fun _ => rfl) _ _ grown.own
  rwa [came, List.map_cons, List.map_map] at values

/-- However an outline has grown, every result is what its line came with, or zero for the root, and
then the values of just the lines that have it above them, in the order they were put in. No value is
added to its own line, and another line leaves all results alone but those of the lines above it. -/
theorem result_of_grownBy (grown : o.GrownBy steps) :
    o.lines.toList.map (·.value) = 0 :: steps.map (fun (line, _) => line.value) ∧
      o.RolledUp (0 :: steps.map fun (line, _) => line.result) ∧ (∀ i, i ∉ o.below i) ∧
      ∀ line parent, parent < o.lines.size → ∀ i < o.lines.size,
        i ∉ (o.insert line parent).ancestors o.lines.size → (o.insert line parent).result i = o.result i := by
  refine ⟨grown.value_eq, grown.rolledUp, ?_, ?_⟩
  · intro i mem
    have := lt_of_mem_below grown.rooted mem
    omega
  · intro line parent valid i inside notAbove
    rw [ancestors_insert_self grown.rooted line valid] at notAbove
    rw [result_insert_of_lt grown.rooted line valid inside, if_neg notAbove]

/-- Lines that come in turns below two others; the first brings a result other than its value. -/
def interleaved : List (Line × Nat) :=
  [({ source := "rent", indent := 0, row := 1, value := 1, result := 7 }, 0),
   ({ source := "food", indent := 0, row := 2, value := 2, result := 2 }, 0),
   ({ source := "march", indent := 2, row := 3, value := 4, result := 4 }, 1),
   ({ source := "bread", indent := 2, row := 4, value := 8, result := 8 }, 2),
   ({ source := "water", indent := 4, row := 5, value := 16, result := 16 }, 3),
   ({ source := "milk", indent := 2, row := 6, value := 32, result := 32 }, 2)]

/-- The outline that these lines make. -/
def interleavedOutline : Outline := interleaved.foldl (fun o (line, parent) => o.insert line parent) empty

theorem grownBy_interleaved : interleavedOutline.GrownBy interleaved := by
  have none := GrownBy.start
  have rent := none.step interleaved[0].1 (by decide : 0 < _)
  have food := rent.step interleaved[1].1 (by decide : 0 < _)
  have march := food.step interleaved[2].1 (by decide : 1 < _)
  have bread := march.step interleaved[3].1 (by decide : 2 < _)
  have water := bread.step interleaved[4].1 (by decide : 3 < _)
  exact water.step interleaved[5].1 (by decide : 2 < _)

theorem result_of_interleaved :
    interleavedOutline.GrownBy interleaved ∧ interleavedOutline.result 1 = 7 + 4 + 16 ∧
      interleavedOutline.result 2 = 2 + 8 + 32 ∧ interleavedOutline.result 0 = 0 + 1 + 2 + 4 + 8 + 16 + 32 := by
  have rolled := (result_of_grownBy grownBy_interleaved).2.1
  exact ⟨grownBy_interleaved, rolled.sum 1 7 rfl, rolled.sum 2 2 rfl, rolled.sum 0 0 rfl⟩

end OutlineCalc.Outline
