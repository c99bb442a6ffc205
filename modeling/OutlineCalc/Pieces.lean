/-!
The pieces of a list between the occurrences of a member, as of a text between those of a
character. There is always at least one.
-/

namespace OutlineCalc.Pieces

variable {α : Type} [DecidableEq α]

/-- The pieces of a list between the occurrences of a member. -/
def between (mark : α) : List α → List (List α)
  | [] => [[]]
  | c :: cs =>
    if c = mark then [] :: between mark cs
    else match between mark cs with
      | [] => [[c]]
      | piece :: pieces => (c :: piece) :: pieces

theorem between_ne_nil (mark : α) (cs : List α) : between mark cs ≠ [] := by
  fun_induction between mark cs <;> simp

/-- The pieces of two lists with the member between them are those of each. -/
theorem between_append (mark : α) (cs ds : List α) :
    between mark (cs ++ mark :: ds) = between mark cs ++ between mark ds := by
  fun_induction between mark cs with
  | case1 => simp [between]
  | case2 cs ih => simp [between, ih]
  | case3 c cs _ pieces ih => exact absurd pieces (between_ne_nil mark cs)
  | case4 c cs other piece more pieces ih =>
    rw [pieces] at ih
    simp [between, other, ih]

/-- No piece holds the member. -/
theorem not_mem_of_mem_between {mark : α} {cs piece : List α} (mem : piece ∈ between mark cs) :
    mark ∉ piece := by
  fun_induction between mark cs generalizing piece with
  | case1 => simp_all
  | case2 cs ih =>
    rcases List.mem_cons.1 mem with rfl | mem
    · simp
    · exact ih mem
  | case3 c cs _ pieces ih => exact absurd pieces (between_ne_nil mark cs)
  | case4 c cs other first more pieces ih =>
    rw [pieces] at ih
    rcases List.mem_cons.1 mem with rfl | mem
    · simpa [Ne.symm other] using ih List.mem_cons_self
    · exact ih (List.mem_cons_of_mem _ mem)

theorem between_of_not_mem {mark : α} {cs : List α} (free : mark ∉ cs) : between mark cs = [cs] := by
  induction cs with
  | nil => rfl
  | cons c cs ih =>
    obtain ⟨other, free⟩ := not_or.mp (mt List.mem_cons.mpr free)
    rw [between, if_neg (Ne.symm other), ih free]

/-- Lists that do not hold the member are the pieces of what they are joined to by it. -/
theorem between_intercalate {mark : α} {pieces : List (List α)} (nonempty : pieces ≠ [])
    (free : ∀ piece ∈ pieces, mark ∉ piece) : between mark (List.intercalate [mark] pieces) = pieces := by
  induction pieces with
  | nil => contradiction
  | cons piece pieces ih =>
    have first := between_of_not_mem (free piece List.mem_cons_self)
    cases pieces with
    | nil => rw [List.intercalate_singleton, first]
    | cons second more =>
      rw [List.intercalate_cons_cons, List.append_assoc, List.singleton_append, between_append, first,
        ih (List.cons_ne_nil _ _) fun other mem => free other (List.mem_cons_of_mem _ mem)]
      rfl

end OutlineCalc.Pieces
