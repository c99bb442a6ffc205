import OutlineCalc.Proofs.Concatenation
import OutlineCalc.Proofs.Execution
import OutlineCalc.Proofs.Printing

/-!
Words in front of an expression. In a line of free text a label of names, numbers, quoted texts and marks
that join nothing is passed over: behind a blank the line is calculated as if the label were not there.
-/

namespace OutlineCalc.Parse

/-- Whether a token is an operand by itself: a number, a quoted text or a name. -/
def IsOperand : Token → Prop
  | .number _ | .quoted _ | .name _ => True
  | .mark _ | .endOfLine => False

variable {label tokens : List Token} {token : Token}

/-- The marks that go on with an operand in front of them. -/
def joining : List Mark := [.leftParen, .plus, .minus, .star, .slash, .equal, .colon]

theorem closes_of_notJoining (notJoining : ∀ m ∈ joining, token ≠ .mark m) : Closes [token] := by
  cases token with
  | number _ | quoted _ | name _ => constructor <;> simp [factorOp?, termOp?]
  | endOfLine => exact closes_cons (by simp) []
  | mark m =>
    have notJoining : m ∉ joining := fun joins => notJoining m joins rfl
    cases m <;> first
      | exact absurd (by decide) notJoining
      | constructor <;> simp [factorOp?, termOp?, Assigns]

/-- What closes an operand does not depend on what stands further behind. -/
theorem Closes.cons (closes : Closes [token]) (more : List Token) : Closes (token :: more) :=
  ⟨closes.noFactor, closes.noTerm, closes.noAssign, closes.noCall⟩

/-- Nothing goes on with a token that is an operand by itself. -/
theorem IsOperand.closes (operand : IsOperand token) (more : List Token) : Closes (token :: more) := by
  refine (closes_of_notJoining ?_).cons more
  rintro m _ rfl
  exact operand

/-- In front of what closes it a token is read by itself, or nothing is. -/
theorem within_of_closes (closes : Closes [token]) (next : Closes tokens) (depth : Nat) :
    Rule.expression.within (depth + 1) (token :: tokens) = .absent ∨
      ∃ node, Rule.expression.within (depth + 1) (token :: tokens) = .found node tokens := by
  cases token with
  | number n => exact .inr ⟨_, (reads_number n).expresses (depth + 1) tokens next⟩
  | quoted content => exact .inr ⟨_, (reads_quoted content).expresses (depth + 1) tokens next⟩
  | name name => exact .inr ⟨_, (reads_name name).expresses (depth + 1) tokens next⟩
  | endOfLine => exact .inl rfl
  | mark m =>
    cases m with
    | rightParen | comma | dot | semicolon => exact .inl rfl
    | leftParen => exact absurd rfl closes.noCall
    | plus | minus => exact nomatch closes.noTerm _ rfl
    | star | slash => exact nomatch closes.noFactor _ rfl
    | equal => exact absurd (.inl rfl) (closes.noAssign .equal rfl)
    | colon => exact absurd (.inr rfl) (closes.noAssign .colon rfl)

/-- A token of a label is read by itself or not at all, on every machine, so it never reaches the end of the
line. -/
theorem trailing_cons [Machine] (closes : Closes [token]) (next : Closes tokens) (more : ¬ AtEnd tokens) (atStart : Bool) :
    trailing atStart (token :: tokens) = trailing false tokens := by
  have shallow : (Rule.expression.within 2 (token :: tokens)).isTooDeep = false := by
    obtain absent | ⟨node, found⟩ := within_of_closes closes next 1
    · rw [absent]
      rfl
    · rw [found]
      rfl
  have alone : token = .endOfLine → tokens = [] → False := fun _ none => more (none ▸ trivial)
  rw [trailing, Grammar.read_of_shallow shallow]
  · obtain absent | ⟨node, found⟩ := within_of_closes closes next (token :: tokens).length
    · rw [absent]
    · rw [found]
      simp only [if_neg more]
  · exact alone

/-- Whether a token may stand in a label: an operand in front of it is closed, and the line goes on. -/
structure Inert (token : Token) : Prop where
  closes : Closes [token]
  notEnd : token ≠ .endOfLine

section
variable (inert : ∀ token ∈ label, Inert token) (next : Closes tokens) (more : ¬ AtEnd tokens)
include inert next more

/-- A label in front of what closes an operand and is not the end of the line is so too. -/
theorem closes_label : Closes (label ++ tokens) ∧ ¬ AtEnd (label ++ tokens) := by
  cases label with
  | nil => exact ⟨next, more⟩
  | cons token label =>
    obtain ⟨closes, notEnd⟩ := inert token List.mem_cons_self
    exact ⟨closes.cons _, notEnd⟩

/-- Behind a label an expression up to the end of the line is the expression of the line, unless it is only a
name, or the machine has no room for it. -/
theorem line_label [Machine] {node : Expr}
    (whole : Rule.expression.within (tokens.length + 1) tokens = .found node [.endOfLine]) (notName : node.isName = false) :
    line (label ++ tokens) = if Machine.readsTooDeep 2 .expression tokens then .error .tooDeep else .ok (some node) := by
  have search (atStart : Bool) :
      trailing atStart (label ++ tokens) = if Machine.readsTooDeep 2 .expression tokens then .error .tooDeep else .ok (some node) := by
    induction label generalizing atStart with
    | nil =>
      cases tokens with
      | nil => exact absurd trivial more
      | cons first tokens =>
        have alone : first = .endOfLine → tokens = [] → False := fun last _ => more last
        have atEnd : AtEnd [.endOfLine] := rfl
        rw [List.nil_append, trailing, Rule.read, whole]
        · by_cases full : Machine.readsTooDeep 2 .expression (first :: tokens) = true
          · rw [if_pos full, if_pos full]
          · rw [if_neg full, if_neg full]
            simp only [if_pos atEnd, notName, Bool.not_false, Bool.or_true, if_true]
        · exact alone
    | cons token label ih =>
      obtain ⟨here, later⟩ := List.forall_mem_cons.mp inert
      obtain ⟨next', more'⟩ := closes_label later next more
      rw [List.cons_append, trailing_cons here.closes next' more', ih later]
  rw [line, search]
  by_cases full : Machine.readsTooDeep 2 .expression tokens = true
  · rw [if_pos full]
  · rw [if_neg full]

end

end OutlineCalc.Parse

namespace OutlineCalc.Calculation

open Parse

/-- A label that leaves no quote open and has no mark that goes on with an operand changes nothing of an expression
behind it that starts with an operand and is all of its text, unless that is only a name. -/
theorem tree_label [Machine] {label text : String} {first : Token} {more : List Token} {node : Expr}
    (closed : (Scan.line label).fault ≠ some .unterminatedString) (plain : ∀ m ∈ joining, .mark m ∉ (Scan.line label).tokens)
    (starts : (Scan.line text).tokens = first :: more) (operand : IsOperand first)
    (whole : Rule.expression.within ((Scan.line text).tokens.length + 1) (Scan.line text).tokens = .found node [.endOfLine])
    (notName : node.isName = false) :
    tree (label ++ " " ++ text) = tree text ∧
      ∀ store, run (label ++ " " ++ text) store =
        ({ (run text store).1 with scanFault := (Scan.line text).fault.or (Scan.line label).fault }, (run text store).2) := by
  have scanned : Scan.line (label ++ " " ++ text) = ⟨(Scan.line label).tokens.dropLast ++ (Scan.line text).tokens,
      (Scan.line text).fault.or (Scan.line label).fault⟩ := by
    have shape : (label ++ " " ++ text).toList = label.toList ++ ' ' :: text.toList := by simp
    rw [Scan.line, shape]
    exact Scan.chars_append_blank closed (by decide) text.toList
  have inert : ∀ token ∈ (Scan.line label).tokens.dropLast, Inert token := by
    intro token mem
    constructor
    · refine closes_of_notJoining fun m joins isMark => plain m joins ?_
      rw [← isMark]
      exact List.dropLast_subset _ mem
    · rintro rfl
      exact Scan.endOfLine_notMem_dropLast _ mem
  have next : Closes (Scan.line text).tokens := by
    rw [starts]
    exact operand.closes more
  have notEnd : ¬ AtEnd (Scan.line text).tokens := by
    rw [starts]
    rintro rfl
    exact operand
  have same : tree (label ++ " " ++ text) = tree text := by
    have alone := line_label (List.forall_mem_nil _) next notEnd whole notName
    rw [List.nil_append] at alone
    rw [tree, tree, scanned, alone]
    exact line_label inert next notEnd whole notName
  refine ⟨same, fun store => ?_⟩
  cases read : tree text with
  | error fault => rw [run_of_fault (same.trans read), run_of_fault read, scanned]
  | ok tree => rw [run_of_tree (same.trans read), run_of_tree read, scanned]

/-- A label with each kind of token that it may have, in front of an assignment. -/
theorem tree_label_assign :
    letI := Machine.usual
    tree ("Flat 2, May) 'no. 7';" ++ " " ++ "rent = 1200 * 2") = tree "rent = 1200 * 2" := by
  let _ := Machine.usual
  have label : Scan.line "Flat 2, May) 'no. 7';" = ⟨[.name "Flat", .number ⟨['2'], []⟩, .mark .comma, .name "May", .mark .rightParen,
      .quoted "no. 7", .mark .semicolon, .endOfLine], none⟩ := by decide +kernel
  have text : (Scan.line "rent = 1200 * 2").tokens = [.name "rent", .mark .equal, .number ⟨['1', '2', '0', '0'], []⟩,
      .mark .star, .number ⟨['2'], []⟩, .endOfLine] := by decide +kernel
  have whole : Rule.expression.within ((Scan.line "rent = 1200 * 2").tokens.length + 1) (Scan.line "rent = 1200 * 2").tokens =
      .found (.assign "rent" (.binary "*" (.number (Numeral.value ⟨['1', '2', '0', '0'], []⟩))
        (.number (Numeral.value ⟨['2'], []⟩)))) [.endOfLine] := by
    rw [text]
    rfl
  exact (tree_label (by rw [label]; decide) (by rw [label]; decide) text trivial whole rfl).1

end OutlineCalc.Calculation
