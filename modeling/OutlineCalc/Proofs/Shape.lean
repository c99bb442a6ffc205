import OutlineCalc.Proofs.Calls
import OutlineCalc.Proofs.Concatenation
import OutlineCalc.Proofs.Execution
import OutlineCalc.Proofs.Longest
import OutlineCalc.Proofs.Nearest

/-!
The shape of what is read on a line. Whatever rule of the grammar has read it, and from whatever place on, an
expression is made of the names of the line, of quoted texts without a quote, of numbers from zero up to infinity,
and of the signs that operators are written with. So the evaluation of a line never meets an operator that it does
not know.
-/

namespace OutlineCalc

/-- Whether a double is a number from zero up to infinity, the negative zero apart. -/
def Binary64.IsUnsigned (x : Float) : Prop := isNaN x = false ∧ isNegative x = false

theorem Binary64.isUnsigned_nearest (a d : Nat) : IsUnsigned (nearest a d) := by
  refine ⟨?_, isNegative_nearest a d⟩
  have le : nearestBits a d ≤ infinityBits := Nat.min_le_right _ _
  simp only [infinityBits, Nat.pow_eq] at le
  simp only [isNaN, exponentField, fractionField, toBits_nearest, Nat.pow_eq, Bool.and_eq_false_iff, beq_eq_false_iff_ne,
    bne_eq_false_iff_eq]
  -- with all bits of the exponent set there are none left for a fraction
  omega

/-- Whether a node can have been read from some tokens. -/
def Node.Shaped (tokens : List Token) : Node → Prop
  | .number x => Binary64.IsUnsigned x
  | .text content => '\'' ∉ content.toList
  | .name n | .assign n | .call n _ => .name n ∈ tokens
  | .unary op => op = "-"
  | .binary op => op ∈ ["+", "-", "*", "/"]

/-- Whether all nodes of an expression can have been read from some tokens. -/
def Expr.Shaped (tokens : List Token) (tree : Expr) : Prop := ∀ node ∈ tree.postorder, node.Shaped tokens

namespace Expr

variable {tokens : List Token}

theorem shaped_unary {op : String} {operand : Expr} :
    (unary op operand).Shaped tokens ↔ operand.Shaped tokens ∧ op = "-" := by
  simp only [Shaped, postorder, List.forall_mem_append, List.forall_mem_singleton, Node.Shaped]

theorem shaped_binary {op : String} {left right : Expr} :
    (binary op left right).Shaped tokens ↔ left.Shaped tokens ∧ right.Shaped tokens ∧ op ∈ ["+", "-", "*", "/"] := by
  simp only [Shaped, postorder, List.forall_mem_append, List.forall_mem_singleton, Node.Shaped, and_assoc]

theorem shaped_assign {n : String} {value : Expr} :
    (assign n value).Shaped tokens ↔ value.Shaped tokens ∧ .name n ∈ tokens := by
  simp only [Shaped, postorder, List.forall_mem_append, List.forall_mem_singleton, Node.Shaped]

theorem shaped_call {n : String} {args : List Expr} :
    (call n args).Shaped tokens ↔ (∀ arg ∈ args, arg.Shaped tokens) ∧ .name n ∈ tokens := by
  rw [Shaped, postorder, List.forall_mem_append, List.forall_mem_singleton]
  refine and_congr ⟨fun all arg mem node within => ?_, fun each node among => ?_⟩ Iff.rfl
  · exact all node (mem_postorders.mpr ⟨arg, mem, within⟩)
  · obtain ⟨arg, mem, within⟩ := mem_postorders.mp among
    exact each arg mem node within

end Expr

/-! ## What is derived -/

namespace Grammar

open Parse

variable {tokens : List Token}

theorem Chain.shaped {Operand : Nat → Nat → Expr → Prop} {op? : Token → Option String}
    (signs : ∀ token op, op? token = some op → op ∈ ["+", "-", "*", "/"])
    (operands : ∀ i j node, Operand i j node → node.Shaped tokens) {i k : Nat} {left node : Expr}
    (shaped : left.Shaped tokens) (chain : Chain tokens Operand op? i left k node) : node.Shaped tokens := by
  induction chain with
  | done => exact shaped
  | step here sign operand _ ih => exact ih (Expr.shaped_binary.mpr ⟨shaped, operands _ _ _ operand, signs _ _ sign⟩)

theorem Listed.shaped {Item : Nat → Nat → Expr → Prop} (each : ∀ i j node, Item i j node → node.Shaped tokens) {i k : Nat}
    {nodes : List Expr} (items : Listed tokens Item i k nodes) : ∀ node ∈ nodes, node.Shaped tokens := by
  induction items with
  | last item => simpa using each _ _ _ item
  | more item _ _ ih => exact List.forall_mem_cons.mpr ⟨each _ _ _ item, ih⟩

theorem Derives.shaped (quoted : ∀ content, .quoted content ∈ tokens → '\'' ∉ content.toList) {rule : Rule} {i j : Nat}
    {node : Expr} (derives : Derives tokens rule i j node) : node.Shaped tokens := by
  induction derives using Derives.induct with
  | statement _ _ _ _ ih | term _ _ _ _ ih | primary _ _ _ _ ih | call _ _ _ _ ih | parens _ _ _ _ _ _ ih => exact ih
  | assign _ _ _ _ _ here _ _ _ ih => exact Expr.shaped_assign.mpr ⟨ih, List.mem_of_getElem? here⟩
  | sum _ _ _ _ _ _ _ ih chain =>
    refine chain.shaped (fun token op sign => ?_) (fun _ _ _ ⟨_, shaped⟩ => shaped) ih
    unfold termOp? at sign
    split at sign <;> simp_all
  | product _ _ _ _ _ _ _ ih chain =>
    refine chain.shaped (fun token op sign => ?_) (fun _ _ _ ⟨_, shaped⟩ => shaped) ih
    unfold factorOp? at sign
    split at sign <;> simp_all
  | minus _ _ _ _ _ ih => exact Expr.shaped_unary.mpr ⟨ih, rfl⟩
  | number _ numeral _ => exact List.forall_mem_singleton.mpr (Binary64.isUnsigned_nearest _ _)
  | quoted _ content here => exact List.forall_mem_singleton.mpr (quoted content (List.mem_of_getElem? here))
  | name _ _ here => exact List.forall_mem_singleton.mpr (List.mem_of_getElem? here)
  | callEmpty _ _ here _ _ => exact Expr.shaped_call.mpr ⟨List.forall_mem_nil _, List.mem_of_getElem? here⟩
  | callWith _ _ _ _ here _ _ _ items =>
    exact Expr.shaped_call.mpr ⟨items.shaped fun _ _ _ ⟨_, shaped⟩ => shaped, List.mem_of_getElem? here⟩

/-! ## What is read -/

section
variable [Machine] {calls : Nat}

theorem read_of_leading {node : Expr} (found : leading calls tokens = .ok (some node)) :
    ∃ rest, Rule.expression.read calls tokens = .found node rest := by
  rw [leading] at found
  cases outcome : Rule.expression.read calls tokens with
  | tooDeep => simp [outcome, Outcome.node?] at found
  | absent => simp [outcome, Outcome.node?] at found
  | found other rest =>
    obtain rfl : other = node := by simpa [outcome, Outcome.node?] using found
    exact ⟨rest, rfl⟩

theorem read_of_trailing {atStart : Bool} {node : Expr} (found : trailing atStart tokens = .ok (some node)) :
    ∃ start rest, Rule.expression.read 2 (tokens.drop start) = .found node rest := by
  have next {token : Token} {more : List Token}
      (read : ∃ start rest, Rule.expression.read 2 (more.drop start) = .found node rest) :
      ∃ start rest, Rule.expression.read 2 ((token :: more).drop start) = .found node rest := by
    obtain ⟨start, rest, read⟩ := read
    exact ⟨start + 1, rest, read⟩
  fun_induction trailing atStart tokens with
  | case1 | case2 | case3 => simp at found
  | case4 _ _ _ _ _ ih | case6 _ _ _ _ _ _ _ _ ih => exact next (ih found)
  | case5 atStart token rest _ other left outcome =>
    obtain ⟨_, rfl⟩ : (atStart = true ∨ other.isName = false) ∧ other = node := by simpa using found
    exact ⟨0, left, outcome⟩

/-- The expression of a line was read from some place on. -/
theorem read_of_line {node : Expr} (found : line tokens = .ok (some node)) :
    ∃ calls start rest, Rule.expression.read calls (tokens.drop start) = .found node rest := by
  rw [line] at found
  cases reached : trailing true tokens with
  | error fault => simp [reached] at found
  | ok node? =>
    rw [reached] at found
    cases node? with
    | none =>
      obtain ⟨rest, read⟩ := read_of_leading found
      exact ⟨3, 0, rest, read⟩
    | some other =>
      obtain rfl : other = node := by simpa using found
      obtain ⟨start, rest, read⟩ := read_of_trailing reached
      exact ⟨2, start, rest, read⟩

end

end Grammar

/-! ## What is evaluated -/

namespace Fault

/-- What the texts of those faults start with that no line comes to. -/
def unreached : List String := ["unknown op", "unknown unary op", "unknown expr type"]

/-- What the text of a fault starts with. -/
def opening : Fault → String
  | textOperand _ _ => "unsupported operand for "
  | unknownOp _ => "unknown op: "
  | unknownUnaryOp _ => "unknown unary op: "
  | unknownFunction _ => "unknown function '"
  | argumentCount name _ _ => name
  | tooDeep => "expression too deeply nested"

theorem exists_message_eq (fault : Fault) : ∃ rest, fault.message = fault.opening ++ rest := by
  cases fault with
  | textOperand op content =>
    refine ⟨op ++ ": '" ++ content ++ "'", ?_⟩
    simp only [← String.append_assoc]
    rfl
  | unknownOp op => exact ⟨op, rfl⟩
  | unknownUnaryOp op => exact ⟨op, rfl⟩
  | unknownFunction name =>
    refine ⟨name ++ "'", ?_⟩
    simp only [← String.append_assoc]
    rfl
  | argumentCount name takes given =>
    refine ⟨"() takes " ++ takes.repr ++ " argument(s) (" ++ given.repr ++ " given)", ?_⟩
    simp only [← String.append_assoc]
    rfl
  | tooDeep => exact ⟨"", String.append_empty.symm⟩

/-- Whether the text of a fault starts otherwise than those that no line comes to. -/
def Apart (fault : Fault) : Prop :=
  ∀ cause ∈ unreached, ¬ cause.toList <+: fault.opening.toList ∧ ¬ fault.opening.toList <+: cause.toList

theorem Apart.message_ne {fault : Fault} (apart : fault.Apart) : ∀ cause ∈ unreached, ∀ rest, fault.message ≠ cause ++ rest := by
  intro cause mem rest same
  obtain ⟨shorter, longer⟩ := apart cause mem
  obtain ⟨content, message⟩ := fault.exists_message_eq
  have lists := congrArg String.toList (message.symm.trans same)
  rw [String.toList_append, String.toList_append] at lists
  have isPrefix : fault.opening.toList <+: cause.toList ++ rest.toList := ⟨content.toList, lists⟩
  rcases List.prefix_or_prefix_of_prefix isPrefix (List.prefix_append cause.toList rest.toList) with inside | around
  · exact longer inside
  · exact shorter around

end Fault

namespace Eval

variable {tokens : List Token} {fault : Fault}

theorem Fails.apart [Machine] {node : Node} {operands : List Value} (fails : Fails node operands fault) (shaped : node.Shaped tokens) :
    fault.Apart := by
  cases fails with
  | unaryText | leftText | rightText | argumentText | unknownFunction => simp [Fault.Apart, Fault.unreached, Fault.opening]
  | unaryUnknown _ unknown => exact absurd shaped unknown
  | binaryUnknown _ _ unknown => exact absurd shaped unknown
  | @argumentCount name function known =>
    -- the text starts with the name of a function
    have names : ∀ entry ∈ Builtin.arities, ∀ cause ∈ Fault.unreached,
        ¬ cause.toList <+: entry.1.toList ∧ ¬ entry.1.toList <+: cause.toList := by simp [Builtin.arities, Fault.unreached]
    have listed : (name, function.arity) ∈ Builtin.arities := by
      rw [Builtin.mem_arities_iff, Builtin.lookup_arities, known, Option.map_some]
    exact names _ listed

theorem Executes.apart [Machine] {tree : Expr} {store final : Store} {result : Result} {done : List (Node × Value)}
    (executes : Executes tree store result done final) (shaped : tree.Shaped tokens) (failed : result.fault = some fault) :
    fault.Apart := by
  cases executes with
  | all => contradiction
  | upTo performs before fails =>
    obtain rfl := Option.some.inj failed
    have mem : _ ∈ tree.postorder := before ▸ List.mem_append_right _ List.mem_cons_self
    exact fails.apart (shaped _ mem)
  | tooDeep =>
    obtain rfl := Option.some.inj failed
    simp [Fault.Apart, Fault.unreached, Fault.opening]

end Eval

namespace Calculation

open Parse

section
variable [Machine]

theorem evalFault_apart {text : String} {tokens : List Token} (shaped : ∀ node, tree text = .ok (some node) → node.Shaped tokens)
    {store : Store} {fault : Fault} (failed : (run text store).1.evalFault = some fault) : fault.Apart := by
  cases read : tree text with
  | error deep =>
    rw [run_of_fault read] at failed
    contradiction
  | ok node? =>
    rw [run_of_tree read] at failed
    cases node? with
    | none => contradiction
    | some node =>
      obtain ⟨done, executes⟩ := Eval.exists_executes node store
      exact executes.apart (shaped node read) failed

/-- What any rule of the grammar reads on a line, from any token on, and what is read of the whole line is made of names
of the line, texts without a quote, numbers that are no NaN and have no sign, and the operators that there are. So no
line, over no store, comes to a fault of an unknown operator or kind of expression. -/
theorem tree_shaped (text : String) :
    let tokens := (Scan.line text).tokens
    (∀ calls (rule : Rule) start node rest, rule.read calls (tokens.drop start) = .found node rest → node.Shaped tokens) ∧
      (∀ calls start args rest, arguments calls (tokens.drop start) = .found args rest → ∀ arg ∈ args, arg.Shaped tokens) ∧
      (∀ calls start node, leading calls (tokens.drop start) = .ok (some node) → node.Shaped tokens) ∧
      (∀ node, tree text = .ok (some node) → node.Shaped tokens) ∧
      ∀ store fault, (run text store).1.evalFault = some fault →
        ∀ cause ∈ ["unknown op", "unknown unary op", "unknown expr type"], ∀ rest, fault.message ≠ cause ++ rest := by
  intro tokens
  have quoted : ∀ content, .quoted content ∈ tokens → '\'' ∉ content.toList := by
    intro content mem
    obtain ⟨lexeme, rest, here⟩ := Scan.lexeme_of_mem_tokens mem nofun
    cases here with
    | quoted quoteFree => simpa using quoteFree
  have rules : ∀ calls (rule : Rule) start node rest,
      rule.read calls (tokens.drop start) = .found node rest → node.Shaped tokens := by
    intro calls rule start node rest read
    obtain ⟨_, _, longest⟩ := Grammar.longest_of_read read
    exact longest.derives.shaped quoted
  have trees : ∀ node, tree text = .ok (some node) → node.Shaped tokens := by
    intro node found
    obtain ⟨calls, start, rest, read⟩ := Grammar.read_of_line found
    exact rules calls .expression start node rest read
  refine ⟨rules, ?_, ?_, trees, ?_⟩
  · intro calls start args rest read
    obtain ⟨_, _, listed⟩ := Grammar.listed_of_arguments read
    exact listed.shaped fun _ _ _ derives => derives.shaped quoted
  · intro calls start node found
    obtain ⟨rest, read⟩ := Grammar.read_of_leading found
    exact rules calls .expression start node rest read
  · intro store fault failed
    exact (evalFault_apart trees failed).message_ne

end

/-- A line with names of all kinds, a quoted text and a number, where only the name of the function is unknown. -/
theorem tree_shaped_assign :
    letI := Machine.usual
    let tokens := (Scan.line "Rent: x = -rate('old flat', 2.5) / y").tokens
    ∃ node, tree "Rent: x = -rate('old flat', 2.5) / y" = .ok (some node) ∧ node.Shaped tokens ∧
      ∃ fault, (run "Rent: x = -rate('old flat', 2.5) / y" {}).1.evalFault = some fault ∧
        fault.message = "unknown function 'rate'" ∧ ∀ rest, fault.message ≠ "unknown op" ++ rest := by
  let _ := Machine.usual
  intro tokens
  have read : tree "Rent: x = -rate('old flat', 2.5) / y" = .ok (some (.assign "x" (.binary "/"
      (.unary "-" (.call "rate" [.text "old flat", .number (Numeral.value ⟨['2'], ['5']⟩)])) (.name "y")))) := by
    have scanned : tokens = [.name "Rent", .mark .colon, .name "x", .mark .equal, .mark .minus, .name "rate", .mark .leftParen,
        .quoted "old flat", .mark .comma, .number ⟨['2'], ['5']⟩, .mark .rightParen, .mark .slash, .name "y", .endOfLine] := by
      decide +kernel
    change Parse.line tokens = _
    rw [scanned]
    rfl
  have failed : (run "Rent: x = -rate('old flat', 2.5) / y" {}).1.evalFault = some (.unknownFunction "rate") := by
    rw [run_of_tree read]
    rfl
  obtain ⟨_, _, _, trees, reached⟩ := tree_shaped "Rent: x = -rate('old flat', 2.5) / y"
  refine ⟨_, read, trees _ read, _, failed, rfl, ?_⟩
  exact reached {} _ failed "unknown op" List.mem_cons_self

end Calculation

end OutlineCalc
