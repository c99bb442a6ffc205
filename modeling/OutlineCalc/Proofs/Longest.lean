import OutlineCalc.Machine.Usual
import OutlineCalc.Proofs.Depth
import OutlineCalc.Proofs.Grammar

/-!
Reading from left to right finds the longest derivation: a rule commits to the first alternative
that fits and never goes back, and still reads as far as the grammar allows, with the only node
that there is. The reason is what stands behind a shorter derivation: always a token that the
longer one goes on with, and never one that could close what the rule was called for.
-/

namespace OutlineCalc.Grammar
open OutlineCalc.Parse

variable {tokens : List Token}

private theorem of_drop_eq_cons {i : Nat} {token : Token} {rest : List Token}
    (split : tokens.drop i = token :: rest) : tokens[i]? = some token ∧ rest = tokens.drop (i + 1) := by
  constructor
  · rw [← List.head?_drop, split, List.head?_cons]
  · rw [← List.tail_drop, split, List.tail_cons]

private theorem drop_eq_cons {i : Nat} {token : Token} (here : tokens[i]? = some token) :
    tokens.drop i = token :: tokens.drop (i + 1) := by
  obtain ⟨inside, rfl⟩ := List.getElem?_eq_some_iff.mp here
  exact List.drop_eq_getElem_cons inside

/-- There is only one token at a place. -/
private theorem token_unique {i : Nat} {first second : Token} (here : tokens[i]? = some first)
    (there : tokens[i]? = some second) : first = second :=
  Option.some.inj (here.symm.trans there)

/-! ## What a reading settles -/

/-- `node` up to place `j` is derived, and whatever else is derived ends earlier, in front of a
token that `continues`. -/
structure Furthest (tokens : List Token) (continues : Token → Prop) (Derived : Nat → Expr → Prop) (j : Nat)
    (node : Expr) : Prop where
  derived : Derived j node
  others : ∀ k other, Derived k other →
    (k = j ∧ other = node) ∨ (k < j ∧ ∃ token, tokens[k]? = some token ∧ continues token)

/-- Whether an outcome tells all about what is derived from a place on: that there is nothing, or
what goes furthest. -/
def Settles (tokens : List Token) (continues : Token → Prop) (Derived : Nat → Expr → Prop) : Outcome Expr → Prop
  | .tooDeep => True
  | .absent => ∀ j node, ¬ Derived j node
  | .found node rest => ∃ j, rest = tokens.drop j ∧ Furthest tokens continues Derived j node

section
variable {continues more : Token → Prop} {Derived Other : Nat → Expr → Prop}

/-- A derivation in front of a token that does not continue it is the one that goes furthest. -/
theorem Furthest.eq_of_stops {j k : Nat} {node other : Expr} {token : Token}
    (furthest : Furthest tokens continues Derived j node) (derived : Derived k other)
    (here : tokens[k]? = some token) (stops : ¬ continues token) : k = j ∧ other = node := by
  obtain same | ⟨_, found, there, goesOn⟩ := furthest.others k other derived
  · exact same
  · obtain rfl := token_unique here there
    exact absurd goesOn stops

private theorem Furthest.congr {j : Nat} {node : Expr} (furthest : Furthest tokens continues Derived j node)
    (weaker : ∀ token, continues token → more token) (same : ∀ j node, Other j node ↔ Derived j node) :
    Furthest tokens more Other j node := by
  refine ⟨(same j node).mpr furthest.derived, fun k other derived => ?_⟩
  obtain equal | ⟨before, token, here, goesOn⟩ := furthest.others k other ((same k other).mp derived)
  · exact .inl equal
  · exact .inr ⟨before, token, here, weaker token goesOn⟩

private theorem Settles.congr {outcome : Outcome Expr} (settles : Settles tokens continues Derived outcome)
    (weaker : ∀ token, continues token → more token) (same : ∀ j node, Other j node ↔ Derived j node) :
    Settles tokens more Other outcome := by
  cases outcome with
  | tooDeep => trivial
  | absent => exact fun j node derived => settles j node ((same j node).mp derived)
  | found node rest =>
    obtain ⟨j, left, furthest⟩ := settles
    exact ⟨j, left, furthest.congr weaker same⟩

end

/-- The tokens that stand behind a derivation by a rule when there is a longer one. -/
def Continues : Rule → Token → Prop
  | .call, _ => False
  | .primary, token | .unary, token => token = .mark .leftParen
  | .factor, token => (factorOp? token).isSome ∨ token = .mark .leftParen
  | .term, token => (termOp? token).isSome ∨ (factorOp? token).isSome ∨ token = .mark .leftParen
  | .statement, token | .expression, token =>
    (∃ m, token = .mark m ∧ Assigns m) ∨ (termOp? token).isSome ∨ (factorOp? token).isSome ∨ token = .mark .leftParen

/-- Whether reading from any place tells all about what the rule derives from there. -/
def Decides (tokens : List Token) (rule : Rule) (read : List Token → Outcome Expr) : Prop :=
  ∀ i, Settles tokens (Continues rule) (Derives tokens rule i) (read (tokens.drop i))

private theorem not_continues_rightParen : ¬ Continues .expression (.mark .rightParen) := by
  simp [Continues, Assigns, termOp?, factorOp?]

private theorem not_continues_comma : ¬ Continues .expression (.mark .comma) := by
  simp [Continues, Assigns, termOp?, factorOp?]

private theorem not_continues_assigns {m : Mark} (assigns : Assigns m) : ¬ Continues .term (.mark m) := by
  rcases assigns with rfl | rfl <;> simp [Continues, termOp?, factorOp?]

/-! ## Chains of operands -/

section
variable {Operand : Nat → Nat → Expr → Prop} {op? : Token → Option String} {continues : Token → Prop}
  {operand : List Token → Outcome Expr}

/-- A chain ends where no operator with an operand stands. -/
private theorem Chain.eq_of_stuck {i k : Nat} {left node : Expr}
    (stuck : ∀ token op j right, tokens[i]? = some token → op? token = some op → ¬ Operand (i + 1) j right)
    (chain : Chain tokens Operand op? i left k node) : k = i ∧ node = left := by
  cases chain with
  | done => exact ⟨rfl, rfl⟩
  | step here sign operand _ => exact absurd operand (stuck _ _ _ _ here sign)

private theorem Chain.furthest_of_stuck {i : Nat} {left : Expr}
    (stuck : ∀ token op j right, tokens[i]? = some token → op? token = some op → ¬ Operand (i + 1) j right) :
    Furthest tokens continues (Chain tokens Operand op? i left) i left :=
  ⟨.done, fun _ _ chain => .inl (chain.eq_of_stuck stuck)⟩

private theorem Chain.le (ahead : ∀ i j node, Operand i j node → i < j) {i k : Nat} {left node : Expr}
    (chain : Chain tokens Operand op? i left k node) : i ≤ k := by
  induction chain with
  | done => exact Nat.le_refl _
  | step _ _ operand _ ih =>
    have := ahead _ _ _ operand
    omega

/-- From a shorter operand no chain goes on: the token behind it is no operator. -/
private theorem Chain.eq_of_continues (apart : ∀ token, continues token → op? token = none) {i k : Nat}
    {left node : Expr} {token : Token} (here : tokens[i]? = some token) (goesOn : continues token)
    (chain : Chain tokens Operand op? i left k node) : k = i ∧ node = left := by
  refine chain.eq_of_stuck fun found op j right there sign _ => ?_
  obtain rfl := token_unique here there
  rw [apart token goesOn] at sign
  contradiction

/-- A first operand that goes furthest, and the furthest chain behind it, make the furthest whole. -/
private theorem furthest_chain (ahead : ∀ i j node, Operand i j node → i < j)
    (apart : ∀ token, continues token → op? token = none) {Derived : Nat → Expr → Prop} (join : Expr → Expr)
    {j k : Nat} {first node : Expr} (operand : Furthest tokens continues Derived j first)
    (chain : Furthest tokens (fun token => (op? token).isSome ∨ continues token)
      (Chain tokens Operand op? j (join first)) k node) :
    Furthest tokens (fun token => (op? token).isSome ∨ continues token)
      (fun k node => ∃ j first, Derived j first ∧ Chain tokens Operand op? j (join first) k node) k node := by
  refine ⟨⟨j, first, operand.derived, chain.derived⟩, ?_⟩
  rintro k' other ⟨j', first', derived, onward⟩
  obtain ⟨rfl, rfl⟩ | ⟨before, token, here, goesOn⟩ := operand.others j' first' derived
  · exact chain.others k' other onward
  · obtain ⟨rfl, rfl⟩ := onward.eq_of_continues apart here goesOn
    have := chain.derived.le ahead
    exact .inr ⟨by omega, token, here, .inr goesOn⟩

/-- What is read behind a first operand that goes furthest settles the whole; a chain is always there. -/
private theorem Settles.of_operand (ahead : ∀ i j node, Operand i j node → i < j)
    (apart : ∀ token, continues token → op? token = none) {Derived : Nat → Expr → Prop} (join : Expr → Expr)
    {j : Nat} {first : Expr} {outcome : Outcome Expr} (operand : Furthest tokens continues Derived j first)
    (chain : Settles tokens (fun token => (op? token).isSome ∨ continues token)
      (Chain tokens Operand op? j (join first)) outcome) :
    Settles tokens (fun token => (op? token).isSome ∨ continues token)
      (fun k node => ∃ j first, Derived j first ∧ Chain tokens Operand op? j (join first) k node) outcome := by
  cases outcome with
  | tooDeep => trivial
  | absent => exact absurd .done (chain j _)
  | found node rest =>
    obtain ⟨k, left, furthest⟩ := chain
    exact ⟨k, left, furthest_chain ahead apart join operand furthest⟩

/-- With an operator in front, what goes furthest behind it goes furthest as a chain. -/
private theorem furthest_step (ahead : ∀ i j node, Operand i j node → i < j) {i k : Nat} {left node : Expr}
    {token : Token} {op : String} (here : tokens[i]? = some token) (sign : op? token = some op)
    (behind : Furthest tokens (fun token => (op? token).isSome ∨ continues token)
      (fun k node => ∃ j right, Operand (i + 1) j right ∧ Chain tokens Operand op? j (.binary op left right) k node)
      k node) :
    Furthest tokens (fun token => (op? token).isSome ∨ continues token) (Chain tokens Operand op? i left) k node := by
  obtain ⟨j, right, operand, more⟩ := behind.derived
  refine ⟨.step here sign operand more, fun k' other derived => ?_⟩
  cases derived with
  | done =>
    have := ahead _ _ _ operand
    have := more.le ahead
    exact .inr ⟨by omega, token, here, .inl (by rw [sign]; rfl)⟩
  | step there signed operand' more' =>
    obtain rfl := token_unique here there
    obtain rfl := Option.some.inj (signed.symm.trans sign)
    exact behind.others k' other ⟨_, _, operand', more'⟩

/-- The loop over operators and operands goes as far as a chain can, if each operand does. -/
private theorem settles_chainFrom (ahead : ∀ i j node, Operand i j node → i < j)
    (apart : ∀ token, continues token → op? token = none)
    (reads : ∀ i, Settles tokens continues (Operand i) (operand (tokens.drop i))) (steps i : Nat) (left : Expr)
    (enough : tokens.length - i ≤ steps) :
    Settles tokens (fun token => (op? token).isSome ∨ continues token) (Chain tokens Operand op? i left)
      (chainFrom operand op? steps left (tokens.drop i)) := by
  induction steps generalizing i left with
  | zero =>
    refine ⟨i, rfl, Chain.furthest_of_stuck fun token op j right here _ _ => ?_⟩
    have := (List.getElem?_eq_some_iff.mp here).1
    omega
  | succ steps ih =>
    cases split : tokens.drop i with
    | nil =>
      refine ⟨i, split.symm, Chain.furthest_of_stuck fun token op j right here _ _ => ?_⟩
      rw [drop_eq_cons here] at split
      contradiction
    | cons token rest =>
      obtain ⟨here, rfl⟩ := of_drop_eq_cons split
      simp only [chainFrom]
      cases sign : op? token with
      | none =>
        refine ⟨i, split.symm, Chain.furthest_of_stuck fun found op j right there signed _ => ?_⟩
        rw [token_unique there here, sign] at signed
        contradiction
      | some op =>
        have after := reads (i + 1)
        cases outcome : operand (tokens.drop (i + 1)) with
        | tooDeep => trivial
        | absent =>
          rw [outcome] at after
          exact ⟨i, split.symm, Chain.furthest_of_stuck fun _ _ j right _ _ derived => after j right derived⟩
        | found right rest =>
          rw [outcome] at after
          obtain ⟨j, rfl, furthest⟩ := after
          have further := ahead _ _ _ furthest.derived
          have behind := (ih j (.binary op left right) (by omega)).of_operand ahead apart (.binary op left) furthest
          simp only
          cases result : chainFrom operand op? steps (.binary op left right) (tokens.drop j) with
          | tooDeep => trivial
          | absent =>
            rw [result] at behind
            exact absurd ⟨j, right, furthest.derived, .done⟩ (behind j _)
          | found node rest =>
            rw [result] at behind
            obtain ⟨k, rfl, whole⟩ := behind
            exact ⟨k, rfl, furthest_step ahead here sign whole⟩

/-- A chain is read as far as it can go, if each operand is. -/
private theorem settles_chain (op? : Token → Option String) (ahead : ∀ i j node, Operand i j node → i < j)
    (apart : ∀ token, continues token → op? token = none)
    (reads : ∀ i, Settles tokens continues (Operand i) (operand (tokens.drop i))) (i : Nat) :
    Settles tokens (fun token => (op? token).isSome ∨ continues token)
      (fun k node => ∃ j first, Operand i j first ∧ Chain tokens Operand op? j first k node)
      (chain operand op? (tokens.drop i)) := by
  have start := reads i
  simp only [chain]
  cases outcome : operand (tokens.drop i) with
  | tooDeep => trivial
  | absent =>
    rw [outcome] at start
    rintro k node ⟨j, first, derived, _⟩
    exact start j first derived
  | found first rest =>
    rw [outcome] at start
    obtain ⟨j, rfl, furthest⟩ := start
    have chain := settles_chainFrom ahead apart reads (tokens.drop j).length j first (by simp)
    exact chain.of_operand ahead apart id furthest

end

/-! ## The rules one by one -/

section
variable {unary : List Token → Outcome Expr} {i : Nat}

private theorem Derives.ahead {rule : Rule} (i j : Nat) (node : Expr) (derives : Derives tokens rule i j node) : i < j :=
  derives.spans.1

private theorem settles_factor (unaries : Decides tokens .unary unary) : Decides tokens .factor (factorOver unary) := by
  intro i
  refine (settles_chain factorOp? Derives.ahead ?_ unaries i).congr (fun _ goesOn => goesOn) fun j node => ?_
  · rintro token rfl
    rfl
  · constructor
    · intro derives
      cases derives with
      | product start more => exact ⟨_, _, start, more⟩
    · rintro ⟨_, _, start, more⟩
      exact .product start more

private theorem settles_term (unaries : Decides tokens .unary unary) : Decides tokens .term (termOver unary) := by
  intro i
  refine (settles_chain termOp? Derives.ahead ?_ (settles_factor unaries) i).congr (fun _ goesOn => goesOn)
    fun j node => ?_
  · rintro token (product | rfl)
    · cases token with
      | mark m => cases m <;> first | rfl | simp [factorOp?] at product
      | _ => rfl
    · rfl
  · constructor
    · intro derives
      cases derives with
      | sum start more => exact ⟨_, _, start, more⟩
    · rintro ⟨_, _, start, more⟩
      exact .sum start more

/-- A name in front of a token that no term goes on with is a term by itself. -/
private theorem derives_term_name {i j : Nat} {name : String} {token : Token} {node : Expr}
    (here : tokens[i]? = some (.name name)) (next : tokens[i + 1]? = some token) (stops : ¬ Continues .term token)
    (derives : Derives tokens .term i j node) : j = i + 1 := by
  have noSign : termOp? token = none ∧ factorOp? token = none ∧ token ≠ .mark .leftParen := by
    simpa [Continues] using stops
  obtain ⟨noSum, noProduct, noParen⟩ := noSign
  -- With no operator and no parenthesis behind the name, every rule below ends right after it.
  have stuck : ∀ {Operand : Nat → Nat → Expr → Prop} {op? : Token → Option String} {k : Nat} {left node : Expr},
      op? token = none → Chain tokens Operand op? (i + 1) left k node → k = i + 1 := by
    intro Operand op? k left node noOp chain
    refine (chain.eq_of_stuck fun found op j right there sign _ => ?_).1
    obtain rfl := token_unique next there
    rw [noOp] at sign
    contradiction
  cases derives with
  | sum factor terms =>
    cases factor with
    | product unary factors =>
      cases unary with
      | minus other _ => exact nomatch token_unique here other
      | primary primary =>
        cases primary with
        | call call =>
          exfalso
          cases call with
          | callEmpty _ opens _ | callWith _ opens _ _ => exact noParen (token_unique next opens)
        | number other | quoted other | parens other _ _ => exact nomatch token_unique here other
        | name _ =>
          obtain rfl := stuck noProduct factors
          exact stuck noSum terms

/-- Where nothing is assigned, a statement is a term. -/
private theorem settles_statement_term
    (term : Settles tokens (Continues .term) (Derives tokens .term i) (termOver unary (tokens.drop i)))
    (plain : ∀ name m j value, tokens[i]? = some (.name name) → tokens[i + 1]? = some (.mark m) → Assigns m →
      ¬ Derives tokens .term (i + 2) j value) :
    Settles tokens (Continues .statement) (Derives tokens .statement i) (termOver unary (tokens.drop i)) := by
  refine term.congr (fun _ goesOn => .inr goesOn) fun j node => ⟨fun derives => ?_, .term⟩
  cases derives with
  | assign here sign assigns inner => exact absurd inner (plain _ _ _ _ here sign assigns)
  | term inner => exact inner

private theorem furthest_assign {j : Nat} {name : String} {m : Mark} {value : Expr} (here : tokens[i]? = some (.name name))
    (sign : tokens[i + 1]? = some (.mark m)) (assigns : Assigns m)
    (term : Furthest tokens (Continues .term) (Derives tokens .term (i + 2)) j value) :
    Furthest tokens (Continues .statement) (Derives tokens .statement i) j (.assign name value) := by
  refine ⟨.assign here sign assigns term.derived, fun k other derives => ?_⟩
  cases derives with
  | assign there _ _ inner =>
    obtain rfl : _ = name := by simpa using token_unique there here
    obtain ⟨rfl, rfl⟩ | ⟨before, token, behind, goesOn⟩ := term.others k _ inner
    · exact .inl ⟨rfl, rfl⟩
    · exact .inr ⟨before, token, behind, .inr goesOn⟩
  | term inner =>
    obtain rfl := derives_term_name here sign (not_continues_assigns assigns) inner
    have := term.derived.spans.1
    exact .inr ⟨by omega, _, sign, .inl ⟨m, rfl, assigns⟩⟩

private theorem settles_statement (terms : Decides tokens .term (termOver unary)) :
    Decides tokens .statement (statementOver unary) := by
  intro i
  simp only [statementOver]
  split
  · rename_i name m rest shape
    obtain ⟨here, next⟩ := of_drop_eq_cons shape
    obtain ⟨sign, rfl⟩ := of_drop_eq_cons next.symm
    split
    · rename_i assigns
      have after := terms (i + 2)
      cases outcome : termOver unary (tokens.drop (i + 2)) with
      | tooDeep => trivial
      | absent =>
        rw [outcome] at after
        exact settles_statement_term (terms i) fun _ _ j value _ _ _ inner => after j value inner
      | found value rest =>
        rw [outcome] at after
        obtain ⟨j, rfl, furthest⟩ := after
        exact ⟨j, rfl, furthest_assign here sign assigns furthest⟩
    · rename_i plain
      refine settles_statement_term (terms i) fun _ _ _ _ _ there assigns _ => plain ?_
      obtain rfl : _ = m := by simpa using token_unique there sign
      exact assigns
  · rename_i shape
    refine settles_statement_term (terms i) fun name m j value here sign _ _ => ?_
    exact shape name m _ (by rw [drop_eq_cons here, drop_eq_cons sign])

end

/-! ## Between parentheses -/

/-- Whether an outcome tells all about what is derived with a closing parenthesis behind it. What is
found need not be of that kind, but if it is not, nothing is. -/
private def Encloses {α : Type} (tokens : List Token) (Derived : Nat → α → Prop) : Outcome α → Prop
  | .tooDeep => True
  | .absent => ∀ k inner, Derived k inner → tokens[k]? ≠ some (.mark .rightParen)
  | .found inner rest => ∃ k, rest = tokens.drop k ∧ Derived k inner ∧
      ∀ k' other, Derived k' other → tokens[k']? = some (.mark .rightParen) → k' = k ∧ other = inner

/-- The outcome for the whole, when `node` is made of what stands in front of a closing
parenthesis. -/
private def closed {α : Type} (node : α → Expr) : Outcome α → Outcome Expr
  | .tooDeep => .tooDeep
  | .found inner (.mark .rightParen :: rest) => .found (node inner) rest
  | _ => .absent

section
variable {α : Type} {Derived Other : Nat → α → Prop} {outcome : Outcome α}

private theorem Encloses.congr (encloses : Encloses tokens Derived outcome)
    (weaker : ∀ k inner, Derived k inner → Other k inner)
    (back : ∀ k inner, Other k inner → tokens[k]? = some (.mark .rightParen) → Derived k inner) :
    Encloses tokens Other outcome := by
  cases outcome with
  | tooDeep => trivial
  | absent => exact fun k inner derived closes => encloses k inner (back k inner derived closes) closes
  | found inner rest =>
    obtain ⟨k, left, derived, others⟩ := encloses
    exact ⟨k, left, weaker k inner derived,
      fun k' other derived closes => others k' other (back k' other derived closes) closes⟩

private theorem closed_eq_absent (node : α → Expr) {inner : α} {j : Nat}
    (closes : tokens[j]? ≠ some (.mark .rightParen)) : closed node (.found inner (tokens.drop j)) = .absent := by
  unfold closed
  split
  · contradiction
  · rename_i same
    obtain ⟨rfl, shape⟩ := Outcome.found.inj same
    exact absurd (of_drop_eq_cons shape).1 closes
  · rfl

/-- What is between parentheses settles the whole. -/
private theorem Encloses.settles {continues : Token → Prop} {Whole : Nat → Expr → Prop}
    (encloses : Encloses tokens Derived outcome) (node : α → Expr)
    (whole : ∀ k other, Whole k other ↔
      ∃ j inner, k = j + 1 ∧ other = node inner ∧ Derived j inner ∧ tokens[j]? = some (.mark .rightParen)) :
    Settles tokens continues Whole (closed node outcome) := by
  cases outcome with
  | tooDeep => trivial
  | absent =>
    intro k other derived
    obtain ⟨j, inner, _, _, between, closes⟩ := (whole k other).mp derived
    exact encloses j inner between closes
  | found inner rest =>
    obtain ⟨j, rfl, between, others⟩ := encloses
    by_cases closes : tokens[j]? = some (.mark .rightParen)
    · rw [drop_eq_cons closes]
      refine ⟨j + 1, rfl, (whole _ _).mpr ⟨j, inner, rfl, rfl, between, closes⟩, fun k other derived => .inl ?_⟩
      obtain ⟨j', inner', rfl, rfl, between', closes'⟩ := (whole k other).mp derived
      obtain ⟨rfl, rfl⟩ := others j' inner' between' closes'
      exact ⟨rfl, rfl⟩
    · rw [closed_eq_absent node closes]
      intro k other derived
      obtain ⟨j', inner', rfl, rfl, between', closes'⟩ := (whole k other).mp derived
      obtain ⟨rfl, rfl⟩ := others j' inner' between' closes'
      exact closes closes'

end

/-- No expression goes on with a closing parenthesis. -/
private theorem Settles.encloses {Derived : Nat → Expr → Prop} {outcome : Outcome Expr}
    (settles : Settles tokens (Continues .expression) Derived outcome) : Encloses tokens Derived outcome := by
  cases outcome with
  | tooDeep => trivial
  | absent => exact fun k node derived _ => settles k node derived
  | found node rest =>
    obtain ⟨j, left, furthest⟩ := settles
    exact ⟨j, left, furthest.derived,
      fun k other derived closes => furthest.eq_of_stops derived closes not_continues_rightParen⟩

/-! ## Arguments -/

section
variable {Item : Nat → Nat → Expr → Prop} {expression : List Token → Outcome Expr}

/-- What can stand behind an item of a list: nothing more of the list, or a comma and more items. -/
private def Further (tokens : List Token) (Item : Nat → Nat → Expr → Prop) (i k : Nat) (nodes : List Expr) : Prop :=
  (k = i ∧ nodes = []) ∨ (tokens[i]? = some (.mark .comma) ∧ Listed tokens Item (i + 1) k nodes)

private theorem listed_iff {i k : Nat} {nodes : List Expr} : Listed tokens Item i k nodes ↔
    ∃ j node more, Item i j node ∧ Further tokens Item j k more ∧ nodes = node :: more := by
  constructor
  · intro items
    cases items with
    | last item => exact ⟨_, _, _, item, .inl ⟨rfl, rfl⟩, rfl⟩
    | more item here rest => exact ⟨_, _, _, item, .inr ⟨here, rest⟩, rfl⟩
  · rintro ⟨j, node, more, item, ⟨rfl, rfl⟩ | ⟨here, rest⟩, rfl⟩
    · exact .last item
    · exact .more item here rest

/-- An item that goes furthest is the item of every closed list, since no expression goes on with a
comma or a closing parenthesis. -/
private theorem encloses_item {i j : Nat} (before : List Expr) {arg : Expr} {outcome : Outcome (List Expr)}
    (item : Furthest tokens (Continues .expression) (Item i) j arg)
    (rest : Encloses tokens (fun k args => ∃ more, Further tokens Item j k more ∧ args = before ++ arg :: more) outcome) :
    Encloses tokens (fun k args => ∃ nodes, Listed tokens Item i k nodes ∧ args = before ++ nodes) outcome := by
  refine rest.congr ?_ ?_
  · rintro k _ ⟨more, further, rfl⟩
    exact ⟨_, listed_iff.mpr ⟨j, arg, more, item.derived, further, rfl⟩, rfl⟩
  · rintro k _ ⟨_, items, rfl⟩ closes
    obtain ⟨j', node, more, item', further, rfl⟩ := listed_iff.mp items
    have stops : ∃ token, tokens[j']? = some token ∧ ¬ Continues .expression token := by
      obtain ⟨rfl, _⟩ | ⟨comma, _⟩ := further
      · exact ⟨_, closes, not_continues_rightParen⟩
      · exact ⟨_, comma, not_continues_comma⟩
    obtain ⟨token, here, stops⟩ := stops
    obtain ⟨rfl, rfl⟩ := item.eq_of_stops item' here stops
    exact ⟨more, further, rfl⟩

/-- Without a comma a list ends. -/
private theorem encloses_end {i : Nat} (before : List Expr) (noComma : tokens[i]? ≠ some (.mark .comma)) :
    Encloses tokens (fun k args => ∃ more, Further tokens Item i k more ∧ args = before ++ more)
      (.found before (tokens.drop i)) := by
  refine ⟨i, rfl, ⟨[], .inl ⟨rfl, rfl⟩, by simp⟩, ?_⟩
  rintro k _ ⟨more, ⟨rfl, rfl⟩ | ⟨comma, _⟩, rfl⟩ _
  · exact ⟨rfl, by simp⟩
  · exact absurd comma noComma

/-- The loop over commas and arguments finds the one list that closes, if there is one. -/
private theorem encloses_argumentsFrom (ahead : ∀ i j node, Item i j node → i < j)
    (reads : ∀ i, Settles tokens (Continues .expression) (Item i) (expression (tokens.drop i))) (steps i : Nat)
    (before : List Expr) (enough : tokens.length - i ≤ steps) :
    Encloses tokens (fun k args => ∃ more, Further tokens Item i k more ∧ args = before ++ more)
      (argumentsFrom expression steps before (tokens.drop i)) := by
  induction steps generalizing i before with
  | zero =>
    refine encloses_end before fun here => ?_
    have := (List.getElem?_eq_some_iff.mp here).1
    omega
  | succ steps ih =>
    by_cases comma : tokens[i]? = some (.mark .comma)
    · rw [drop_eq_cons comma]
      have after := reads (i + 1)
      simp only [argumentsFrom]
      cases outcome : expression (tokens.drop (i + 1)) with
      | tooDeep => trivial
      | absent =>
        rw [outcome] at after
        rintro k _ ⟨more, ⟨rfl, _⟩ | ⟨_, items⟩, rfl⟩ closes
        · exact absurd (token_unique comma closes) (by simp)
        · obtain ⟨j, node, _, item, _⟩ := listed_iff.mp items
          exact after j node item
      | found arg rest =>
        rw [outcome] at after
        obtain ⟨j, rfl, item⟩ := after
        have further := ahead _ _ _ item.derived
        have loop := ih j (before ++ [arg]) (by omega)
        simp only [List.append_assoc, List.singleton_append] at loop
        refine (encloses_item before item loop).congr ?_ ?_
        · rintro k _ ⟨nodes, items, rfl⟩
          exact ⟨nodes, .inr ⟨comma, items⟩, rfl⟩
        · rintro k _ ⟨more, ⟨rfl, _⟩ | ⟨_, items⟩, rfl⟩ closes
          · exact absurd (token_unique comma closes) (by simp)
          · exact ⟨more, items, rfl⟩
    · rw [argumentsFrom]
      · exact encloses_end _ comma
      · exact fun _ _ _ shape => comma (of_drop_eq_cons shape).1

end

section
variable {unary : List Token → Outcome Expr} {i : Nat}

private theorem encloses_arguments {expression : List Token → Outcome Expr} (expressions : Decides tokens .expression expression)
    (i : Nat) : Encloses tokens (Listed tokens (Derives tokens .expression) i) (argumentsOf expression (tokens.drop i)) := by
  have start := expressions i
  simp only [argumentsOf]
  cases outcome : expression (tokens.drop i) with
  | tooDeep => trivial
  | absent =>
    rw [outcome] at start
    intro k args items _
    obtain ⟨j, node, _, item, _⟩ := listed_iff.mp items
    exact start j node item
  | found first rest =>
    rw [outcome] at start
    obtain ⟨j, rfl, item⟩ := start
    have loop := encloses_argumentsFrom Derives.ahead expressions (tokens.drop j).length j [first] (by simp)
    simpa using encloses_item [] item loop

private theorem callOver_eq_closed {name : String} {rest : List Token}
    (notEmpty : ∀ more, rest ≠ .mark .rightParen :: more) :
    callOver unary (.name name :: .mark .leftParen :: rest) = closed (.call name) (argumentsOf (expressionOver unary) rest) := by
  rw [callOver]
  · cases argumentsOf (expressionOver unary) rest with
    | tooDeep | absent => rfl
    | found args left =>
      unfold closed
      split <;> simp_all
  · exact notEmpty

private theorem primaryOver_eq_closed (rest : List Token) :
    primaryOver unary (.mark .leftParen :: rest) = closed id (expressionOver unary rest) := by
  have noCall : callOver unary (.mark .leftParen :: rest) = .absent := by
    rw [callOver] <;> simp
  rw [primaryOver, noCall]
  simp only
  cases expressionOver unary rest with
  | tooDeep | absent => rfl
  | found node left =>
    unfold closed
    split <;> simp_all

private theorem furthest_callEmpty {name : String} (here : tokens[i]? = some (.name name))
    (opens : tokens[i + 1]? = some (.mark .leftParen)) (closes : tokens[i + 2]? = some (.mark .rightParen)) :
    Furthest tokens (Continues .call) (Derives tokens .call i) (i + 3) (.call name []) := by
  refine ⟨.callEmpty here opens closes, fun k other derives => .inl ?_⟩
  cases derives with
  | callEmpty there _ _ =>
    obtain rfl : _ = name := by simpa using token_unique there here
    exact ⟨rfl, rfl⟩
  | callWith _ _ items _ =>
    -- An argument cannot start with the parenthesis that closes the call.
    obtain ⟨j, node, _, item, _⟩ := listed_iff.mp items
    obtain ⟨token, first, starts⟩ := item.starts
    obtain rfl := token_unique closes first
    simp [Starts] at starts

private theorem derives_call_iff {name : String} {k : Nat} {node : Expr} (here : tokens[i]? = some (.name name))
    (opens : tokens[i + 1]? = some (.mark .leftParen)) (notEmpty : tokens[i + 2]? ≠ some (.mark .rightParen)) :
    Derives tokens .call i k node ↔
      ∃ j args, k = j + 1 ∧ node = .call name args ∧ Listed tokens (Derives tokens .expression) (i + 2) j args ∧
        tokens[j]? = some (.mark .rightParen) := by
  constructor
  · intro derives
    cases derives with
    | callEmpty _ _ closes => exact absurd closes notEmpty
    | callWith there _ items closes =>
      obtain rfl : _ = name := by simpa using token_unique there here
      exact ⟨_, _, rfl, rfl, items, closes⟩
  · rintro ⟨j, args, rfl, rfl, items, closes⟩
    exact .callWith here opens items closes

private theorem settles_call (expressions : Decides tokens .expression (expressionOver unary)) :
    Decides tokens .call (callOver unary) := by
  intro i
  by_cases head : ∃ name, tokens[i]? = some (.name name) ∧ tokens[i + 1]? = some (.mark .leftParen)
  · obtain ⟨name, here, opens⟩ := head
    rw [drop_eq_cons here, drop_eq_cons opens]
    by_cases empty : tokens[i + 2]? = some (.mark .rightParen)
    · rw [drop_eq_cons empty, callOver]
      exact ⟨i + 3, rfl, furthest_callEmpty here opens empty⟩
    · rw [callOver_eq_closed fun more shape => empty (of_drop_eq_cons shape).1]
      exact (encloses_arguments expressions (i + 2)).settles (.call name) fun _ _ => derives_call_iff here opens empty
  · have noHead : ∀ name rest, tokens.drop i ≠ .name name :: .mark .leftParen :: rest := by
      intro name rest shape
      obtain ⟨here, next⟩ := of_drop_eq_cons shape
      exact head ⟨name, here, (of_drop_eq_cons next.symm).1⟩
    rw [callOver]
    · intro k node derives
      cases derives with
      | callEmpty here opens _ | callWith here opens _ _ => exact head ⟨_, here, opens⟩
    · exact fun name rest => noHead name _
    · exact fun name rest => noHead name rest

/-- The node of a token that is an operand by itself. -/
private def leaf? : Token → Option Expr
  | .number numeral => some (.number numeral.value)
  | .quoted content => some (.text content)
  | .name name => some (.name name)
  | _ => none

private theorem furthest_leaf {token : Token} {node : Expr} (here : tokens[i]? = some token)
    (leaf : leaf? token = some node) (noCall : ∀ k node, ¬ Derives tokens .call i k node) :
    Furthest tokens (Continues .primary) (Derives tokens .primary i) (i + 1) node := by
  refine ⟨?_, fun k other derives => .inl ?_⟩
  · cases token with
    | number numeral => obtain rfl := Option.some.inj leaf; exact .number here
    | quoted content => obtain rfl := Option.some.inj leaf; exact .quoted here
    | name name => obtain rfl := Option.some.inj leaf; exact .name here
    | mark | endOfLine => simp [leaf?] at leaf
  · cases derives with
    | call inner => exact absurd inner (noCall _ _)
    | number there | quoted there | name there =>
      obtain rfl := token_unique there here
      exact ⟨rfl, Option.some.inj leaf⟩
    | parens there _ _ =>
      obtain rfl := token_unique there here
      simp [leaf?] at leaf

private theorem Derives.call_head {j : Nat} {node : Expr} (derives : Derives tokens .call i j node) :
    ∃ name, tokens[i]? = some (.name name) ∧ tokens[i + 1]? = some (.mark .leftParen) ∧ i + 1 < j := by
  cases derives with
  | callEmpty here opens _ => exact ⟨_, here, opens, by omega⟩
  | callWith here opens items _ =>
    have := (items.spans fun _ _ _ item => item.spans).1
    exact ⟨_, here, opens, by omega⟩

private theorem Derives.not_minus {j : Nat} {node : Expr} (derives : Derives tokens .primary i j node) :
    tokens[i]? ≠ some (.mark .minus) := by
  intro minus
  cases derives with
  | call inner =>
    obtain ⟨_, there, _⟩ := inner.call_head
    exact nomatch token_unique minus there
  | number there | quoted there | name there | parens there _ _ => exact nomatch token_unique minus there

private theorem derives_parens_iff {k : Nat} {node : Expr} (opens : tokens[i]? = some (.mark .leftParen)) :
    Derives tokens .primary i k node ↔
      ∃ j inner, k = j + 1 ∧ node = inner ∧ Derives tokens .expression (i + 1) j inner ∧
        tokens[j]? = some (.mark .rightParen) := by
  constructor
  · intro derives
    cases derives with
    | call inner =>
      obtain ⟨_, there, _⟩ := inner.call_head
      exact nomatch token_unique opens there
    | number there | quoted there | name there => exact nomatch token_unique opens there
    | parens _ inner closes => exact ⟨_, _, rfl, rfl, inner, closes⟩
  · rintro ⟨j, inner, rfl, rfl, derives, closes⟩
    exact .parens opens derives closes

private theorem furthest_call {j : Nat} {node : Expr}
    (call : Furthest tokens (Continues .call) (Derives tokens .call i) j node) :
    Furthest tokens (Continues .primary) (Derives tokens .primary i) j node := by
  obtain ⟨name, here, opens, beyond⟩ := call.derived.call_head
  refine ⟨.call call.derived, fun k other derives => ?_⟩
  cases derives with
  | call inner =>
    obtain same | ⟨_, _, _, impossible⟩ := call.others k other inner
    · exact .inl same
    · exact impossible.elim
  | number there | quoted there | parens there _ _ => exact nomatch token_unique here there
  | name _ => exact .inr ⟨beyond, _, opens, rfl⟩

private theorem settles_primary (expressions : Decides tokens .expression (expressionOver unary)) :
    Decides tokens .primary (primaryOver unary) := by
  intro i
  have calls := settles_call expressions i
  by_cases opens : tokens[i]? = some (.mark .leftParen)
  · rw [drop_eq_cons opens, primaryOver_eq_closed]
    exact (expressions (i + 1)).encloses.settles id fun _ _ => derives_parens_iff opens
  · simp only [primaryOver]
    cases outcome : callOver unary (tokens.drop i) with
    | tooDeep => trivial
    | found node rest =>
      rw [outcome] at calls
      obtain ⟨j, rfl, call⟩ := calls
      exact ⟨j, rfl, furthest_call call⟩
    | absent =>
      rw [outcome] at calls
      simp only
      split
      · rename_i numeral rest shape
        obtain ⟨here, rfl⟩ := of_drop_eq_cons shape
        exact ⟨i + 1, rfl, furthest_leaf here rfl calls⟩
      · rename_i content rest shape
        obtain ⟨here, rfl⟩ := of_drop_eq_cons shape
        exact ⟨i + 1, rfl, furthest_leaf here rfl calls⟩
      · rename_i name rest shape
        obtain ⟨here, rfl⟩ := of_drop_eq_cons shape
        exact ⟨i + 1, rfl, furthest_leaf here rfl calls⟩
      · rename_i rest shape
        exact absurd (of_drop_eq_cons shape).1 opens
      · rename_i noNumber noQuoted noName _
        intro k node derives
        cases derives with
        | call inner => exact calls _ _ inner
        | number here => exact noNumber _ _ (drop_eq_cons here)
        | quoted here => exact noQuoted _ _ (drop_eq_cons here)
        | name here => exact noName _ _ (drop_eq_cons here)
        | parens here _ _ => exact opens here

private theorem settles_expression (unaries : Decides tokens .unary unary) :
    Decides tokens .expression (expressionOver unary) := by
  intro i
  refine (settles_statement (settles_term unaries) i).congr (fun _ goesOn => goesOn) fun j node =>
    ⟨fun derives => ?_, .statement⟩
  cases derives with
  | statement inner => exact inner

end

/-! ## All rules, at any depth -/

private theorem settles_unary (tokens : List Token) (depth : Nat) : Decides tokens .unary (unaryWithin depth) := by
  induction depth with
  | zero => exact fun _ => trivial
  | succ depth ih =>
    intro i
    by_cases minus : tokens[i]? = some (.mark .minus)
    · have after := ih (i + 1)
      rw [drop_eq_cons minus]
      simp only [unaryWithin]
      cases outcome : unaryWithin depth (tokens.drop (i + 1)) with
      | tooDeep => trivial
      | absent =>
        rw [outcome] at after
        intro k node derives
        cases derives with
        | minus _ inner => exact after _ _ inner
        | primary inner => exact inner.not_minus minus
      | found operand rest =>
        rw [outcome] at after
        obtain ⟨j, rfl, furthest⟩ := after
        refine ⟨j, rfl, .minus minus furthest.derived, fun k other derives => ?_⟩
        cases derives with
        | minus _ inner =>
          obtain ⟨rfl, rfl⟩ | shorter := furthest.others k _ inner
          · exact .inl ⟨rfl, rfl⟩
          · exact .inr shorter
        | primary inner => exact absurd minus inner.not_minus
    · rw [unaryWithin]
      · refine (settles_primary (settles_expression ih) i).congr (fun _ goesOn => goesOn) fun j node =>
          ⟨fun derives => ?_, .primary⟩
        cases derives with
        | minus here _ => exact absurd here minus
        | primary inner => exact inner
      · exact fun rest shape => minus (of_drop_eq_cons shape).1

/-- Every rule, read over operands nested at any depth, tells all about what it derives. -/
theorem settles_within (tokens : List Token) (depth : Nat) (rule : Rule) : Decides tokens rule (rule.within depth) := by
  have unaries := settles_unary tokens depth
  have terms := settles_term unaries
  have expressions := settles_expression unaries
  cases rule with
  | expression => exact expressions
  | statement => exact settles_statement terms
  | term => exact terms
  | factor => exact settles_factor unaries
  | unary => exact unaries
  | primary => exact settles_primary expressions
  | call => exact settles_call expressions

/-! ## The longest derivation is what is read -/

private theorem longest_of_furthest {rule : Rule} {i j : Nat} {node : Expr}
    (furthest : Furthest tokens (Continues rule) (Derives tokens rule i) j node) : Longest tokens rule i j node := by
  refine ⟨furthest.derived, fun other derives => ?_, fun k other derives => ?_⟩
  · obtain ⟨_, same⟩ | ⟨shorter, _⟩ := furthest.others j other derives
    · exact same
    · omega
  · obtain ⟨rfl, _⟩ | ⟨shorter, _⟩ := furthest.others k other derives
    · exact Nat.le_refl _
    · omega

/-- There is only one longest derivation. -/
theorem Longest.eq {rule : Rule} {i j k : Nat} {node other : Expr} (first : Longest tokens rule i j node)
    (second : Longest tokens rule i k other) : k = j ∧ other = node := by
  have := first.greatest k other second.derives
  have := second.greatest j node first.derives
  obtain rfl : k = j := by omega
  exact ⟨rfl, first.unique other second.derives⟩

/-- What takes no end of the line stops at the latest in front of the only one. -/
theorem Spans.le_idxOf (once : .endOfLine ∉ tokens.dropLast) {i j : Nat} (spans : Spans tokens i j) :
    j ≤ tokens.idxOf .endOfLine := by
  obtain ⟨before, inside⟩ := spans
  obtain ⟨last, atLast, _⟩ := inside (j - 1) (by omega) (by omega)
  have bound := (List.getElem?_eq_some_iff.mp atLast).1
  refine Nat.le_of_not_lt fun beyond => ?_
  have within : tokens.idxOf .endOfLine < tokens.length := by omega
  have there : tokens[tokens.idxOf .endOfLine]? = some .endOfLine := by
    rw [List.getElem?_eq_getElem within, List.getElem_idxOf]
  by_cases later : i ≤ tokens.idxOf .endOfLine
  · obtain ⟨token, here, notEnd⟩ := inside _ later (by omega)
    exact notEnd (Option.some.inj (here.symm.trans there))
  · apply once
    apply List.mem_of_getElem? (i := tokens.idxOf .endOfLine)
    rw [List.getElem?_dropLast, if_pos (by omega), there]

section
variable [Machine] {calls : Nat}

/-- What is read with the room that there is tells all about what is derived, too. -/
theorem settles_read (tokens : List Token) (calls : Nat) (rule : Rule) : Decides tokens rule (rule.read calls) := by
  intro i
  rw [Rule.read]
  split
  · trivial
  · exact settles_within tokens _ rule i

/-- A rule that finds something finds the longest derivation. -/
theorem longest_of_read {rule : Rule} {start : Nat} {node : Expr} {rest : List Token}
    (found : rule.read calls (tokens.drop start) = .found node rest) :
    ∃ next, rest = tokens.drop next ∧ Longest tokens rule start next node := by
  have settles := settles_read tokens calls rule start
  rw [found] at settles
  obtain ⟨next, left, furthest⟩ := settles
  exact ⟨next, left, longest_of_furthest furthest⟩

/-- A rule that finds nothing has no derivation. -/
theorem not_derives_of_read {rule : Rule} {start : Nat} (absent : rule.read calls (tokens.drop start) = .absent)
    (next : Nat) (node : Expr) : ¬ Derives tokens rule start next node := by
  have settles := settles_read tokens calls rule start
  rw [absent] at settles
  exact settles next node

/-- Arguments that are found are a list of expressions with commas between them. -/
theorem listed_of_arguments {start : Nat} {args : List Expr} {rest : List Token}
    (found : arguments calls (tokens.drop start) = .found args rest) :
    ∃ next, rest = tokens.drop next ∧ Listed tokens (Derives tokens .expression) start next args := by
  have encloses := encloses_arguments (settles_read tokens (calls + 1) .expression) start
  rw [← arguments, found] at encloses
  obtain ⟨next, left, listed, _⟩ := encloses
  exact ⟨next, left, listed⟩

/-- A rule reads from a place on what the grammar says: it finds the longest derivation with the
only node for that, and finds nothing when there is no derivation. -/
theorem read_iff_longest (once : .endOfLine ∉ tokens.dropLast) (rule : Rule) (start : Nat)
    (shallow : rule.read calls (tokens.drop start) ≠ .tooDeep) :
    (∀ node rest, rule.read calls (tokens.drop start) = .found node rest ↔
      ∃ next, rest = tokens.drop next ∧ Longest tokens rule start next node) ∧
    (rule.read calls (tokens.drop start) = .absent ↔ ∀ next node, ¬ Derives tokens rule start next node) ∧
    ∀ next node, Longest tokens rule start next node → start < next ∧ next ≤ tokens.idxOf .endOfLine := by
  refine ⟨fun node rest => ⟨longest_of_read, ?_⟩, ⟨not_derives_of_read, fun nothing => ?_⟩, ?_⟩
  · rintro ⟨next, rfl, longest⟩
    cases outcome : rule.read calls (tokens.drop start) with
    | tooDeep => exact absurd outcome shallow
    | absent => exact absurd longest.derives (not_derives_of_read outcome next node)
    | found other rest =>
      obtain ⟨next', rfl, longest'⟩ := longest_of_read outcome
      obtain ⟨rfl, rfl⟩ := longest.eq longest'
      rfl
  · cases outcome : rule.read calls (tokens.drop start) with
    | tooDeep => exact absurd outcome shallow
    | absent => rfl
    | found node rest =>
      obtain ⟨next, _, longest⟩ := longest_of_read outcome
      exact absurd longest.derives (nothing next node)
  · intro next node longest
    exact ⟨longest.derives.spans.1, longest.derives.spans.le_idxOf once⟩

end

/-- `x = f(y`, a call that is not closed. -/
def unclosedCall : List Token :=
  [.name "x", .mark .equal, .name "f", .mark .leftParen, .name "y", .endOfLine]

/-- Of a call that is not closed the longest expression is the name before it. -/
theorem longest_of_unclosedCall :
    letI := Machine.usual
    .endOfLine ∉ unclosedCall.dropLast ∧ Rule.expression.read 2 (unclosedCall.drop 0) ≠ .tooDeep ∧
      Longest unclosedCall .expression 0 3 (.assign "x" (.name "f")) := by
  let _ := Machine.usual
  have once : .endOfLine ∉ unclosedCall.dropLast := by decide
  have found : Rule.expression.read 2 (unclosedCall.drop 0) = .found (.assign "x" (.name "f")) (unclosedCall.drop 3) := rfl
  have shallow : Rule.expression.read 2 (unclosedCall.drop 0) ≠ .tooDeep := by rw [found]; exact nofun
  obtain ⟨next, left, longest⟩ := ((read_iff_longest once .expression 0 shallow).1 _ _).mp found
  have same : next = 3 := by
    have := congrArg List.length left
    simp only [List.length_drop, show unclosedCall.length = 6 from rfl] at this
    omega
  exact ⟨once, shallow, same ▸ longest⟩

end OutlineCalc.Grammar
