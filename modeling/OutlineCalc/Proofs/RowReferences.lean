import Mathlib.Data.List.FinRange
import OutlineCalc.Machine.Usual
import OutlineCalc.Proofs.Continuation
import OutlineCalc.Proofs.Execution
import OutlineCalc.Proofs.RollUp

/-!
What the rows of a document see of each other. When a row has been calculated its own value is bound
to its name, and so later rows can read it, bit for bit, unless a row assigns such a name itself. Apart
from that a document leaves bound what the assignments have bound that were performed in its rows, also
in rows whose calculation failed in the middle.
-/

namespace OutlineCalc

open Eval (assigned)

namespace Document

open Outline

theorem rowName_inj {k l : Nat} : rowName k = rowName l ↔ k = l := by
  refine ⟨fun same => ?_, fun same => same ▸ rfl⟩
  have texts : "Line" ++ Nat.repr k = "Line" ++ Nat.repr l := same
  have digits : Nat.toDigits 10 k = Nat.toDigits 10 l :=
    String.ofList_injective ((String.append_right_inj "Line").mp texts)
  rw [← @Nat.ofDigitChars_ten_toDigits k, digits, Nat.ofDigitChars_ten_toDigits]

/-- Whether a store binds the names of the rows from 1 to `count` to their values, each other name to
the value that it has last in `writes`, and no name besides. -/
structure Binds (store : Store) (count : Nat) (values : Nat → Float) (writes : List (String × Value)) : Prop where
  rows : ∀ k : Nat, 1 ≤ k → k ≤ count → store.get? (rowName k) = some (.number (values k))
  others : ∀ name, (∀ k : Nat, 1 ≤ k → k ≤ count → name ≠ rowName k) → store.get? name = Store.lookup name writes.reverse

section
variable [Machine]

section
variable {count : Nat} {values : Nat → Float} {writes : List (String × Value)} {done : List (Node × Value)}
  {source : String}

/-- The value of a row before is read under its name, and nothing under the names of other rows. -/
theorem Binds.read {store : Store} (binds : Binds store count values writes)
    (free : ∀ (k : Nat) value, (rowName k, value) ∉ writes) (executes : Calculation.Executes source store done)
    (free' : ∀ (k : Nat) value, (rowName k, value) ∉ assigned done) {k : Nat} {value : Value}
    (mem : (.name (rowName k), value) ∈ done) : value = if 1 ≤ k ∧ k ≤ count then .number (values k) else .unset := by
  obtain ⟨stack, performs⟩ := executes.performs
  rw [performs.read (free' k) mem, Store.get]
  by_cases inside : 1 ≤ k ∧ k ≤ count
  · rw [if_pos inside, binds.rows k inside.1 inside.2, Option.getD_some]
  · have other : ∀ l : Nat, 1 ≤ l → l ≤ count → rowName k ≠ rowName l := by
      intro l low high same
      obtain rfl := rowName_inj.mp same
      exact inside ⟨low, high⟩
    have unbound : ∀ value, (rowName k, value) ∉ writes.reverse := fun value mem => free k value (List.mem_reverse.mp mem)
    rw [if_neg inside, binds.others _ other, Store.lookup_eq_none unbound, Option.getD_none]

/-- A row binds what its assignments bind and then its own value. -/
theorem Binds.add {store : Store} (binds : Binds store count values writes)
    (executes : Calculation.Executes source store done) (free : ∀ (k : Nat) value, (rowName k, value) ∉ assigned done)
    (own : values (count + 1) = (Calculation.run source store).1.value.amount) :
    Binds ((Calculation.run source store).2.set (rowName (count + 1 : Nat)) (.number (Calculation.run source store).1.value.amount))
      (count + 1) values (writes ++ assigned done) := by
  obtain ⟨stack, performs⟩ := executes.performs
  have store_eq : (Calculation.run source store).2 = _ := performs.store_eq
  constructor
  · intro k low high
    rw [Store.get?_set, ← own]
    by_cases last : k = count + 1
    · rw [last, if_pos rfl]
    · have differs : rowName k ≠ rowName (count + 1 : Nat) := fun same => last (rowName_inj.mp same)
      have unbound : ∀ value, (rowName k, value) ∉ (assigned done).reverse := fun value mem => free k value (List.mem_reverse.mp mem)
      rw [if_neg differs, store_eq, Store.get?_foldl_set, Store.lookup_eq_none unbound, Option.none_or,
        binds.rows k low (by omega)]
  · intro name other
    rw [Store.get?_set, if_neg (other (count + 1) (by omega) (Nat.le_refl _)), store_eq, Store.get?_foldl_set,
      binds.others name fun k low high => other k low (by omega), List.reverse_append, Store.lookup_append]

end

/-- The store after some rows that a document starts with. -/
def storeAfter (rows : List String) (store : Store) : Store := (rows.foldl Progress.add (.start store)).store

theorem storeAfter_append_singleton (rows : List String) (row : String) (store : Store) :
    storeAfter (rows ++ [row]) store =
      (Calculation.run row (storeAfter rows store)).2.set (rowName (rows.length + 1 : Nat))
        (.number (Calculation.run row (storeAfter rows store)).1.value.amount) := by
  rw [storeAfter, List.foldl_append, ← size_rows rows store]
  rfl

/-- What a line brings along is that of its row, calculated over what the rows before it have bound. -/
theorem own_row (document : String) (store : Store) (i : Fin (filledRows document).length) :
    ∃ line, (build document store).1.lines[i.val + 1]? = some line ∧
      line.own = (evaluateLine ((filledRows document).get i) (i.val + 1 : Nat)
        (storeAfter ((filledRows document).take i.val) store)).1.own := by
  let rows := filledRows document
  let p := (rows.take i.val).foldl Progress.add (.start store)
  let added := (evaluateLine (rows.get i) p.outline.lines.size p.store).1
  have size : p.outline.lines.size = i.val + 1 := by
    rw [size_rows, List.length_take, Nat.min_eq_left (Nat.le_of_lt i.isLt)]
  have rooted : p.outline.Rooted := (nested_rows (rows.take i.val) store).rooted
  have next : (rows.take (i.val + 1)).foldl Progress.add (.start store) = p.add (rows.get i) := by
    rw [List.take_succ_eq_append_getElem i.isLt, List.foldl_append]
    rfl
  have continues := continues_rows (rows.take (i.val + 1)) (rows.drop (i.val + 1)) store
  rw [List.take_append_drop, next, outline_add p (rows.get i) (last_foldl_add (rows.take i.val) rfl)] at continues
  have put := getElem?_map_insert Line.own (fun _ => rfl) rooted added (findParent_lt rooted added.indent) (i.val + 1)
  rw [if_pos size.symm, Option.map_eq_some_iff] at put
  obtain ⟨line, here, own⟩ := put
  obtain ⟨later, here', kept, _⟩ := continues.kept (i.val + 1) line here
  refine ⟨later, here', ?_⟩
  rw [← size]
  exact kept.own.trans own

/-- The value of a line is that of its row, calculated over what the rows before it have bound. -/
theorem value_build (document : String) (store : Store) (i : Fin (filledRows document).length) :
    (build document store).1.value (i.val + 1) =
      (Calculation.run ((filledRows document).get i) (storeAfter ((filledRows document).take i.val) store)).1.value.amount := by
  obtain ⟨line, here, own⟩ := own_row document store i
  rw [Outline.value, here]
  exact congrArg Line.value own

/-- After the first `m` rows their names are bound, and what was assigned in them. -/
theorem binds_take {rows : List String} {store : Store} {values : Nat → Float} {done : Fin rows.length → List (Node × Value)}
    (executes : ∀ i : Fin rows.length, Calculation.Executes (rows.get i) (storeAfter (rows.take i.val) store) (done i))
    (own : ∀ i : Fin rows.length,
      values (i.val + 1) = (Calculation.run (rows.get i) (storeAfter (rows.take i.val) store)).1.value.amount)
    (free : ∀ (i : Fin rows.length) (k : Nat) value, (rowName k, value) ∉ assigned (done i)) (m : Nat) (within : m ≤ rows.length) :
    Binds (storeAfter (rows.take m) store) m values (((List.finRange rows.length).take m).flatMap fun i => assigned (done i)) := by
  induction m with
  | zero => exact ⟨fun k low high => by omega, fun name _ => rfl⟩
  | succ m ih =>
    have inside : m < (List.finRange rows.length).length := by rwa [List.length_finRange]
    have length : (rows.take m).length = m := List.length_take_of_le (by omega)
    have next := (ih (by omega)).add (executes ⟨m, within⟩) (free ⟨m, within⟩) (own ⟨m, within⟩)
    rw [List.take_succ_eq_append_getElem within, List.take_succ_eq_append_getElem inside, List.flatMap_append,
      List.flatMap_singleton, List.getElem_finRange, storeAfter_append_singleton, length]
    exact next

/-- As long as no row assigns a name that stands for a row, a row can read the values of just the rows
before it, bit for bit, while the other such names are unbound. In the end the names of all rows are
bound to their values and each other name that was assigned to what was assigned last, and nothing else
is bound, whatever was bound before. -/
theorem references_build (document : String) (store : Store)
    (free : ∀ row ∈ filledRows document, ∀ tree, Calculation.tree row = .ok (some tree) →
      ∀ k : Nat, .assign (rowName k) ∉ tree.postorder) :
    let rows := filledRows document
    let o := (build document store).1
    let before (i : Fin rows.length) := storeAfter (rows.take i.val) store
    ∃ done : Fin rows.length → List (Node × Value),
      (∀ i : Fin rows.length,
        Calculation.Executes (rows.get i) (before i) (done i) ∧
        o.value (i.val + 1) = (Calculation.run (rows.get i) (before i)).1.value.amount ∧
        (Calculation.Fails (rows.get i) (before i) → o.value (i.val + 1) = 0) ∧
        ∀ (k : Nat) value, (.name (rowName k), value) ∈ done i →
          value = if 1 ≤ k ∧ k ≤ i.val then .number (o.value k) else .unset) ∧
      Binds (build document store).2 rows.length o.value ((List.finRange rows.length).flatMap fun i => assigned (done i)) := by
  intro rows o before
  choose done executes using fun i : Fin rows.length => Calculation.exists_executes (rows.get i) (before i)
  have own := value_build document store
  have unassigned : ∀ (i : Fin rows.length) (k : Nat) value, (rowName k, value) ∉ assigned (done i) := fun i k =>
    (executes i).not_mem_assigned fun tree read => free _ (List.getElem_mem _) tree read k
  have binds := binds_take executes own unassigned
  refine ⟨done, fun i => ⟨executes i, own i, fun fails => ?_, fun k value mem => ?_⟩, ?_⟩
  · rw [own i, fails.amount_eq]
  · refine (binds i.val (Nat.le_of_lt i.isLt)).read ?_ (executes i) (unassigned i) mem
    intro l value mem
    obtain ⟨j, _, mem⟩ := List.mem_flatMap.mp mem
    exact unassigned j l value mem
  · have whole := binds rows.length (Nat.le_refl _)
    rwa [List.take_length, List.take_of_length_le (Nat.le_of_eq List.length_finRange)] at whole

end

/-- A row that fails when it has assigned a name, and one that reads its value. -/
def spoiled : String := "(rent = 2) * 'a'\nLine1 + 3"

private theorem rows_spoiled : filledRows spoiled = ["(rent = 2) * 'a'", "Line1 + 3"] := by decide +kernel

private theorem tree_of_tokens [Machine] {line : String} {tokens : List Token} {tree : Option Expr}
    (scanned : (Scan.line line).tokens = tokens) (parsed : Parse.line tokens = .ok tree) : Calculation.tree line = .ok tree := by
  rw [Calculation.tree, scanned, parsed]

private theorem tree_first :
    letI := Machine.usual
    Calculation.tree "(rent = 2) * 'a'" = .ok (some (.binary "*" (.assign "rent" (.number (Numeral.value ⟨['2'], []⟩))) (.text "a"))) := by
  let _ := Machine.usual
  have scanned : (Scan.line "(rent = 2) * 'a'").tokens =
      [.mark .leftParen, .name "rent", .mark .equal, .number ⟨['2'], []⟩, .mark .rightParen, .mark .star, .quoted "a",
        .endOfLine] := by
    decide +kernel
  exact tree_of_tokens scanned rfl

private theorem tree_second :
    letI := Machine.usual
    Calculation.tree "Line1 + 3" = .ok (some (.binary "+" (.name "Line1") (.number (Numeral.value ⟨['3'], []⟩)))) := by
  let _ := Machine.usual
  have scanned : (Scan.line "Line1 + 3").tokens = [.name "Line1", .mark .plus, .number ⟨['3'], []⟩, .endOfLine] := by
    decide +kernel
  exact tree_of_tokens scanned rfl

/-- The row that fails counts as zero, and that is what its name is bound to afterwards, whatever it was
bound to before. -/
theorem references_of_spoiled :
    letI := Machine.usual
    (∀ row ∈ filledRows spoiled, ∀ tree, Calculation.tree row = .ok (some tree) →
      ∀ k : Nat, .assign (rowName k) ∉ tree.postorder) ∧
      (build spoiled { bindings := [("Line1", .text "old")] }).2.get? "Line1" = some (.number 0) := by
  let _ := Machine.usual
  have free : ∀ row ∈ filledRows spoiled, ∀ tree, Calculation.tree row = .ok (some tree) →
      ∀ k : Nat, .assign (rowName k) ∉ tree.postorder := by
    intro row mem tree read k assigns
    have other : rowName k ≠ "rent" := by
      intro same
      have first := congrArg (fun name => name.toList.head?) same
      simp [rowName] at first
    rw [rows_spoiled, List.mem_cons, List.mem_singleton] at mem
    rcases mem with rfl | rfl
    · rw [tree_first] at read
      obtain rfl := Option.some.inj (Except.ok.inj read)
      simp [Expr.postorder, other] at assigns
    · rw [tree_second] at read
      obtain rfl := Option.some.inj (Except.ok.inj read)
      simp [Expr.postorder] at assigns
  refine ⟨free, ?_⟩
  obtain ⟨done, each, binds⟩ := references_build spoiled { bindings := [("Line1", .text "old")] } free
  have count : (filledRows spoiled).length = 2 := congrArg List.length rows_spoiled
  have first : (filledRows spoiled).get ⟨0, by omega⟩ = "(rent = 2) * 'a'" := by simp [rows_spoiled]
  obtain ⟨_, _, zero, _⟩ := each ⟨0, by omega⟩
  have bound := binds.rows 1 (Nat.le_refl 1) (by omega)
  have fails : ∀ store, Calculation.Fails ((filledRows spoiled).get ⟨0, by omega⟩) store := by
    intro store
    rw [first]
    refine .inl ?_
    rw [Calculation.run_of_tree tree_first]
    exact Option.some_ne_none _
  rwa [zero (fails _)] at bound

end Document

end OutlineCalc
