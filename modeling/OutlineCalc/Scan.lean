import OutlineCalc.Token

/-!
Reading the tokens of one line. A fault never stops the reading but for a quote that nothing
closes, which takes the rest of the line; of several faults the last one is reported.
-/

namespace OutlineCalc.Scan

open Letter (isDigit startsName continuesName)

/-- What can be wrong with the characters of a line. -/
inductive Fault where
  | unterminatedString
  | unexpected (c : Char)
deriving DecidableEq, Repr

/-- The wording of a fault. -/
def Fault.message : Fault → String
  | unterminatedString => "unterminated string"
  | unexpected c => "unexpected character '" ++ c.toString ++ "'"

/-- The tokens of a line, the end of the line last, and its last fault. -/
structure Scanned where
  tokens : List Token
  fault : Option Fault
deriving DecidableEq, Repr

/-- Whether a character between tokens is passed over: a space, a tab, a carriage return or the
currency mark. -/
def isGap (c : Char) : Bool := c == ' ' || c == '\t' || c == '\r' || c == '$'

/-- A token in front of what is read after it. -/
def Scanned.push (token : Token) (after : Scanned) : Scanned := { after with tokens := token :: after.tokens }

/-- A fault in front of what is read after it, where a later fault takes its place. -/
def Scanned.note (fault : Fault) (after : Scanned) : Scanned := { after with fault := after.fault.or (some fault) }

/-- What stands before the first quote of a text, and what follows that quote. -/
def closing? : List Char → Option (List Char × List Char)
  | [] => none
  | c :: cs => if c = '\'' then some ([], cs) else (closing? cs).map fun (content, after) => (c :: content, after)

theorem eq_append_of_closing? {cs content after : List Char} (closed : closing? cs = some (content, after)) :
    cs = content ++ '\'' :: after ∧ '\'' ∉ content := by
  induction cs generalizing content with
  | nil => simp [closing?] at closed
  | cons c cs ih =>
    simp only [closing?] at closed
    split at closed
    · rename_i quote
      obtain ⟨rfl, rfl⟩ := Prod.mk.inj (Option.some.inj closed)
      simp [quote]
    · rename_i other
      obtain ⟨⟨content', after'⟩, found, same⟩ := Option.map_eq_some_iff.1 closed
      obtain ⟨rfl, rfl⟩ := Prod.mk.inj same
      obtain ⟨rfl, free⟩ := ih found
      exact ⟨rfl, by simp [free, Ne.symm other]⟩

theorem closing?_eq_none_iff {cs : List Char} : closing? cs = none ↔ '\'' ∉ cs := by
  induction cs with
  | nil => simp [closing?]
  | cons c cs ih =>
    simp only [closing?]
    split
    · rename_i quote
      simp [quote]
    · rename_i other
      simp [ih, Ne.symm other]

private theorem length_closing_lt {cs content after : List Char} (c : Char)
    (closed : closing? cs = some (content, after)) : after.length < (c :: cs).length := by
  rw [(eq_append_of_closing? closed).1]
  simp only [List.length_cons, List.length_append]
  omega

private theorem length_dropWhile_lt (p : Char → Bool) (c : Char) (cs : List Char) :
    (cs.dropWhile p).length < (c :: cs).length :=
  Nat.lt_succ_of_le (List.dropWhile_sublist p).length_le

/-- The tokens of a text and its last fault. -/
def chars : List Char → Scanned
  | [] => ⟨[.endOfLine], none⟩
  | c :: cs =>
    if isGap c then chars cs
    else if let some m := Mark.ofChar? c then (chars cs).push (.mark m)
    else if _digit : isDigit c then
      (chars (Numeral.read (c :: cs)).2).push (.number (Numeral.read (c :: cs)).1)
    else if startsName c then
      (chars (cs.dropWhile continuesName)).push (.name (String.ofList (c :: cs.takeWhile continuesName)))
    else if c = '\'' then
      match _closed : closing? cs with
      | none => ⟨[.endOfLine], some .unterminatedString⟩
      | some (content, after) => (chars after).push (.quoted (String.ofList content))
    else (chars cs).note (.unexpected c)
termination_by cs => cs.length
decreasing_by
  · exact Nat.lt_succ_self _
  · exact Nat.lt_succ_self _
  · exact Numeral.length_read_lt cs _digit
  · exact length_dropWhile_lt _ c cs
  · exact length_closing_lt c _closed
  · exact Nat.lt_succ_self _

/-- The tokens of a line and its last fault. -/
def line (text : String) : Scanned := chars text.toList

/-- The end of the line is the last token. -/
theorem getLast?_tokens_chars (cs : List Char) : (chars cs).tokens.getLast? = some .endOfLine := by
  fun_induction chars cs with
  | case1 => rfl
  | case2 c cs gap ih => exact ih
  | case3 c cs gap m mark ih => simp [Scanned.push, List.getLast?_cons, ih]
  | case4 c cs gap mark digit ih => simp [Scanned.push, List.getLast?_cons, ih]
  | case5 c cs gap mark digit starts ih => simp [Scanned.push, List.getLast?_cons, ih]
  | case6 => rfl
  | case7 cs gap mark digit starts content after closed ih => simp [Scanned.push, List.getLast?_cons, ih]
  | case8 c cs gap mark digit starts quote ih => exact ih

end OutlineCalc.Scan
