import OutlineCalc.Proofs.MaximalMunch

/-!
Texts one behind the other. With a gap character between them two texts are read as if each stood alone, as long
as the first leaves no quote open, and it does not matter which gap character that is: the currency mark is as
good as a space. A line is therefore read again from its lexemes with single spaces between them.
-/

namespace OutlineCalc.Scan

theorem filter_tokens (cs : List Char) : (chars cs).tokens.filter (· ≠ .endOfLine) = (chars cs).tokens.dropLast := by
  obtain ⟨cut, rfl, maximal⟩ := exists_maximal cs
  rw [maximal.chars_eq, List.dropLast_concat, List.filter_append]
  have kept : cut.tokens.filter (· ≠ .endOfLine) = cut.tokens := by
    rw [List.filter_eq_self]
    intro token mem
    obtain ⟨lexeme, rest, here⟩ := maximal.lexeme_of_mem mem
    cases here <;> rfl
  rw [kept]
  simp

/-- The end of the line stands nowhere but at the end. -/
theorem endOfLine_notMem_dropLast (cs : List Char) : .endOfLine ∉ (chars cs).tokens.dropLast := by
  rw [← filter_tokens]
  simp

/-- Every token but the end of the line was read from a lexeme. -/
theorem lexeme_of_mem_tokens {cs : List Char} {token : Token} (mem : token ∈ (chars cs).tokens)
    (inside : token ≠ .endOfLine) : ∃ lexeme rest, Lexeme token lexeme rest := by
  obtain ⟨cut, rfl, maximal⟩ := exists_maximal cs
  rw [maximal.chars_eq] at mem
  rcases List.mem_append.mp mem with mem | last
  · exact maximal.lexeme_of_mem mem
  · exact absurd (List.mem_singleton.mp last) inside

theorem dropLast_append_endOfLine (cs : List Char) : (chars cs).tokens.dropLast ++ [.endOfLine] = (chars cs).tokens := by
  obtain ⟨before, shape⟩ := List.getLast?_eq_some_iff.mp (getLast?_tokens_chars cs)
  rw [shape, List.dropLast_concat]

/-! ## Two texts -/

/-- Two texts with a blank between them are read one after the other, unless a quote that the first one leaves
open takes the second. The fault of the second counts, if there is one. -/
theorem chars_append_blank {cs : List Char} (closed : (chars cs).fault ≠ some .unterminatedString) {c : Char}
    (gap : isGap c = true) (after : List Char) :
    chars (cs ++ c :: after) =
      ⟨(chars cs).tokens.dropLast ++ (chars after).tokens, (chars after).fault.or (chars cs).fault⟩ := by
  obtain ⟨cut, rfl, maximal⟩ := exists_maximal cs
  rw [maximal.chars_eq] at closed ⊢
  have noTail : cut.tail = [] := by
    by_cases ended : cut.tail = []
    · exact ended
    · exact absurd (if_neg ended) closed
  have apart : ∀ d ∈ (c :: after).head?, isGap d = true := by
    rintro d ⟨⟩
    exact gap
  rw [maximal.chars_append apart, noTail, List.nil_append, chars_of_isGap gap, List.dropLast_concat, Cut.fault?, if_pos noTail]

theorem isGap_iff {c : Char} : isGap c = true ↔ c ∈ [' ', '\t', '\r', '$'] := by
  simp [isGap, or_assoc]

/-- Reading takes two texts with a space, a tab, a carriage return or a currency mark between them to the tokens
of the first and then those of the second, if the first leaves no quote open. The fault is that of the second, or
else that of the first. Which of the four characters it is leaves no trace. -/
theorem line_append_gap {first : String} (closed : (line first).fault ≠ some .unterminatedString) {c : Char}
    (gap : c ∈ [' ', '\t', '\r', '$']) (second : String) :
    (line (first ++ c.toString ++ second)).tokens = (line first).tokens.filter (· ≠ .endOfLine) ++ (line second).tokens ∧
      (line (first ++ c.toString ++ second)).fault = (line second).fault.or (line first).fault ∧
      ∀ d ∈ [' ', '\t', '\r', '$'], line (first ++ d.toString ++ second) = line (first ++ c.toString ++ second) := by
  have read : ∀ d ∈ [' ', '\t', '\r', '$'], line (first ++ d.toString ++ second) =
      ⟨(line first).tokens.dropLast ++ (line second).tokens, (line second).fault.or (line first).fault⟩ := by
    intro d blank
    have split : (first ++ d.toString ++ second).toList = first.toList ++ d :: second.toList := by simp
    rw [line, split]
    exact chars_append_blank closed (isGap_iff.mpr blank) second.toList
  refine ⟨?_, ?_, ?_⟩
  · rw [read c gap, line, filter_tokens]
  · rw [read c gap]
  · intro d blank
    rw [read d blank, read c gap]

/-- The currency mark keeps a point from the digit behind it, and the open quote of the second text counts more than
the character of the first that nothing starts with. -/
theorem line_append_gap_point :
    (line "~a 3.").fault ≠ some .unterminatedString ∧ '$' ∈ [' ', '\t', '\r', '$'] ∧
      (line ("~a 3." ++ '$'.toString ++ "5'b")).tokens =
        [.name "a", .number ⟨['3'], []⟩, .mark .dot, .number ⟨['5'], []⟩, .endOfLine] ∧
      (line ("~a 3." ++ '$'.toString ++ "5'b")).fault = some .unterminatedString := by
  have first : line "~a 3." = ⟨[.name "a", .number ⟨['3'], []⟩, .mark .dot, .endOfLine], some (.unexpected '~')⟩ := by
    decide +kernel
  have second : line "5'b" = ⟨[.number ⟨['5'], []⟩, .endOfLine], some .unterminatedString⟩ := by decide +kernel
  have closed : (line "~a 3.").fault ≠ some .unterminatedString := by rw [first]; decide
  have gap : '$' ∈ [' ', '\t', '\r', '$'] := by decide
  obtain ⟨tokens, fault, -⟩ := line_append_gap closed gap "5'b"
  rw [first, second] at tokens fault
  exact ⟨closed, gap, tokens, fault⟩

/-! ## Many texts -/

/-- Texts with gap characters between them are read one after the other, and the last fault of all counts. Only the
last of them may leave a quote open. -/
theorem chars_intercalate {c : Char} (gap : isGap c = true) {texts : List (List Char)}
    (closed : ∀ text ∈ texts.dropLast, (chars text).fault ≠ some .unterminatedString) :
    chars (List.intercalate [c] texts) =
      ⟨texts.flatMap (fun text => (chars text).tokens.dropLast) ++ [.endOfLine],
        texts.reverse.findSome? fun text => (chars text).fault⟩ := by
  induction texts with
  | nil => simp [chars]
  | cons text texts ih =>
    cases texts with
    | nil => simp [dropLast_append_endOfLine]
    | cons next texts =>
      rw [List.dropLast_cons_cons, List.forall_mem_cons] at closed
      have faults : (text :: next :: texts).reverse.findSome? (fun text => (chars text).fault) =
          ((next :: texts).reverse.findSome? fun text => (chars text).fault).or (chars text).fault := by
        rw [List.reverse_cons, List.findSome?_append]
        simp
      rw [List.intercalate_cons_cons, List.append_assoc, List.singleton_append, chars_append_blank closed.1 gap,
        ih closed.2, faults]
      simp only [List.flatMap_cons, List.append_assoc]

/-! ## A line from its lexemes -/

theorem Lexeme.alone {token : Token} {lexeme rest : List Char} (here : Lexeme token lexeme rest) :
    Lexeme token lexeme [] := by
  cases here with
  | mark m => exact .mark m []
  | whole nonempty all => exact .whole nonempty all (by simp) (by simp)
  | fraction nonempty all nonempty' all' => exact .fraction nonempty all nonempty' all' (by simp)
  | name starts continues => exact .name starts continues (by simp)
  | quoted quoteFree => exact .quoted quoteFree []

theorem Lexeme.chars_alone {token : Token} {lexeme rest : List Char} (here : Lexeme token lexeme rest) :
    chars token.lexeme.toList = ⟨[token, .endOfLine], none⟩ := by
  have read := here.alone.chars_eq
  rw [List.append_nil] at read
  rw [here.lexeme_eq, read]
  simp [chars, Scanned.push]

/-- Some tokens as text, their lexemes with single spaces between them. -/
def spaced (tokens : List Token) : String := " ".intercalate (tokens.map Token.lexeme)

theorem line_spaced_of_lexemes {tokens : List Token} (lexemes : ∀ token ∈ tokens, ∃ lexeme rest, Lexeme token lexeme rest) :
    line (spaced tokens) = ⟨tokens ++ [.endOfLine], none⟩ := by
  have alone : ∀ token ∈ tokens, chars token.lexeme.toList = ⟨[token, .endOfLine], none⟩ := by
    intro token mem
    obtain ⟨lexeme, rest, here⟩ := lexemes token mem
    exact here.chars_alone
  have text : (spaced tokens).toList = List.intercalate [' '] (tokens.map (·.lexeme.toList)) := by
    simp [spaced, Function.comp_def]
  have closed : ∀ text ∈ (tokens.map (·.lexeme.toList)).dropLast, (chars text).fault ≠ some .unterminatedString := by
    intro text mem
    obtain ⟨token, among, rfl⟩ := List.mem_map.mp (List.dropLast_subset _ mem)
    rw [alone token among]
    exact nofun
  rw [line, text, chars_intercalate (by decide) closed]
  -- each lexeme adds its own token, and no fault
  have read : (tokens.map (·.lexeme.toList)).flatMap (fun text => (chars text).tokens.dropLast) = tokens := by
    have each : tokens.map (fun token => (chars token.lexeme.toList).tokens.dropLast) = tokens.map fun token => [token] := by
      refine List.map_congr_left fun token mem => ?_
      rw [alone token mem]
      rfl
    rw [List.flatMap_map, List.flatMap_def, each, ← List.flatMap_def, List.flatMap_singleton']
  have sound : (tokens.map (·.lexeme.toList)).reverse.findSome? (fun text => (chars text).fault) = none := by
    rw [List.findSome?_eq_none_iff]
    intro text mem
    obtain ⟨token, among, rfl⟩ := List.mem_map.mp (List.mem_reverse.mp mem)
    rw [alone token among]
  rw [read, sound]

/-- The lexemes of a line, with single spaces between them, are read as the tokens of the line, without a fault. -/
theorem line_spaced (text : String) :
    line (spaced ((line text).tokens.filter (· ≠ .endOfLine))) = ⟨(line text).tokens, none⟩ := by
  have lexemes : ∀ token ∈ (line text).tokens.filter (· ≠ .endOfLine), ∃ lexeme rest, Lexeme token lexeme rest := by
    intro token mem
    obtain ⟨among, inside⟩ := List.mem_filter.mp mem
    exact lexeme_of_mem_tokens among (of_decide_eq_true inside)
  rw [line_spaced_of_lexemes lexemes, line, filter_tokens, dropLast_append_endOfLine]

end OutlineCalc.Scan
