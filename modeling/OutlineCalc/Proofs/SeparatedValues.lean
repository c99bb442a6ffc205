import OutlineCalc.Sheet

/-!
Comma-separated values read back. The grammar says how records may be written: fields with commas between
them, a line break behind each record, and quotes around a field, within which a quote is written twice. The
reader takes a text for records exactly where the grammar does, and so no text is written from two lists of
records. What a sheet writes is read as its headings and the cells of its rows.
-/

namespace OutlineCalc.Csv

/-! ## The grammar -/

/-- `Doubled written content`: `content` with every quote written twice. -/
inductive Doubled : List Char → List Char → Prop
  | nil : Doubled [] []
  | quote {written content : List Char} (more : Doubled written content) : Doubled ('"' :: '"' :: written) ('"' :: content)
  | other {c : Char} {written content : List Char} (plain : c ≠ '"') (more : Doubled written content) :
      Doubled (c :: written) (c :: content)

/-- Whether a character can stand in a field without quotes. -/
def isPlain (c : Char) : Bool := c != ',' && c != '"' && c != '\n'

/-- `Field written content`: a field is written as it is or between quotes. -/
inductive Field : List Char → List Char → Prop
  | plain {content : List Char} (free : ∀ c ∈ content, isPlain c = true) : Field content content
  | quoted {written content : List Char} (doubled : Doubled written content) : Field ('"' :: (written ++ ['"'])) content

/-- `Record written cells`: fields with commas between them and a line break behind the last one. -/
inductive Record : List Char → List (List Char) → Prop
  | last {written cell : List Char} (field : Field written cell) : Record (written ++ ['\n']) [cell]
  | cons {written cell rest : List Char} {cells : List (List Char)} (field : Field written cell) (more : Record rest cells) :
      Record (written ++ ',' :: rest) (cell :: cells)

/-- `Records written records`: records one after the other. -/
inductive Records : List Char → List (List (List Char)) → Prop
  | nil : Records [] []
  | cons {written rest : List Char} {cells : List (List Char)} {records : List (List (List Char))}
      (record : Record written cells) (more : Records rest records) : Records (written ++ rest) (cells :: records)

/-! ## The reader -/

/-- What stands in front of the quote that closes a field, and what follows that quote; two quotes do not
close the field but stand for one. -/
def readQuoted? : List Char → Option (List Char × List Char)
  | [] => none
  | '"' :: '"' :: cs => (readQuoted? cs).map fun (content, rest) => ('"' :: content, rest)
  | '"' :: cs => some ([], cs)
  | c :: cs => (readQuoted? cs).map fun (content, rest) => (c :: content, rest)

/-- The field that a text starts with, and what follows it. -/
def readField? : List Char → Option (List Char × List Char)
  | '"' :: cs => readQuoted? cs
  | cs => some (cs.takeWhile isPlain, cs.dropWhile isPlain)

theorem exists_doubled {cs content rest : List Char} (read : readQuoted? cs = some (content, rest)) :
    ∃ written, Doubled written content ∧ cs = written ++ '"' :: rest := by
  fun_induction readQuoted? cs generalizing content with
  | case1 => contradiction
  | case2 cs ih =>
    obtain ⟨⟨content, rest⟩, found, same⟩ := Option.map_eq_some_iff.mp read
    obtain ⟨rfl, rfl⟩ := Prod.mk.inj same
    obtain ⟨written, doubled, rfl⟩ := ih found
    exact ⟨'"' :: '"' :: written, .quote doubled, rfl⟩
  | case3 cs =>
    obtain ⟨rfl, rfl⟩ := Prod.mk.inj (Option.some.inj read)
    exact ⟨[], .nil, rfl⟩
  | case4 c cs _ plain ih =>
    obtain ⟨⟨content, rest⟩, found, same⟩ := Option.map_eq_some_iff.mp read
    obtain ⟨rfl, rfl⟩ := Prod.mk.inj same
    obtain ⟨written, doubled, rfl⟩ := ih found
    exact ⟨c :: written, .other (fun quote => plain quote) doubled, rfl⟩

theorem readQuoted?_append {written content : List Char} (doubled : Doubled written content) {rest : List Char}
    (closed : rest.head? ≠ some '"') : readQuoted? (written ++ '"' :: rest) = some (content, rest) := by
  induction doubled with
  | nil =>
    cases rest with
    | nil => rfl
    | cons c rest =>
      have other : c ≠ '"' := by simpa using closed
      simp [readQuoted?, other]
  | quote _ ih => simp [readQuoted?, ih]
  | other plain _ ih => simp [readQuoted?, plain, ih]

/-- What is read as a field is one, in front of what follows it. -/
theorem exists_field {cs cell rest : List Char} (read : readField? cs = some (cell, rest)) :
    ∃ written, Field written cell ∧ cs = written ++ rest := by
  unfold readField? at read
  split at read
  · rename_i cs
    obtain ⟨written, doubled, rfl⟩ := exists_doubled read
    exact ⟨'"' :: (written ++ ['"']), .quoted doubled, by simp⟩
  · obtain ⟨rfl, rfl⟩ := Prod.mk.inj (Option.some.inj read)
    exact ⟨cs.takeWhile isPlain, .plain (List.all_eq_true.mp List.all_takeWhile), List.takeWhile_append_dropWhile.symm⟩

/-- Where a comma or a line break follows, a field is read up to there. -/
theorem readField?_append {written cell : List Char} (field : Field written cell) {mark : Char} (ends : mark = ',' ∨ mark = '\n')
    (rest : List Char) : readField? (written ++ mark :: rest) = some (cell, mark :: rest) := by
  have marked : isPlain mark = false ∧ mark ≠ '"' := by
    rcases ends with rfl | rfl
    · decide
    · decide
  cases field with
  | plain free =>
    have unquoted : ∀ cs, written ++ mark :: rest ≠ '"' :: cs := by
      intro cs same
      cases written with
      | nil => exact marked.2 (List.cons.inj same).1
      | cons c written =>
        obtain ⟨rfl, _⟩ := List.cons.inj same
        exact absurd (free _ List.mem_cons_self) (by decide)
    rw [readField?]
    · rw [List.takeWhile_append_of_pos free, List.dropWhile_append_of_pos free]
      simp [marked.1]
    · exact unquoted
  | @quoted written _ doubled =>
    rw [List.cons_append, List.append_assoc, List.singleton_append, readField?]
    exact readQuoted?_append doubled (by simpa using marked.2)

theorem length_readField?_le {cs cell rest : List Char} (read : readField? cs = some (cell, rest)) : rest.length ≤ cs.length := by
  obtain ⟨written, _, rfl⟩ := exists_field read
  simp

/-- The record that a text starts with, and what follows it. -/
def readRecord? (cs : List Char) : Option (List (List Char) × List Char) :=
  match _read : readField? cs with
  | some (cell, ',' :: rest) => (readRecord? rest).map fun (cells, rest) => (cell :: cells, rest)
  | some (cell, '\n' :: rest) => some ([cell], rest)
  | _ => none
termination_by cs.length
decreasing_by
  have := length_readField?_le _read
  simp at this
  omega

theorem exists_record {cs rest : List Char} {cells : List (List Char)} (read : readRecord? cs = some (cells, rest)) :
    ∃ written, Record written cells ∧ cs = written ++ rest := by
  fun_induction readRecord? cs generalizing cells with
  | case1 cs cell more field ih =>
    obtain ⟨⟨cells, rest⟩, found, same⟩ := Option.map_eq_some_iff.mp read
    obtain ⟨rfl, rfl⟩ := Prod.mk.inj same
    obtain ⟨written, here, rfl⟩ := exists_field field
    obtain ⟨written', record, rfl⟩ := ih found
    exact ⟨written ++ ',' :: written', .cons here record, by simp⟩
  | case2 cs cell more field =>
    obtain ⟨rfl, rfl⟩ := Prod.mk.inj (Option.some.inj read)
    obtain ⟨written, here, rfl⟩ := exists_field field
    exact ⟨written ++ ['\n'], .last here, by simp⟩
  | case3 => contradiction

theorem readRecord?_append {written : List Char} {cells : List (List Char)} (record : Record written cells) (rest : List Char) :
    readRecord? (written ++ rest) = some (cells, rest) := by
  induction record with
  | last field =>
    rw [List.append_assoc, List.singleton_append, readRecord?]
    split <;> simp_all [readField?_append field (.inr rfl)]
  | cons field _ ih =>
    rw [List.append_assoc, List.cons_append, readRecord?]
    split <;> simp_all [readField?_append field (.inl rfl)]

theorem length_readRecord?_lt {cs rest : List Char} {cells : List (List Char)} (read : readRecord? cs = some (cells, rest)) :
    rest.length < cs.length := by
  obtain ⟨written, record, rfl⟩ := exists_record read
  cases record <;> simp <;> omega

/-- The records of a text. -/
def readRecords? (cs : List Char) : Option (List (List (List Char))) :=
  match cs with
  | [] => some []
  | c :: cs =>
    match _read : readRecord? (c :: cs) with
    | none => none
    | some (cells, rest) => (readRecords? rest).map (cells :: ·)
termination_by cs.length
decreasing_by exact length_readRecord?_lt _read

theorem readRecords?_of_record {cs rest : List Char} {cells : List (List Char)} (read : readRecord? cs = some (cells, rest)) :
    readRecords? cs = (readRecords? rest).map (cells :: ·) := by
  cases cs with
  | nil => simpa using length_readRecord?_lt read
  | cons c cs =>
    rw [readRecords?]
    split <;> simp_all

/-- The reader takes a text for records where it is written from them and nowhere else. -/
theorem readRecords?_eq_some_iff {cs : List Char} {records : List (List (List Char))} :
    readRecords? cs = some records ↔ Records cs records := by
  constructor
  · intro read
    fun_induction readRecords? cs generalizing records with
    | case1 =>
      obtain rfl := Option.some.inj read
      exact .nil
    | case2 => contradiction
    | case3 c cs cells rest first ih =>
      obtain ⟨more, found, rfl⟩ := Option.map_eq_some_iff.mp read
      obtain ⟨written, record, same⟩ := exists_record first
      rw [same]
      exact .cons record (ih found)
  · intro written
    induction written with
    | nil => rw [readRecords?]
    | cons record _ ih => rw [readRecords?_of_record (readRecord?_append record _), ih, Option.map_some]

/-- Whether a text is written from records of texts. -/
def Written (text : String) (records : List (List String)) : Prop := Records text.toList (records.map (·.map String.toList))

/-- The records of a text, as texts. -/
def read? (text : String) : Option (List (List String)) := (readRecords? text.toList).map fun records => records.map (·.map String.ofList)

theorem read?_eq_some_iff {text : String} {records : List (List String)} : read? text = some records ↔ Written text records := by
  rw [read?, Written, ← readRecords?_eq_some_iff, Option.map_eq_some_iff]
  constructor
  · rintro ⟨cells, read, rfl⟩
    simpa [Function.comp_def] using read
  · intro read
    exact ⟨_, read, by simp [Function.comp_def]⟩

end OutlineCalc.Csv

namespace OutlineCalc.Sheet

open Csv (Doubled Field Record Records isPlain)

/-! ## What a sheet writes -/

theorem doubled_doubleQuotes (content : List Char) : Doubled (doubleQuotes content) content := by
  induction content with
  | nil => exact .nil
  | cons c content ih =>
    by_cases quote : c = '"'
    · subst quote
      exact .quote ih
    · have written : doubleQuotes (c :: content) = c :: doubleQuotes content := by simp [doubleQuotes, quote]
      rw [written]
      exact .other quote ih

theorem field_csvField (cell : List Char) : Field (csvField cell) cell := by
  rw [csvField]
  split
  · exact .quoted (doubled_doubleQuotes cell)
  · rename_i plain
    refine .plain fun c mem => ?_
    simp only [needsQuotes, List.any_eq_true, not_exists, not_and] at plain
    simpa [isPlain, not_or, and_assoc] using plain c mem

theorem record_csvRecord {cells : List String} (nonempty : cells ≠ []) : Record (csvRecord cells) (cells.map String.toList) := by
  induction cells with
  | nil => contradiction
  | cons cell cells ih =>
    cases cells with
    | nil =>
      have alone : csvRecord [cell] = csvField cell.toList ++ ['\n'] := by simp [csvRecord]
      rw [alone]
      exact .last (field_csvField _)
    | cons second cells =>
      have split : csvRecord (cell :: second :: cells) = csvField cell.toList ++ ',' :: csvRecord (second :: cells) := by
        simp [csvRecord, List.intercalate_cons_cons]
      rw [split]
      exact .cons (field_csvField _) (ih (List.cons_ne_nil _ _))

theorem records_flatMap_csvRecord {records : List (List String)} (nonempty : ∀ cells ∈ records, cells ≠ []) :
    Records (records.flatMap csvRecord) (records.map (·.map String.toList)) := by
  induction records with
  | nil => exact .nil
  | cons cells records ih =>
    rw [List.flatMap_cons]
    exact .cons (record_csvRecord (nonempty cells List.mem_cons_self)) (ih fun other mem => nonempty other (List.mem_cons_of_mem _ mem))

theorem ne_nil_of_mem_records {showIndex : Bool} {rows : List Row} : ∀ cells ∈ records showIndex rows, cells ≠ [] := by
  have columns : Column.shown showIndex rows ≠ [] := by simp [Column.shown]
  intro cells mem
  rcases List.mem_cons.mp mem with rfl | mem
  · simpa using columns
  · obtain ⟨row, _, rfl⟩ := List.mem_map.mp mem
    simpa using columns

/-- The comma-separated values of some rows are written from one list of records and no other, and a reader
gets it back: the headings, and for each row in order its number, left empty for zero, if numbers are asked
for, its text, its result, and its error, left empty for none, if some row has one. -/
theorem read?_csv (showIndex : Bool) (rows : List Row) :
    let anyError : Bool := rows.any fun row => row.error.getD "" != ""
    let cells (index line result error : String) : List String :=
      (if showIndex then [index] else []) ++ [line, result] ++ (if anyError then [error] else [])
    let records := cells "#" "line" "result" "error" ::
      rows.map fun row => cells (if row.index = 0 then "" else toString row.index) row.text row.result (row.error.getD "")
    Csv.read? (csv showIndex rows) = some records ∧ ∀ other, Csv.Written (csv showIndex rows) other ↔ other = records := by
  intro anyError cells records
  have written : Csv.Written (csv showIndex rows) (Sheet.records showIndex rows) := by
    rw [Csv.Written, csv, String.toList_ofList]
    exact records_flatMap_csvRecord ne_nil_of_mem_records
  have shown : ∀ f : Column → String, (Column.shown showIndex rows).map f = cells (f .index) (f .line) (f .result) (f .error) := by
    intro f
    have errors : rows.any (fun row => row.report != "") = anyError := rfl
    simp only [Column.shown, errors, cells]
    cases showIndex <;> cases anyError <;> rfl
  have same : Sheet.records showIndex rows = records := by
    simp only [Sheet.records, shown]
    rfl
  rw [same] at written
  have read := Csv.read?_eq_some_iff.mpr written
  refine ⟨read, fun other => ?_⟩
  rw [← Csv.read?_eq_some_iff, read, Option.some_inj, eq_comm]

end OutlineCalc.Sheet
