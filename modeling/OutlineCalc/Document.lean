import OutlineCalc.Blank
import OutlineCalc.Outline
import OutlineCalc.Pieces

/-!
Documents: text whose lines are calculated one after the other and put below one another as
their indents say. Each row can use what the rows before it bound, and its own value under the
name `Line` with its number.
-/

namespace OutlineCalc.Document

open Blank (isBlank)

/-- The texts between the line breaks of a text. -/
def rows (cs : List Char) : List (List Char) := Pieces.between '\n' cs

/-- The rows of a document that are not blank. -/
def filledRows (document : String) : List String :=
  ((rows document.toList).filter (!·.all isBlank)).map String.ofList

/-- How many spaces a row starts with; other blanks do not count. -/
def leadingIndent (source : String) : Nat := (source.toList.takeWhile (· == ' ')).length

/-- The word that a row ends in without its currency marks and underscores, and whether it had a
currency mark. -/
def trailingWord (source : String) : String × Bool :=
  let word := Blank.lastWord source.toList
  (String.ofList (word.filter fun c => c != '$' && c != '_'), word.contains '$')

/-- The name under which a row's value can be used. -/
def rowName (row : Int) : String := "Line" ++ row.repr

/-- Calculates a row and binds its value to its name. -/
def evaluateLine [Machine] (source : String) (row : Int) (store : Store) : Line × Store :=
  let (word, marked) := trailingWord source
  let (calculation, store) := Calculation.run source store
  let amount := calculation.value.amount
  ({ source, row, word, marked, indent := leadingIndent source, value := amount, result := amount,
     fault := calculation.fault? }, store.set (rowName row) (.number amount))

/-- An outline under way: the place of its last line and the store after it. -/
structure Progress where
  outline : Outline
  current : Nat
  store : Store

/-- Puts a row into the outline, after all rows so far. -/
def Progress.add [Machine] (p : Progress) (source : String) : Progress :=
  let index := p.outline.lines.size
  let (line, store) := evaluateLine source index p.store
  ⟨p.outline.insert line (p.outline.findParent p.current line.indent), index, store⟩

/-- Where every document starts: nothing but the root, and nothing bound. -/
def Progress.start (store : Store) : Progress := ⟨.empty, 0, store.clear⟩

/-- The outline of a document and the store after its last row. What was bound before plays no
part. -/
def build [Machine] (document : String) (store : Store) : Outline × Store :=
  let last := (filledRows document).foldl Progress.add (.start store)
  (last.outline, last.store)

end OutlineCalc.Document
