import OutlineCalc.Blank
import OutlineCalc.Row

/-!
Sheets: a header and records with one cell for each column, written as a table with aligned
columns or as comma-separated values.
-/

namespace OutlineCalc

/-- A column of a sheet. -/
inductive Column where
  | index | line | result | error
deriving DecidableEq, Repr

namespace Column

/-- The heading of a column. -/
def heading : Column → String
  | index => "#"
  | line => "line"
  | result => "result"
  | error => "error"

/-- What a row shows in a column; the number of the total, zero, is left out. -/
def cell (row : Row) : Column → String
  | index => if row.index = 0 then "" else row.index.repr
  | line => row.text
  | result => row.result
  | error => row.report

/-- The columns of a sheet. The index is shown on demand, errors if there are any. -/
def shown (showIndex : Bool) (rows : List Row) : List Column :=
  (if showIndex then [index] else []) ++ [line, result] ++
    (if rows.any (·.report != "") then [error] else [])

end Column

namespace Sheet

/-- The records of a sheet, its headings first. -/
def records (showIndex : Bool) (rows : List Row) : List (List String) :=
  let columns := Column.shown showIndex rows
  columns.map Column.heading :: rows.map fun row => columns.map (Column.cell row)

/-! ## Tables -/

/-- The widths that the columns need for some records. -/
def widths (columns : List Column) (rows : List Row) : List Nat :=
  columns.map fun column => rows.foldl (fun width row => max width (column.cell row).length) column.heading.length

/-- A cell padded to a width; results stand on the right, all else on the left. -/
def padded (column : Column) (width : Nat) (cell : String) : List Char :=
  let cs := cell.toList
  let gap := List.replicate (width - cs.length) ' '
  if column = .result then gap ++ cs else cs ++ gap

/-- A line of a table: its cells two spaces apart, without the blanks it ends in. -/
def tableLine (columns : List Column) (widths : List Nat) (cells : List String) : List Char :=
  let cells := List.zipWith (fun (column, width) cell => padded column width cell) (columns.zip widths) cells
  Blank.trimEnd (List.intercalate [' ', ' '] cells)

/-- Rows as a table with a heading. -/
def table (showIndex : Bool) (rows : List Row) : String :=
  let columns := Column.shown showIndex rows
  let lines := (records showIndex rows).map (tableLine columns (widths columns rows))
  String.ofList (List.intercalate ['\n'] lines)

/-! ## Comma-separated values -/

/-- Whether a field has to be quoted: it holds a comma, a quote or a line break. -/
def needsQuotes (field : List Char) : Bool := field.any fun c => c == ',' || c == '"' || c == '\n'

/-- A text with every quote written twice. -/
def doubleQuotes (field : List Char) : List Char :=
  field.flatMap fun c => if c = '"' then ['"', '"'] else [c]

/-- A field as it is written. -/
def csvField (field : List Char) : List Char :=
  if needsQuotes field then '"' :: doubleQuotes field ++ ['"'] else field

/-- A record as it is written, up to its line break. -/
def csvRecord (cells : List String) : List Char :=
  List.intercalate [','] (cells.map fun cell => csvField cell.toList) ++ ['\n']

/-- Rows as comma-separated values with a heading. -/
def csv (showIndex : Bool) (rows : List Row) : String :=
  String.ofList ((records showIndex rows).flatMap csvRecord)

end Sheet

end OutlineCalc
