import Spreadsheet.Text.Blank
import Spreadsheet.Workbook

/-!
# Console/Display — sheets and workbooks as plain text

A sheet is shown as a table of its values: a line with the labels of the columns, then a line for
each row behind its number.  A column is as wide as its longest value, within limits; a value that
does not fit ends in an ellipsis.
-/

namespace Spreadsheet

open Text

namespace Display

/-! ## Fields -/

def minWidth : Nat := 6
def maxWidth : Nat := 24

/-- Fills a text up with spaces behind it. -/
def padRight (width : Nat) (cs : List Char) : List Char :=
  cs ++ List.replicate (width - cs.length) ' '

/-- Fills a text up with spaces before it. -/
def padLeft (width : Nat) (cs : List Char) : List Char :=
  List.replicate (width - cs.length) ' ' ++ cs

/-- Shortens a text to a width, with an ellipsis for what is missing. -/
def shorten (width : Nat) (cs : List Char) : List Char :=
  if cs.length ≤ width then cs else cs.take (width - 1) ++ ['…']

/-- Drops the empty texts at the end. -/
def dropEmptyEnd (fields : List (List Char)) : List (List Char) :=
  (fields.reverse.dropWhile (· = [])).reverse

/-! ## Lines -/

/-- A line: its heading, then each field behind a bar, without blanks at the end. -/
def line (heading : List Char) (widths : List Nat) (fields : List (List Char)) : List Char :=
  trimEnd (heading ++
    (fields.zip widths).flatMap fun (field, width) => [' ', '|', ' '] ++ padRight width field)

end Display

namespace Sheet

open Display

/-- The value at a position. -/
def shownAt (s : Sheet) (p : Position) : List Char :=
  match s.cellAt p with
  | some c => c.value.toList
  | none => []

/-- The width of a column. -/
def columnWidth (s : Sheet) (col : Nat) : Nat :=
  let lengths := (List.range s.rows).map fun row => (s.shownAt ⟨row, col⟩).length
  min (max (lengths.foldl max 0) minWidth) maxWidth

/-- The widths of all columns. -/
def columnWidths (s : Sheet) : List Nat := (List.range s.cols).map s.columnWidth

/-- The width of the row numbers. -/
def rowLabelWidth (s : Sheet) : Nat := (Nat.toDigits 10 s.rows).length

/-- The line with the labels of the columns. -/
def headerLine (s : Sheet) (widths : List Nat) : List Char :=
  line (padLeft s.rowLabelWidth []) widths ((List.range s.cols).map columnLetters)

/-- The line of a row; it ends with the last value that is not empty. -/
def rowLine (s : Sheet) (widths : List Nat) (row : Nat) : List Char :=
  line (padLeft s.rowLabelWidth (Nat.toDigits 10 (row + 1))) widths
    (dropEmptyEnd (widths.zipIdx.map fun (width, col) => shorten width (s.shownAt ⟨row, col⟩)))

/-- The lines of the table of values. -/
def tableLines (s : Sheet) : List (List Char) :=
  let widths := s.columnWidths
  s.headerLine widths :: (List.range s.rows).map (s.rowLine widths)

/-- The table of values. -/
def display (s : Sheet) : String := String.ofList (['\n'].intercalate s.tableLines)

end Sheet

namespace Workbook

/-- One line about a workbook: the message for the user, or else the file and the size. -/
def statusLine (b : Workbook) : String :=
  match b.status with
  | some status => status
  | none =>
      "File: " ++ b.filename.getD "unsaved" ++ (if b.dirty then " [modified]" else "") ++ " | " ++
        toString b.sheet.rows ++ "x" ++ toString b.sheet.cols ++ " | help: commands"

end Workbook

end Spreadsheet
