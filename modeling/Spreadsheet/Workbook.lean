import Spreadsheet.Recalculation.Bulk
import Spreadsheet.Sheet.Structure

/-!
# Workbook — a sheet being worked on

A workbook is a sheet together with its configuration, the file it belongs to, whether it differs
from that file, and a message for the user.  Its operations either succeed and yield the workbook
after them, or fail and yield none.
-/

namespace Spreadsheet

structure Workbook where
  sheet : Sheet
  config : Config
  /-- Whether there may be changes that no file holds. -/
  dirty : Bool
  /-- The file the sheet was last saved to or opened from. -/
  filename : Option String
  /-- The latest message for the user. -/
  status : Option String
deriving DecidableEq, Repr, Inhabited

namespace Workbook

/-- A workbook with an empty sheet. -/
def new (config : Config) : Workbook :=
  { sheet := .blank config.rows config.cols
    config
    dirty := false
    filename := none
    status := none }

/-! ## Cells -/

/-- Enters a text without evaluating it. -/
def setText (b : Workbook) (name text : String) : Except SheetError Workbook := do
  let id ← b.sheet.resolve name
  let sheet ← b.sheet.setText id text
  return { b with sheet, dirty := true }

/-- Evaluates a cell and everything that depends on it. -/
def commit (b : Workbook) (name : String) : Except SheetError (CommitReport × Workbook) := do
  let id ← b.sheet.resolve name
  let (report, sheet) := b.sheet.commit b.config id
  return (report, { b with sheet, status := report.message })

/-- Enters a text and evaluates the cell. -/
def edit (b : Workbook) (name text : String) : Except SheetError (CommitReport × Workbook) := do
  let b ← b.setText name text
  b.commit name

/-- Evaluates every cell. -/
def recalculate (b : Workbook) : Recalculation × Workbook :=
  let (report, sheet) := b.sheet.recalculate b.config
  (report, { b with sheet })

/-! ## Rows and columns -/

/-- Takes over a sheet of another size and evaluates it. -/
def resize (b : Workbook) (sheet : Sheet) : Recalculation × Workbook :=
  let (report, b) := { b with sheet, dirty := true : Workbook }.recalculate
  ({ report with journal := .resized sheet.rows sheet.cols :: report.journal }, b)

/-- Appends an empty row. -/
def addRow (b : Workbook) : Except SheetError (Recalculation × Workbook) :=
  (b.sheet.insertRow b.sheet.rows).map b.resize

/-- Appends an empty column. -/
def addColumn (b : Workbook) : Except SheetError (Recalculation × Workbook) :=
  (b.sheet.insertColumn b.sheet.cols).map b.resize

/-- Deletes the last row. -/
def deleteRow (b : Workbook) : Except SheetError (Recalculation × Workbook) :=
  (b.sheet.deleteRow (b.sheet.rows - 1)).map b.resize

/-- Deletes the last column. -/
def deleteColumn (b : Workbook) : Except SheetError (Recalculation × Workbook) :=
  (b.sheet.deleteColumn (b.sheet.cols - 1)).map b.resize

/-! ## Whole sheets -/

/-- Starts over with an empty sheet. -/
def newSheet (b : Workbook) : Workbook := new b.config

/-- Takes over a sheet from a file, or from elsewhere, and evaluates it. -/
def replaceSheet (b : Workbook) (sheet : Sheet) (filename : Option String) :
    Recalculation × Workbook :=
  let (report, b) := { b with sheet, filename : Workbook }.recalculate
  (report, { b with dirty := false })

/-- Notes that a file now holds the sheet. -/
def markSaved (b : Workbook) (filename : String) : Workbook :=
  { b with filename := some filename, dirty := false, status := some ("Saved to " ++ filename) }

end Workbook

end Spreadsheet
