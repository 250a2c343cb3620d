import Spreadsheet.Registry.Presented
import Spreadsheet.Registry.Structure

/-!
# Registry/Ledger — a workbook whose sheet is stored in tables

A ledger is to a registry what a `Workbook` is to a sheet, and has the same operations.  Those that
insert or delete lines are told the orders in which the indices are read.
-/

namespace Spreadsheet

structure Ledger where
  registry : Registry
  config : Config
  /-- Whether there may be changes that no file holds. -/
  dirty : Bool
  /-- The file the sheet was last saved to or opened from. -/
  filename : Option String
  /-- The latest message for the user. -/
  status : Option String

namespace Ledger

/-- A ledger of empty cells. -/
def new (config : Config) : Ledger :=
  { registry := .blank config.rows config.cols
    config
    dirty := false
    filename := none
    status := none }

/-! ## Cells -/

/-- Enters a text without evaluating it. -/
def setText (l : Ledger) (name text : String) : Except SheetError Ledger := do
  let id ← l.registry.resolve name
  let registry ← l.registry.setText id text
  return { l with registry, dirty := true }

/-- Evaluates a cell and everything that depends on it. -/
def commit (l : Ledger) (name : String) : Except SheetError (CommitReport × Ledger) := do
  let id ← l.registry.resolve name
  let (report, registry) := l.registry.commit l.config id
  return (report, { l with registry, status := report.message })

/-- Enters a text and evaluates the cell. -/
def edit (l : Ledger) (name text : String) : Except SheetError (CommitReport × Ledger) := do
  let l ← l.setText name text
  l.commit name

/-- Evaluates every cell. -/
def recalculate (l : Ledger) : Recalculation × Ledger :=
  let (report, registry) := l.registry.recalculate l.config
  (report, { l with registry })

/-! ## Rows and columns -/

/-- Takes over a registry of another size and evaluates it. -/
def resize (l : Ledger) (registry : Registry) : Recalculation × Ledger :=
  let (report, l) := { l with registry, dirty := true : Ledger }.recalculate
  ({ report with journal := .resized registry.rows registry.cols :: report.journal }, l)

/-- Appends an empty row. -/
def addRow (orders : Orders) (l : Ledger) : Except SheetError (Recalculation × Ledger) :=
  (l.registry.insertRow orders l.registry.rows).map l.resize

/-- Appends an empty column. -/
def addColumn (orders : Orders) (l : Ledger) : Except SheetError (Recalculation × Ledger) :=
  (l.registry.insertColumn orders l.registry.cols).map l.resize

/-- Deletes the last row. -/
def deleteRow (orders : Orders) (l : Ledger) : Except SheetError (Recalculation × Ledger) :=
  (l.registry.deleteRow orders (l.registry.rows - 1)).map l.resize

/-- Deletes the last column. -/
def deleteColumn (orders : Orders) (l : Ledger) : Except SheetError (Recalculation × Ledger) :=
  (l.registry.deleteColumn orders (l.registry.cols - 1)).map l.resize

/-! ## Whole registries -/

/-- Starts over with empty cells. -/
def newSheet (l : Ledger) : Ledger := new l.config

/-- Takes over a registry from a file, or from elsewhere, and evaluates it. -/
def replaceSheet (l : Ledger) (registry : Registry) (filename : Option String) :
    Recalculation × Ledger :=
  let (report, l) := { l with registry, filename : Ledger }.recalculate
  (report, { l with dirty := false })

end Ledger

end Spreadsheet
