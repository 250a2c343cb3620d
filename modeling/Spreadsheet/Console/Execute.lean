import Spreadsheet.Console.Command
import Spreadsheet.Console.Display
import Spreadsheet.Console.Help
import Spreadsheet.Storage.Files

/-!
# Console/Execute — what a command does

A command leaves a workbook behind, has something to say to the user, and makes notes on the way.
A command that fails says why and leaves the workbook as it was.
-/

namespace Spreadsheet

/-- What comes of a command. -/
structure Reply where
  /-- What to tell the user; nothing if it is empty. -/
  text : String
  journal : Journal
  workbook : Workbook

namespace Reply

/-- A failure, which changes nothing. -/
def failure (b : Workbook) (message : String) (journal : Journal) : Reply :=
  ⟨"error: " ++ message, journal, b⟩

end Reply

/-- What the user reads about an evaluated cell. -/
def CellUpdate.line (update : CellUpdate) : String := update.name ++ " = " ++ update.value

/-- What the user reads about a commit: a line for each cell evaluated, and the failure. -/
def CommitReport.text (report : CommitReport) : String :=
  "\n".intercalate
    (report.updates.map CellUpdate.line ++ report.message.toList.map ("error: " ++ ·))

namespace Workbook

/-! ## Cells -/

/-- Enters a text and evaluates the cell. -/
def replyToSet (b : Workbook) (cell text : String) : Reply :=
  match b.edit cell text with
  | .ok (report, b) => ⟨report.text, report.journal, b⟩
  | .error e => .failure b e.message []

/-- Shows the text and the value of a cell. -/
def replyToGet (b : Workbook) (cell : String) : Reply :=
  match b.sheet.cellNamed? cell with
  | some c => ⟨c.name ++ " = " ++ Text.quote c.text ++ " -> " ++ c.value, [], b⟩
  | none => .failure b ("unknown cell " ++ cell) []

/-- Evaluates every cell. -/
def replyToRecalculate (b : Workbook) : Reply :=
  let (report, b) := b.recalculate
  ⟨"recalculated " ++ toString report.updates.length ++ " cells", report.journal, b⟩

/-- Takes over the sheet with a row or column more or less. -/
def replyToResize (b : Workbook) : Except SheetError (Recalculation × Workbook) → Reply
  | .ok (report, b) =>
      ⟨"sheet is now " ++ toString b.sheet.rows ++ "x" ++ toString b.sheet.cols, report.journal, b⟩
  | .error e => .failure b e.message []

/-! ## Files -/

/-- Saves the sheet; the workbook belongs to the file from then on. -/
def replyToSave (b : Workbook) (file : String) : FileTask Reply := do
  match ← Storage.saveSheet b.sheet file with
  | .ok _ => return ⟨"saved to " ++ file, [.saved file], b.markSaved file⟩
  | .error e => return .failure b ("save failed: " ++ e.message) []

/-- Takes over a saved sheet.  What was read is noted even if no sheet can be built from it. -/
def replyToLoad (b : Workbook) (file : String) : FileTask Reply := do
  match ← Storage.loadSnapshot file with
  | .error e => return .failure b ("load failed: " ++ e.message) []
  | .ok snapshot =>
      let loaded : Notice := .loaded snapshot.cells.length file
      match snapshot.restore with
      | .error e => return .failure b ("load failed: " ++ e.message) [loaded]
      | .ok sheet =>
          let (report, b) := b.replaceSheet sheet (some file)
          return ⟨"loaded " ++ file, loaded :: report.journal, b⟩

/-- Writes the texts of the sheet as a table. -/
def replyToExport (b : Workbook) (file : String) : FileTask Reply := do
  match ← Storage.exportTable b.sheet file with
  | .ok _ => return ⟨"exported to " ++ file, [], b⟩
  | .error e => return .failure b ("export failed: " ++ e.message) []

/-- Takes over the texts of a table.  No saved sheet holds them yet. -/
def replyToImport (b : Workbook) (file : String) : FileTask Reply := do
  match ← Storage.importTable file with
  | .ok sheet =>
      let (report, b) := b.replaceSheet sheet none
      return ⟨"imported " ++ file, report.journal, { b with dirty := true }⟩
  | .error e => return .failure b ("import failed: " ++ e.message) []

/-! ## Commands -/

/-- Does what a command asks for. -/
def execute (b : Workbook) : Command → FileTask Reply
  | .set cell text => return b.replyToSet cell text
  | .get cell => return b.replyToGet cell
  | .display => return ⟨b.sheet.display, [], b⟩
  | .recalculate => return b.replyToRecalculate
  | .addRow => return b.replyToResize b.addRow
  | .addColumn => return b.replyToResize b.addColumn
  | .deleteRow => return b.replyToResize b.deleteRow
  | .deleteColumn => return b.replyToResize b.deleteColumn
  | .newSheet => return ⟨"new sheet", [], b.newSheet⟩
  | .save file => b.replyToSave file
  | .load file => b.replyToLoad file
  | .exportTable file => b.replyToExport file
  | .importTable file => b.replyToImport file
  | .help => return ⟨Help.text, [], b⟩
  | .quit => return ⟨if b.dirty then "unsaved changes discarded" else "", [], b⟩

end Workbook

end Spreadsheet
