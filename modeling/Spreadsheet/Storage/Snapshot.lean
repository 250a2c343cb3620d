import Spreadsheet.Json.Read
import Spreadsheet.Json.Write
import Spreadsheet.Sheet.Basic
import Spreadsheet.Storage.Error

/-!
# Storage/Snapshot — what is stored of a sheet

A snapshot holds the size of a sheet and its texts; values and dependents are found anew by
evaluation.  `capture` takes one of a sheet, `restore` builds a sheet from one, and a document
carries it in between.
-/

namespace Spreadsheet

/-- A text at a position. -/
structure StoredCell where
  row : Nat
  col : Nat
  text : String
deriving DecidableEq, Repr

/-- The size of a sheet and its texts. -/
structure Snapshot where
  rows : Nat
  cols : Nat
  cells : List StoredCell
deriving DecidableEq, Repr

namespace Snapshot

/-! ## Sheets -/

/-- What is stored of one row: the texts that are not empty, from left to right. -/
def captureRow (s : Sheet) (row : Nat) : List StoredCell :=
  (List.range s.cols).filterMap fun col =>
    match s.cellAt ⟨row, col⟩ with
    | some c => if c.hasText then some ⟨row, col, c.text⟩ else none
    | none => none

/-- Takes a snapshot of a sheet, row by row. -/
def capture (s : Sheet) : Snapshot :=
  ⟨s.rows, s.cols, (List.range s.rows).flatMap (captureRow s)⟩

/-- The size that holds the stored cells as well; a cell beyond the limit on either axis is refused,
its row first. -/
def extent : List StoredCell → Nat × Nat → Except StorageError (Nat × Nat)
  | [], size => .ok size
  | c :: cells, (rows, cols) =>
      if maxCells < c.row + 1 then .error (.rowOutOfRange c.row)
      else if maxCells < c.col + 1 then .error (.columnOutOfRange c.col)
      else extent cells (max rows (c.row + 1), max cols (c.col + 1))

/-- Enters a stored text into a sheet. -/
def enter (s : Sheet) (c : StoredCell) : Sheet :=
  match s.idAt ⟨c.row, c.col⟩ with
  | some id => s.modifyCell id fun cell => { cell with text := c.text }
  | none => s

/-- Builds a sheet large enough for every stored cell; of two texts at one position the later one
counts. -/
def restore (snapshot : Snapshot) : Except StorageError Sheet :=
  match extent snapshot.cells (snapshot.rows, snapshot.cols) with
  | .error e => .error e
  | .ok (rows, cols) =>
      if maxCells < max rows 1 * max cols 1 then .error (.tooLarge rows cols)
      else .ok (snapshot.cells.foldl enter (.blank rows cols))

/-! ## Documents -/

/-- A stored cell as a document. -/
def cellDocument (c : StoredCell) : Json :=
  .ofFields [("row", .ofCount c.row), ("col", .ofCount c.col), ("expression", .ofText c.text)]

/-- A snapshot as a document. -/
def document (snapshot : Snapshot) : Json :=
  .ofFields
    [("rows", .ofCount snapshot.rows), ("cols", .ofCount snapshot.cols),
      ("cells", .array (snapshot.cells.map cellDocument))]

/-- The stored cell of a document. -/
def cellOfDocument? (document : Json) : Option StoredCell := do
  match ← document.fields? ["row", "col", "expression"] with
  | [some row, some col, some text] => return ⟨← row.count?, ← col.count?, ← text.text?⟩
  | _ => none

/-- The snapshot of a document. -/
def ofDocument? (document : Json) : Option Snapshot := do
  match ← document.fields? ["rows", "cols", "cells"] with
  | [some rows, some cols, some cells] =>
      return ⟨← rows.count?, ← cols.count?, ← (← cells.items?).mapM cellOfDocument?⟩
  | _ => none

/-- A snapshot as the text of a file. -/
def write (snapshot : Snapshot) : String := snapshot.document.prettyText

/-- The snapshot in the text of a file. -/
def read (text : String) : Except StorageError Snapshot :=
  match (Json.read? text).bind ofDocument? with
  | some snapshot => .ok snapshot
  | none => .error .notDocument

end Snapshot

end Spreadsheet
