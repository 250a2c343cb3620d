import Spreadsheet.Recalculation.Bulk
import Spreadsheet.Registry.Basic

/-!
# Registry/Presented — evaluating the cells of a registry

Evaluation finds cells by name and reads their texts and values; all it changes are values and lists
of dependents.  So it runs on the sheet that a registry presents, and what it changed there is
written back into the cells.
-/

namespace Spreadsheet

/-- A cell by its position, which its name tells. -/
def Entry.toCell (e : Entry) : Cell :=
  ⟨e.id, (Position.ofName? e.name).getD default, e.text, e.value, e.dependents⟩

namespace Registry

/-- A number above those of all ids. -/
def idBound (r : Registry) : Nat :=
  r.cells.keys.foldl (fun bound id => max bound (id.index + 1)) r.nextId.toNat

/-- The sheet a registry presents. -/
def sheet (r : Registry) : Sheet where
  slots := (Array.range r.idBound).map fun i => (r.cell? ⟨i⟩).map Entry.toCell
  grid := (Array.range r.rows).map fun row =>
    (Array.range r.cols).map fun col => (r.idAt ⟨row, col⟩).getD default

/-- Takes over the values and the dependents of a sheet. -/
def adopt (r : Registry) (s : Sheet) : Registry :=
  r.mapCells fun id e => { e with value := s.valueOf id, dependents := s.dependentsOf id }

/-- Evaluates a cell and records the references met on the way. -/
def evaluate (r : Registry) (id : CellId) : Except EvalError Evaluated × Registry :=
  let (result, s) := r.sheet.evaluate id
  (result, r.adopt s)

/-- Evaluates a cell and stores what it shows. -/
def refresh (r : Registry) (config : Config) (id : CellId) : Verdict × Registry :=
  let (verdict, s) := r.sheet.refresh config id
  (verdict, r.adopt s)

/-- Evaluates a cell with its references found anew, and everything that depends on it. -/
def commit (r : Registry) (config : Config) (id : CellId) : CommitReport × Registry :=
  let (report, s) := r.sheet.commit config id
  (report, r.adopt s)

/-- Evaluates every cell, row by row. -/
def recalculate (r : Registry) (config : Config) : Recalculation × Registry :=
  let (report, s) := r.sheet.recalculate config
  (report, r.adopt s)

end Registry

end Spreadsheet
