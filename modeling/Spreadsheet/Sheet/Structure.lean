import Spreadsheet.Sheet.Basic

/-!
# Sheet/Structure — inserting and deleting rows and columns

An edit moves every cell to a new position or removes it; a removed cell also disappears from the
lists of dependents.  New cells are empty and get the next ids, a row from left to right and a
column from top to bottom.  `Registry.remap` is the same edit as a loop over the tables.
-/

namespace Spreadsheet

namespace Sheet

/-- Whether an edit removes a cell. -/
def removes (s : Sheet) (move : Position → Option Position) (id : CellId) : Bool :=
  (s.cell? id).any fun c => (move c.position).isNone

/-- A cell after an edit that moves positions and removes the given cells. -/
def relocateCell (move : Position → Option Position) (removed : CellId → Bool) (c : Cell) :
    Option Cell :=
  (move c.position).map fun position =>
    { c with position, dependents := c.dependents.filter (!removed ·) }

/-- The cells after an edit: each moves as its position does, and the cells whose position has no
new one are removed. -/
def relocate (s : Sheet) (move : Position → Option Position) : Array (Option Cell) :=
  s.slots.map fun slot => slot.bind (relocateCell move (s.removes move))

/-- Moves the rows from `row` on one down. -/
def pushRow (row : Nat) (p : Position) : Option Position :=
  some (if row ≤ p.row then ⟨p.row + 1, p.col⟩ else p)

/-- Moves the columns from `col` on one to the right. -/
def pushColumn (col : Nat) (p : Position) : Option Position :=
  some (if col ≤ p.col then ⟨p.row, p.col + 1⟩ else p)

/-- Drops a row and moves the rows below it up. -/
def dropRow (row : Nat) (p : Position) : Option Position :=
  if p.row = row then none else some (if row < p.row then ⟨p.row - 1, p.col⟩ else p)

/-- Drops a column and moves the columns behind it to the left. -/
def dropColumn (col : Nat) (p : Position) : Option Position :=
  if p.col = col then none else some (if col < p.col then ⟨p.row, p.col - 1⟩ else p)

/-- Inserts an empty row before a row, or below the last one. -/
def insertRow (s : Sheet) (row : Nat) : Except SheetError Sheet :=
  if s.rows < row then .error (.rowOutOfRange row)
  else
    let next := s.slots.size
    .ok
      { slots := s.relocate (pushRow row) ++
          (Array.range s.cols).map fun col => some (Cell.blank ⟨next + col⟩ ⟨row, col⟩)
        grid := s.grid.insertIdxIfInBounds row
          ((Array.range s.cols).map fun col => ⟨next + col⟩) }

/-- Inserts an empty column before a column, or behind the last one. -/
def insertColumn (s : Sheet) (col : Nat) : Except SheetError Sheet :=
  if s.cols < col then .error (.columnOutOfRange col)
  else
    let next := s.slots.size
    .ok
      { slots := s.relocate (pushColumn col) ++
          (Array.range s.rows).map fun row => some (Cell.blank ⟨next + row⟩ ⟨row, col⟩)
        grid := s.grid.mapIdx fun row ids => ids.insertIdxIfInBounds col ⟨next + row⟩ }

/-- Deletes a row; the last one stays. -/
def deleteRow (s : Sheet) (row : Nat) : Except SheetError Sheet :=
  if s.rows ≤ 1 then .error .lastRow
  else if s.rows ≤ row then .error (.rowOutOfRange row)
  else .ok { slots := s.relocate (dropRow row), grid := s.grid.eraseIdxIfInBounds row }

/-- Deletes a column; the last one stays. -/
def deleteColumn (s : Sheet) (col : Nat) : Except SheetError Sheet :=
  if s.cols ≤ 1 then .error .lastColumn
  else if s.cols ≤ col then .error (.columnOutOfRange col)
  else .ok
    { slots := s.relocate (dropColumn col), grid := s.grid.map (·.eraseIdxIfInBounds col) }

end Sheet

end Spreadsheet
