import Spreadsheet.Registry.Basic
import Spreadsheet.Sheet.Structure

/-!
# Registry/Structure — inserting and deleting rows and columns in the tables

An edit sends every position to a new one or to none.  The index by position is built anew from the
old one, cells that have nowhere to go are removed and taken off all lists of dependents, and then
every cell is renamed while the index by name is built anew.  Both indices are read in an order that
nothing determines; an edit is told which.
-/

namespace Spreadsheet

/-- An order in which the entries of an index are read: any rearrangement of them. -/
structure Arrangement where
  arrange : List (Position × CellId) → List (Position × CellId)
  perm : ∀ entries, (arrange entries).Perm entries

/-- The orders of the two loops of an edit. -/
structure Orders where
  /-- The order in which the old positions are sent to the new ones. -/
  moving : Arrangement
  /-- The order in which the cells are renamed. -/
  naming : Arrangement

namespace Registry

/-- The index by position after an edit. -/
def movedPositions (orders : Orders) (move : Position → Option Position) (r : Registry) :
    Std.HashMap Position CellId :=
  .ofList ((orders.moving.arrange r.positions.toList).filterMap fun entry =>
    (move entry.1).map (·, entry.2))

/-- The ids of the cells that have nowhere to go. -/
def unplacedIds (orders : Orders) (move : Position → Option Position) (r : Registry) :
    List CellId :=
  (orders.moving.arrange r.positions.toList).filterMap fun entry =>
    if (move entry.1).isNone then some entry.2 else none

/-- Removes a cell. -/
def discard (r : Registry) (id : CellId) : Registry := { r with cells := r.cells.erase id }

/-- Names a cell after its position, and enters the name. -/
def rename (r : Registry) (entry : Position × CellId) : Registry :=
  { r with
    cells := r.cells.modify entry.2 fun e => { e with name := entry.1.name }
    names := r.names.insert entry.1.name entry.2 }

/-- Sends every cell to its new position, and removes the cells that have none. -/
def remap (orders : Orders) (move : Position → Option Position) (r : Registry) : Registry :=
  let positions := r.movedPositions orders move
  let removed := r.unplacedIds orders move
  let r := removed.foldl discard r
  let r := removed.foldl removeDependent r
  let r := (orders.naming.arrange positions.toList).foldl rename { r with names := ∅ }
  { r with positions }

/-- Inserts an empty row before a row, or below the last one. -/
def insertRow (orders : Orders) (r : Registry) (row : Nat) : Except SheetError Registry :=
  if r.rows < row then .error (.rowOutOfRange row)
  else .ok ({ r.remap orders (Sheet.pushRow row) with rows := r.rows + 1 }.materializeAll
    ((List.range r.cols).map fun col => ⟨row, col⟩))

/-- Inserts an empty column before a column, or behind the last one. -/
def insertColumn (orders : Orders) (r : Registry) (col : Nat) : Except SheetError Registry :=
  if r.cols < col then .error (.columnOutOfRange col)
  else .ok ({ r.remap orders (Sheet.pushColumn col) with cols := r.cols + 1 }.materializeAll
    ((List.range r.rows).map fun row => ⟨row, col⟩))

/-- Deletes a row; the last one stays. -/
def deleteRow (orders : Orders) (r : Registry) (row : Nat) : Except SheetError Registry :=
  if r.rows ≤ 1 then .error .lastRow
  else if r.rows ≤ row then .error (.rowOutOfRange row)
  else .ok { r.remap orders (Sheet.dropRow row) with rows := r.rows - 1 }

/-- Deletes a column; the last one stays. -/
def deleteColumn (orders : Orders) (r : Registry) (col : Nat) : Except SheetError Registry :=
  if r.cols ≤ 1 then .error .lastColumn
  else if r.cols ≤ col then .error (.columnOutOfRange col)
  else .ok { r.remap orders (Sheet.dropColumn col) with cols := r.cols - 1 }

end Registry

end Spreadsheet
