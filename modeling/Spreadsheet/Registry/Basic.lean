import Std.Data.HashMap
import Spreadsheet.Sheet.Basic

/-!
# Registry/Basic — the tables a sheet is stored in

A registry keeps the cells of a sheet under their ids, and two indices that find the id of a cell by
its position and by its name; each cell carries its name as well.  The ids come from a counter of 32
bits, which starts over once it has run through.  Until then a registry represents a `Sheet`, whose
ids are counted without end.

Tables keep no order of their own.
-/

namespace Spreadsheet

instance : Hashable CellId := ⟨fun id => hash id.index⟩

instance : Hashable Position := ⟨fun p => mixHash (hash p.row) (hash p.col)⟩

/-- Whether a position comes no later than another, row by row. -/
def Position.precedes (p q : Position) : Bool :=
  p.row < q.row || p.row == q.row && p.col ≤ q.col

/-- A cell as it is stored: with its name. -/
structure Entry where
  id : CellId
  name : String
  text : String
  value : String
  dependents : List CellId
deriving DecidableEq, Repr, Inhabited

namespace Entry

/-- A cell without text. -/
def blank (id : CellId) (name : String) : Entry := ⟨id, name, "", "", []⟩

/-- Records a dependent unless it is recorded already. -/
def addDependent (id : CellId) (e : Entry) : Entry :=
  if id ∈ e.dependents then e else { e with dependents := e.dependents ++ [id] }

/-- Forgets a dependent. -/
def removeDependent (id : CellId) (e : Entry) : Entry :=
  { e with dependents := e.dependents.filter (· ≠ id) }

end Entry

/-- The cells of a sheet and their indices. -/
structure Registry where
  cells : Std.HashMap CellId Entry
  positions : Std.HashMap Position CellId
  names : Std.HashMap String CellId
  rows : Nat
  cols : Nat
  /-- The number of the next id. -/
  nextId : UInt32

namespace Registry

/-! ## Reading -/

/-- The id at a position. -/
def idAt (r : Registry) (p : Position) : Option CellId := r.positions[p]?

/-- The cell with an id. -/
def cell? (r : Registry) (id : CellId) : Option Entry := r.cells[id]?

/-- Whether there is a cell with this id. -/
def isLive (r : Registry) (id : CellId) : Bool := (r.cell? id).isSome

/-- The number of cells. -/
def size (r : Registry) : Nat := r.cells.size

/-- The ids at all positions, row by row. -/
def ids (r : Registry) : List CellId :=
  (r.positions.toList.mergeSort fun a b => a.1.precedes b.1).map Prod.snd

/-- The id of the cell with a name; letters may be written in either case. -/
def lookup (r : Registry) (name : String) : Option CellId := r.names[canonicalName name]?

/-- The id a name stands for, or why it stands for none. -/
def resolve (r : Registry) (name : String) : Except SheetError CellId :=
  match Position.ofName? name with
  | none => .error (.invalidReference name)
  | some _ =>
      match r.lookup name with
      | some id => .ok id
      | none => .error (.unknownCell name)

/-- The value a cell shows; empty where there is no cell. -/
def valueOf (r : Registry) (id : CellId) : String :=
  match r.cell? id with
  | some e => e.value
  | none => ""

/-- The recorded dependents of a cell; none where there is no cell. -/
def dependentsOf (r : Registry) (id : CellId) : List CellId :=
  match r.cell? id with
  | some e => e.dependents
  | none => []

/-! ## New cells -/

/-- The id that is issued after so many others. -/
def idAfter (r : Registry) (issued : Nat) : CellId := ⟨(r.nextId + UInt32.ofNat issued).toNat⟩

/-- Creates an empty cell at a position and enters it into all tables.  What was entered before
under its id, its position or its name is lost. -/
def materialize (r : Registry) (p : Position) : Registry :=
  let id : CellId := ⟨r.nextId.toNat⟩
  { r with
    nextId := r.nextId + 1
    names := r.names.insert p.name id
    positions := r.positions.insert p id
    cells := r.cells.insert id (.blank id p.name) }

/-- Creates empty cells at the listed positions, in turn. -/
def materializeAll (r : Registry) (line : List Position) : Registry := line.foldl materialize r

/-- A registry of empty cells, at least one row high and one column wide; ids are issued row by
row. -/
def blank (rows cols : Nat) : Registry :=
  let rows := max rows 1
  let cols := max cols 1
  (List.range rows).foldl (fun r row => r.materializeAll ((List.range cols).map (Position.mk row)))
    { cells := ∅, positions := ∅, names := ∅, rows, cols, nextId := 0 }

/-! ## Changing cells -/

/-- Changes the cell with an id; nothing happens where there is none. -/
def modifyCell (r : Registry) (id : CellId) (f : Entry → Entry) : Registry :=
  { r with cells := r.cells.modify id f }

/-- Changes every cell. -/
def mapCells (r : Registry) (f : CellId → Entry → Entry) : Registry :=
  { r with cells := r.cells.map f }

/-- Enters a text.  The value shown stays until the cell is evaluated. -/
def setText (r : Registry) (id : CellId) (text : String) : Except SheetError Registry :=
  if r.isLive id then .ok (r.modifyCell id fun e => { e with text })
  else .error (.unknownCell id.label)

/-- Stores the value a cell shows. -/
def setValue (r : Registry) (id : CellId) (value : String) : Registry :=
  r.modifyCell id fun e => { e with value }

/-- Records that the formula of one cell refers to another. -/
def addDependent (r : Registry) (source dependent : CellId) : Registry :=
  r.modifyCell source (Entry.addDependent dependent)

/-- Forgets a dependent in every cell. -/
def removeDependent (r : Registry) (dependent : CellId) : Registry :=
  r.mapCells fun _ => Entry.removeDependent dependent

end Registry

end Spreadsheet
