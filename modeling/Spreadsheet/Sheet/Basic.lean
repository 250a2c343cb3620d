import Spreadsheet.Sheet.Cell

/-!
# Sheet/Basic — the grid of cells

A sheet stores its cells under their ids and keeps a grid of ids, row by row.  A cell is reached by
its id, by its position, or by its name; `Consistent` says that the three agree.  Names are computed
from positions, and ids are counted without end.  The tables that store names and indices, and count
ids in 32 bits, are those of a `Registry`; they store a sheet as long as the counter has not started
over (`Registry.Represents`).
-/

namespace Spreadsheet

/-- Why a sheet refuses a request. -/
inductive SheetError where
  | invalidReference (name : String)
  | unknownCell (name : String)
  | lastRow
  | lastColumn
  | rowOutOfRange (row : Nat)
  | columnOutOfRange (col : Nat)
deriving DecidableEq, Repr

namespace SheetError

def message : SheetError → String
  | invalidReference name => "Invalid cell reference: " ++ name
  | unknownCell name => "Unknown cell: " ++ name
  | lastRow => "Cannot delete the last row"
  | lastColumn => "Cannot delete the last column"
  | rowOutOfRange row => "Row " ++ toString row ++ " is out of range"
  | columnOutOfRange col => "Column " ++ toString col ++ " is out of range"

end SheetError

/-- A sheet.  The cell with a given id stands in the slot of that number, and the slot of a deleted
cell stays empty; the number of slots is the next id. -/
structure Sheet where
  slots : Array (Option Cell)
  grid : Array (Array CellId)
deriving DecidableEq, Repr, Inhabited

namespace Sheet

/-! ## Reading -/

/-- The number of rows. -/
def rows (s : Sheet) : Nat := s.grid.size

/-- The number of columns. -/
def cols (s : Sheet) : Nat := (s.grid[0]?.getD #[]).size

/-- The next id to be issued. -/
def nextId (s : Sheet) : CellId := ⟨s.slots.size⟩

/-- The cell with an id, unless it was deleted or never existed. -/
def cell? (s : Sheet) (id : CellId) : Option Cell := s.slots[id.index]?.join

/-- Whether there is a cell with this id. -/
def isLive (s : Sheet) (id : CellId) : Bool := (s.cell? id).isSome

/-- The id at a position. -/
def idAt (s : Sheet) (p : Position) : Option CellId := (s.grid[p.row]?).bind (·[p.col]?)

/-- The cell at a position. -/
def cellAt (s : Sheet) (p : Position) : Option Cell := (s.idAt p).bind s.cell?

/-- The ids of all cells, row by row. -/
def ids (s : Sheet) : List CellId := s.grid.toList.flatMap Array.toList

/-- The number of cells. -/
def size (s : Sheet) : Nat := s.slots.countP Option.isSome

/-- The id of the cell with a name.  Letters may be written in either case, and the rest of the name
as the cell spells it: a row number with leading zeros names nothing. -/
def lookup (s : Sheet) (name : String) : Option CellId :=
  match Position.ofName? name with
  | some p => if p.name = canonicalName name then s.idAt p else none
  | none => none

/-- The cell with a name. -/
def cellNamed? (s : Sheet) (name : String) : Option Cell := (s.lookup name).bind s.cell?

/-- The id a name stands for, or why it stands for none. -/
def resolve (s : Sheet) (name : String) : Except SheetError CellId :=
  match Position.ofName? name with
  | none => .error (.invalidReference name)
  | some _ =>
      match s.lookup name with
      | some id => .ok id
      | none => .error (.unknownCell name)

/-- The name of a cell, or its id when it has none any more. -/
def nameOf (s : Sheet) (id : CellId) : String :=
  match s.cell? id with
  | some c => c.name
  | none => id.label

/-- The value a cell shows; empty where there is no cell. -/
def valueOf (s : Sheet) (id : CellId) : String :=
  match s.cell? id with
  | some c => c.value
  | none => ""

/-- The recorded dependents of a cell; none where there is no cell. -/
def dependentsOf (s : Sheet) (id : CellId) : List CellId :=
  match s.cell? id with
  | some c => c.dependents
  | none => []

/-! ## A new sheet -/

/-- A sheet of empty cells, at least one row high and one column wide; ids are issued row by row. -/
def blank (rows cols : Nat) : Sheet :=
  let rows := max rows 1
  let cols := max cols 1
  { slots := (Array.range (rows * cols)).map fun i =>
      some (Cell.blank ⟨i⟩ ⟨i / cols, i % cols⟩)
    grid := (Array.range rows).map fun row =>
      (Array.range cols).map fun col => ⟨row * cols + col⟩ }

/-! ## Changing cells

Changes to cells leave the grid as it is and no slot changes between empty and full. -/

/-- Changes the cell with an id; nothing happens where there is none. -/
def modifyCell (s : Sheet) (id : CellId) (f : Cell → Cell) : Sheet :=
  { s with slots := s.slots.modify id.index (Option.map f) }

/-- Changes every cell. -/
def mapCells (s : Sheet) (f : Cell → Cell) : Sheet :=
  { s with slots := s.slots.map (Option.map f) }

/-- Enters a text.  The value shown stays until the cell is evaluated. -/
def setText (s : Sheet) (id : CellId) (text : String) : Except SheetError Sheet :=
  if s.isLive id then .ok (s.modifyCell id fun c => { c with text })
  else .error (.unknownCell id.label)

/-- Stores the value a cell shows. -/
def setValue (s : Sheet) (id : CellId) (value : String) : Sheet :=
  s.modifyCell id fun c => { c with value }

/-- Whether a cell exists that does not have this dependent yet. -/
def acceptsDependent (s : Sheet) (source dependent : CellId) : Bool :=
  (s.cell? source).any fun c => dependent ∉ c.dependents

/-- Records that the formula of one cell refers to another. -/
def addDependent (s : Sheet) (source dependent : CellId) : Sheet :=
  s.modifyCell source (Cell.addDependent dependent)

/-- Forgets a dependent in every cell. -/
def removeDependent (s : Sheet) (dependent : CellId) : Sheet :=
  s.mapCells (Cell.removeDependent dependent)

/-- Forgets every dependent. -/
def clearDependents (s : Sheet) : Sheet :=
  s.mapCells fun c => { c with dependents := [] }

/-! ## What a change does to a cell -/

theorem cell?_modifyCell (s : Sheet) (id : CellId) (f : Cell → Cell) (j : CellId) :
    (s.modifyCell id f).cell? j = if j = id then (s.cell? j).map f else s.cell? j := by
  unfold cell? modifyCell
  rw [Array.getElem?_modify]
  by_cases h : j = id
  · subst h
    cases s.slots[j.index]? with
    | none => simp
    | some slot => cases slot <;> simp
  · have : id.index ≠ j.index := fun e => h (by cases id; cases j; simp_all)
    simp [h, this]

theorem cell?_mapCells (s : Sheet) (f : Cell → Cell) (j : CellId) :
    (s.mapCells f).cell? j = (s.cell? j).map f := by
  unfold cell? mapCells
  rw [Array.getElem?_map]
  cases s.slots[j.index]? with
  | none => simp
  | some slot => cases slot <;> simp

@[simp] theorem grid_modifyCell (s : Sheet) (id : CellId) (f : Cell → Cell) :
    (s.modifyCell id f).grid = s.grid := rfl

@[simp] theorem grid_mapCells (s : Sheet) (f : Cell → Cell) : (s.mapCells f).grid = s.grid := rfl

theorem isLive_modifyCell (s : Sheet) (id : CellId) (f : Cell → Cell) (j : CellId) :
    (s.modifyCell id f).isLive j = s.isLive j := by
  unfold isLive
  rw [cell?_modifyCell]
  split <;> simp

@[simp] theorem size_slots_modifyCell (s : Sheet) (id : CellId) (f : Cell → Cell) :
    (s.modifyCell id f).slots.size = s.slots.size := by simp [modifyCell]

@[simp] theorem size_slots_mapCells (s : Sheet) (f : Cell → Cell) :
    (s.mapCells f).slots.size = s.slots.size := by simp [mapCells]

/-! ## Consistency -/

/-- **The grid is a rectangle of live cells, each at its own position** — every row is as wide as
the first, a position has an id exactly when a cell stands there, and a cell is stored under its
id. -/
structure Consistent (s : Sheet) : Prop where
  rows_pos : 0 < s.rows
  cols_pos : 0 < s.cols
  width : ∀ row ∈ s.grid, row.size = s.cols
  idAt_iff : ∀ p id, s.idAt p = some id ↔ ∃ c, s.cell? id = some c ∧ c.position = p
  id_eq : ∀ id c, s.cell? id = some c → c.id = id

end Sheet

end Spreadsheet
