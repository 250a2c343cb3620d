import Spreadsheet.Position

/-!
# Sheet/Cell — one cell and its identity

A cell is known by its id for as long as it lives; its position, and with it its name, shift when
rows and columns are inserted or deleted.  Ids are counted without end here; `Registry` keeps them in
a counter of 32 bits.
-/

namespace Spreadsheet

/-- The identity of a cell.  A sheet issues ids in ascending order and never twice. -/
structure CellId where
  index : Nat
deriving DecidableEq, Repr, Inhabited

namespace CellId

/-- How an id is shown where its cell has no name any more. -/
def label (id : CellId) : String := "#" ++ toString id.index

instance : Ord CellId := ⟨fun a b => compare a.index b.index⟩

instance : Std.TransOrd CellId where
  eq_swap {a b} := Std.OrientedOrd.eq_swap (a := a.index) (b := b.index)
  isLE_trans {a b c} h h' :=
    Std.TransOrd.isLE_trans (a := a.index) (b := b.index) (c := c.index) h h'

instance : Std.LawfulEqOrd CellId where
  eq_of_compare {a b} h := by
    have : a.index = b.index := Nat.compare_eq_eq.mp h
    cases a; cases b; simp_all

end CellId

/-- A cell: the text entered, the value last shown, and the cells whose formulas refer to it, in
the order in which they were found. -/
structure Cell where
  id : CellId
  position : Position
  text : String
  value : String
  dependents : List CellId
deriving DecidableEq, Repr, Inhabited

namespace Cell

/-- A cell without text. -/
def blank (id : CellId) (position : Position) : Cell := ⟨id, position, "", "", []⟩

/-- The name of the position of a cell. -/
def name (c : Cell) : String := c.position.name

/-- Whether anything was entered. -/
def hasText (c : Cell) : Bool := c.text != ""

/-- Records a dependent unless it is recorded already. -/
def addDependent (id : CellId) (c : Cell) : Cell :=
  if id ∈ c.dependents then c else { c with dependents := c.dependents ++ [id] }

/-- Forgets a dependent. -/
def removeDependent (id : CellId) (c : Cell) : Cell :=
  { c with dependents := c.dependents.filter (· ≠ id) }

end Cell

end Spreadsheet
