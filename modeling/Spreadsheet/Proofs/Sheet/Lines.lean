import Spreadsheet.Proofs.Sheet.Consistent

/-!
# Proofs/Sheet/Lines — what inserting or deleting a line does to cells and dependents

Rows and columns are treated alike: an `Axis` says what a line is, how long it is and how lines are
inserted and deleted.  Each edit moves the cells that have somewhere to go, removes the others
together with their entries in the lists of dependents, and adds empty cells under the next ids
(`Edits`).  Whatever follows from that alone is proved once for all of them.
-/

namespace Spreadsheet

namespace Sheet

variable {s t : Sheet} {move : Position → Option Position} {id j : CellId}

/-- The second sheet is the first with its cells moved and empty ones added. -/
structure Edits (s t : Sheet) (move : Position → Option Position) : Prop where
  moved : ∀ id, id.index < s.slots.size →
    t.cell? id = (s.cell? id).bind (relocateCell move (s.removes move))
  added : ∀ id c, s.slots.size ≤ id.index → t.cell? id = some c → ∃ p, c = Cell.blank id p
  size_le : s.slots.size ≤ t.slots.size

theorem edits_append_line (s : Sheet) (move : Position → Option Position)
    (grid : Array (Array CellId)) (length : Nat) (place : Nat → Position) :
    s.Edits (Sheet.mk (s.relocate move ++ (Array.range length).map fun k =>
      some (Cell.blank ⟨s.slots.size + k⟩ (place k))) grid) move where
  moved id hid := by rw [cell?_relocate_append, if_pos hid]
  added id c hid hc := by
    rcases cell?_relocate_line.mp hc with ⟨c', hc', -⟩ | hline
    · exact absurd (index_lt_of_cell? hc') (Nat.not_lt_of_le hid)
    · obtain ⟨k, -, -, rfl⟩ := lineCell?_eq_some_iff.mp hline
      exact ⟨place k, rfl⟩
  size_le := by simp [relocate]

theorem edits_relocate (s : Sheet) (move : Position → Option Position)
    (grid : Array (Array CellId)) : s.Edits ⟨s.relocate move, grid⟩ move := by
  have h := edits_append_line s move grid 0 fun _ => default
  rwa [show Array.range 0 = #[] from rfl, Array.map_empty, Array.append_empty] at h

/-! ## Ids and dependents -/

/-- **A cell that is there after an edit was there before, or has one of the next ids.** -/
theorem Edits.isLive_or_le (h : s.Edits t move) (hid : t.isLive id = true) :
    s.isLive id = true ∨ s.slots.size ≤ id.index := by
  rcases Nat.lt_or_ge id.index s.slots.size with hlt | hle
  · obtain ⟨c, hc⟩ := isLive_iff.mp hid
    rw [h.moved id hlt] at hc
    obtain ⟨c', hc', -⟩ := Option.bind_eq_some_iff.mp hc
    exact .inl (isLive_iff.mpr ⟨c', hc'⟩)
  · exact .inr hle

/-- A cell that the edit does not remove is there after it. -/
theorem Edits.isLive_of_not_removes (h : s.Edits t move) (hid : s.isLive id = true)
    (hkept : s.removes move id = false) : t.isLive id = true := by
  obtain ⟨c, hc⟩ := isLive_iff.mp hid
  rw [removes, hc, Option.any_some, Option.isNone_eq_false_iff] at hkept
  obtain ⟨p, hp⟩ := Option.isSome_iff_exists.mp hkept
  have hmoved := h.moved id (index_lt_of_cell? hc)
  rw [hc, Option.bind_some, relocateCell, hp] at hmoved
  exact isLive_iff.mpr ⟨_, hmoved⟩

/-- The dependents after an edit were listed before it, and are not removed by it. -/
theorem Edits.mem_dependentsOf (h : s.Edits t move) (hj : j ∈ t.dependentsOf id) :
    j ∈ s.dependentsOf id ∧ s.removes move j = false := by
  rw [dependentsOf] at hj
  cases hc : t.cell? id with
  | none => simp [hc] at hj
  | some c =>
    rw [hc] at hj
    rcases Nat.lt_or_ge id.index s.slots.size with hlt | hle
    · rw [h.moved id hlt] at hc
      obtain ⟨c', hc', hmoved⟩ := Option.bind_eq_some_iff.mp hc
      obtain ⟨p, -, rfl⟩ := relocateCell_eq_some_iff.mp hmoved
      obtain ⟨hj, hkept⟩ := List.mem_filter.mp hj
      exact ⟨by rwa [dependentsOf, hc'], by simpa using hkept⟩
    · obtain ⟨p, rfl⟩ := h.added id c hle hc
      simp [Cell.blank] at hj

/-- **No removed cell stays in a list of dependents.** -/
theorem Edits.isLive_of_mem_dependentsOf (h : s.Edits t move) (hj : j ∈ t.dependentsOf id)
    (hlive : s.isLive j = true) : t.isLive j = true :=
  h.isLive_of_not_removes hlive (h.mem_dependentsOf hj).2

/-! ## Rows and columns -/

/-- The direction in which lines are counted: a line is a row or a column. -/
inductive Axis where
  | row
  | column

namespace Axis

variable {axis : Axis} {line place : Nat} {p : Position}

/-- The line of a position. -/
def lineOf : Axis → Position → Nat
  | row, p => p.row
  | column, p => p.col

/-- The place of a position in its line. -/
def placeOf : Axis → Position → Nat
  | row, p => p.col
  | column, p => p.row

/-- A place in a line. -/
def position : Axis → Nat → Nat → Position
  | row, line, place => ⟨line, place⟩
  | column, line, place => ⟨place, line⟩

/-- The number of lines. -/
def count : Axis → Sheet → Nat
  | row, s => s.rows
  | column, s => s.cols

/-- The number of cells in a line. -/
def length : Axis → Sheet → Nat
  | row, s => s.cols
  | column, s => s.rows

@[simp] theorem lineOf_position : axis.lineOf (axis.position line place) = line := by
  cases axis <;> rfl

@[simp] theorem placeOf_position : axis.placeOf (axis.position line place) = place := by
  cases axis <;> rfl

@[simp] theorem position_lineOf : axis.position (axis.lineOf p) (axis.placeOf p) = p := by
  cases axis <;> rfl

/-- Moves the lines from `line` on one further. -/
def push (axis : Axis) (line : Nat) (p : Position) : Position :=
  if line ≤ axis.lineOf p then axis.position (axis.lineOf p + 1) (axis.placeOf p) else p

/-- Moves the lines behind `line` one back. -/
def pull (axis : Axis) (line : Nat) (p : Position) : Position :=
  if line < axis.lineOf p then axis.position (axis.lineOf p - 1) (axis.placeOf p) else p

/-- Drops a line and moves those behind it one back. -/
def drop (axis : Axis) (line : Nat) (p : Position) : Option Position :=
  if axis.lineOf p = line then none else some (axis.pull line p)

/-- No line is pushed to where the gap is. -/
theorem lineOf_push_ne : axis.lineOf (axis.push line p) ≠ line := by
  rw [push]
  split
  · rw [lineOf_position]
    omega
  · omega

/-- **Pulling undoes pushing.** -/
theorem pull_push : axis.pull line (axis.push line p) = p := by
  rw [push]
  split
  · rw [pull, lineOf_position, if_pos (by omega), placeOf_position, Nat.add_sub_cancel,
      position_lineOf]
  · rw [pull, if_neg (by omega)]

/-- **Pushing undoes pulling** outside the line that is dropped. -/
theorem push_pull (h : axis.lineOf p ≠ line) : axis.push line (axis.pull line p) = p := by
  rw [pull]
  split
  · rw [push, lineOf_position, if_pos (by omega), placeOf_position, Nat.sub_add_cancel (by omega),
      position_lineOf]
  · rw [push, if_neg (by omega)]

/-- No two positions are pushed to the same one. -/
theorem push_injective {q : Position} (h : axis.push line p = axis.push line q) : p = q := by
  have hp : axis.pull line (axis.push line p) = p := pull_push
  rw [← hp, h, pull_push]

theorem push_of_drop_eq_some {q : Position} (h : axis.drop line p = some q) :
    axis.push line q = p := by
  rw [drop] at h
  split at h
  · cases h
  · rename_i hne
    cases h
    exact push_pull hne

/-- Inserts an empty line before a line, or behind the last one. -/
def insert : Axis → Sheet → Nat → Except SheetError Sheet
  | row => insertRow
  | column => insertColumn

/-- Deletes a line; the last one stays. -/
def delete : Axis → Sheet → Nat → Except SheetError Sheet
  | row => deleteRow
  | column => deleteColumn

/-- The refusal of a line that is not there. -/
def outOfRange : Axis → Nat → SheetError
  | row => .rowOutOfRange
  | column => .columnOutOfRange

/-- The refusal to delete the last line. -/
def lastLine : Axis → SheetError
  | row => .lastRow
  | column => .lastColumn

/-! ## What an edit yields -/

theorem insert_eq_ok (h : axis.insert s line = .ok t) : line ≤ axis.count s ∧ ∃ grid,
    t = ⟨s.relocate (fun p => some (axis.push line p)) ++ (Array.range (axis.length s)).map fun k =>
      some (Cell.blank ⟨s.slots.size + k⟩ (axis.position line k)), grid⟩ := by
  cases axis
  · exact (insertRow_eq_ok_iff.mp h).imp_right fun h => ⟨_, h⟩
  · exact (insertColumn_eq_ok_iff.mp h).imp_right fun h => ⟨_, h⟩

theorem exists_insert (h : line ≤ axis.count s) : ∃ t, axis.insert s line = .ok t := by
  cases axis
  · exact ⟨_, insertRow_eq_ok_iff.mpr ⟨h, rfl⟩⟩
  · exact ⟨_, insertColumn_eq_ok_iff.mpr ⟨h, rfl⟩⟩

theorem delete_eq_ok (h : axis.delete s line = .ok t) : 1 < axis.count s ∧ line < axis.count s
    ∧ ∃ grid, t = ⟨s.relocate (axis.drop line), grid⟩ := by
  cases axis
  · exact (deleteRow_eq_ok_iff.mp h).imp_right (·.imp_right fun h => ⟨_, h⟩)
  · exact (deleteColumn_eq_ok_iff.mp h).imp_right (·.imp_right fun h => ⟨_, h⟩)

theorem exists_delete (htwo : 1 < axis.count s) (h : line < axis.count s) :
    ∃ t, axis.delete s line = .ok t := by
  cases axis
  · exact ⟨_, deleteRow_eq_ok_iff.mpr ⟨htwo, h, rfl⟩⟩
  · exact ⟨_, deleteColumn_eq_ok_iff.mpr ⟨htwo, h, rfl⟩⟩

theorem insert_of_lt (h : axis.count s < line) :
    axis.insert s line = .error (axis.outOfRange line) := by
  cases axis <;> exact if_pos h

theorem delete_of_le_one (h : axis.count s ≤ 1) : axis.delete s line = .error axis.lastLine := by
  cases axis <;> exact if_pos h

theorem delete_of_le (htwo : 1 < axis.count s) (h : axis.count s ≤ line) :
    axis.delete s line = .error (axis.outOfRange line) := by
  cases axis <;> exact (if_neg (Nat.not_le_of_gt htwo)).trans (if_pos h)

/-- The sheet stays a rectangle, with one line more. -/
theorem consistent_insert (hs : s.Consistent) (h : axis.insert s line = .ok t) :
    t.Consistent ∧ axis.count t = axis.count s + 1 ∧ axis.length t = axis.length s := by
  cases axis
  · have ht := hs.insertRow h
    obtain ⟨hrows, hwidth⟩ := hs.shape_insertRow h
    exact ⟨ht, hrows, cols_of_width ht.rows_pos hwidth⟩
  · have ht := hs.insertColumn h
    obtain ⟨hrows, hwidth⟩ := hs.shape_insertColumn h
    exact ⟨ht, cols_of_width ht.rows_pos hwidth, hrows⟩

/-- The sheet stays a rectangle, with one line less. -/
theorem consistent_delete (hs : s.Consistent) (h : axis.delete s line = .ok t) :
    t.Consistent ∧ axis.count t = axis.count s - 1 ∧ axis.length t = axis.length s := by
  cases axis
  · have ht := hs.deleteRow h
    obtain ⟨hrows, hwidth⟩ := hs.shape_deleteRow h
    exact ⟨ht, hrows, cols_of_width ht.rows_pos hwidth⟩
  · have ht := hs.deleteColumn h
    obtain ⟨hrows, hwidth⟩ := hs.shape_deleteColumn h
    exact ⟨ht, cols_of_width ht.rows_pos hwidth, hrows⟩

theorem edits_insert (h : axis.insert s line = .ok t) :
    s.Edits t fun p => some (axis.push line p) := by
  obtain ⟨-, grid, rfl⟩ := insert_eq_ok h
  exact edits_append_line s _ grid (axis.length s) (axis.position line)

theorem edits_delete (h : axis.delete s line = .ok t) : s.Edits t (axis.drop line) := by
  obtain ⟨-, -, grid, rfl⟩ := delete_eq_ok h
  exact edits_relocate s (axis.drop line) grid

end Axis

end Sheet

end Spreadsheet
