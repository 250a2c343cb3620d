import Mathlib.Data.List.Nodup
import Spreadsheet.Proofs.Sheet.Consistent
import Spreadsheet.Proofs.Sheet.Names

/-!
# Proofs/Sheet/Indices — a consistent sheet is indexed by position, by id and by name

The positions of a consistent grid and the ids of its cells correspond one to one, so the list of
ids, row by row, holds each of them once (`Consistent.nodup_ids`), and there are as many cells as
positions (`Consistent.size_eq`).  As long as the ids fit their counter, no row or column is numbered
beyond what a name can denote, and the names of the positions are exactly the names that lead to a
cell (`Consistent.lookup_eq_some_iff`).
-/

namespace Spreadsheet

namespace Sheet

variable {s : Sheet} {id : CellId} {p q : Position}

/-! ## Positions -/

/-- The positions of a grid, row by row. -/
def positions (rows cols : Nat) : List Position :=
  (List.range rows).flatMap fun row => (List.range cols).map (Position.mk row)

theorem mem_positions_iff {rows cols : Nat} :
    p ∈ positions rows cols ↔ p.row < rows ∧ p.col < cols := by
  simp only [positions, List.mem_flatMap, List.mem_range, List.mem_map]
  constructor
  · rintro ⟨row, hrow, col, hcol, rfl⟩
    exact ⟨hrow, hcol⟩
  · rintro ⟨hrow, hcol⟩
    exact ⟨p.row, hrow, p.col, hcol, rfl⟩

theorem length_positions (rows cols : Nat) : (positions rows cols).length = rows * cols := by
  simp [positions, List.length_flatMap]

theorem nodup_positions (rows cols : Nat) : (positions rows cols).Nodup := by
  refine List.nodup_flatMap.mpr ⟨fun row _ => ?_, ?_⟩
  · exact List.nodup_range.map fun col col' h => (Position.mk.inj h).2
  · refine List.nodup_range.imp fun {row row'} hne p hp hp' => hne ?_
    obtain ⟨_, -, rfl⟩ := List.mem_map.mp hp
    obtain ⟨_, -, heq⟩ := List.mem_map.mp hp'
    exact (Position.mk.inj heq).1.symm

/-- **Exactly the positions of the grid have ids.** -/
theorem Consistent.idAt_isSome_iff (hs : s.Consistent) :
    (s.idAt p).isSome = true ↔ p.row < s.rows ∧ p.col < s.cols := by
  rw [idAt]
  cases hrow : s.grid[p.row]? with
  | none =>
    have : s.rows ≤ p.row := Array.getElem?_eq_none_iff.mp hrow
    simp only [Option.bind_none, Option.isSome_none, Bool.false_eq_true, false_iff]
    omega
  | some row =>
    have hlt : p.row < s.rows := (Array.getElem?_eq_some_iff.mp hrow).1
    have hwidth := hs.width row (Array.mem_of_getElem? hrow)
    rw [Option.bind_some, and_iff_right hlt, ← hwidth]
    simp

theorem Consistent.lt_of_idAt (hs : s.Consistent) (h : s.idAt p = some id) :
    p.row < s.rows ∧ p.col < s.cols := hs.idAt_isSome_iff.mp (by rw [h]; rfl)

/-- **A cell stands at one position only.** -/
theorem Consistent.idAt_injective (hs : s.Consistent) (hp : s.idAt p = some id)
    (hq : s.idAt q = some id) : p = q := by
  obtain ⟨c, hc, rfl⟩ := (hs.idAt_iff p id).mp hp
  obtain ⟨c', hc', rfl⟩ := (hs.idAt_iff q id).mp hq
  rw [Option.some.inj (hc.symm.trans hc')]

/-- **The cells and the shape of a sheet determine its grid.** -/
theorem Consistent.grid_eq {t : Sheet} (hs : s.Consistent) (ht : t.Consistent)
    (hrows : t.rows = s.rows) (hcols : t.cols = s.cols)
    (hcell : ∀ id, t.cell? id = s.cell? id) : t.grid = s.grid := by
  have hidAt : ∀ p, t.idAt p = s.idAt p := fun p =>
    Option.ext fun id => by rw [ht.idAt_iff, hs.idAt_iff, hcell]
  refine Array.ext hrows fun row hrow hrow' => ?_
  have hwidth : t.grid[row].size = t.cols := ht.width _ (Array.getElem_mem hrow)
  have hwidth' : s.grid[row].size = s.cols := hs.width _ (Array.getElem_mem hrow')
  refine Array.ext (by omega) fun col hcol hcol' => ?_
  simpa [idAt, hrow, hrow', hcol, hcol'] using hidAt ⟨row, col⟩

/-- The cell at a position carries its id and the name of the position. -/
theorem Consistent.cell?_of_idAt (hs : s.Consistent) (h : s.idAt p = some id) :
    ∃ c, s.cell? id = some c ∧ c.id = id ∧ c.name = p.name := by
  obtain ⟨c, hc, rfl⟩ := (hs.idAt_iff p id).mp h
  exact ⟨c, hc, hs.id_eq id c hc, rfl⟩

/-- The text at a position. -/
def textAt? (s : Sheet) (p : Position) : Option String := (s.cellAt p).map Cell.text

theorem Consistent.cellAt_isSome_iff (hs : s.Consistent) :
    (s.cellAt p).isSome = true ↔ p.row < s.rows ∧ p.col < s.cols := by
  rw [← hs.idAt_isSome_iff, cellAt]
  cases h : s.idAt p with
  | none => rfl
  | some id =>
    obtain ⟨c, hc, -⟩ := hs.cell?_of_idAt h
    simp [hc]

/-! ## Ids -/

theorem index_lt_of_isLive (h : s.isLive id = true) : id.index < s.slots.size := by
  obtain ⟨c, hc⟩ := isLive_iff.mp h
  exact index_lt_of_cell? hc

/-- One row of a consistent grid, read by position. -/
theorem Consistent.map_some_row (hs : s.Consistent) {row : Nat} (hrow : row < s.grid.size) :
    s.grid[row].toList.map some = (List.range s.cols).map fun col => s.idAt ⟨row, col⟩ := by
  have hwidth : s.grid[row].size = s.cols := hs.width _ (Array.getElem_mem hrow)
  refine List.ext_getElem (by simp [hwidth]) fun col hcol _ => ?_
  have hcol' : col < s.grid[row].size := by simpa using hcol
  simp [idAt, hrow, hcol']

/-- **The ids are listed row by row.** -/
theorem Consistent.map_some_ids (hs : s.Consistent) :
    s.ids.map some = (positions s.rows s.cols).map s.idAt := by
  have hgrid : s.grid.toList = (List.range s.rows).map fun row => s.grid[row]?.getD #[] := by
    refine List.ext_getElem (by simp [rows]) fun row hrow _ => ?_
    have hrow' : row < s.grid.size := by simpa using hrow
    simp [hrow']
  rw [ids, hgrid, positions, List.flatMap_map, List.map_flatMap, List.map_flatMap]
  refine List.flatMap_congr fun row hrow => ?_
  have hrow' : row < s.grid.size := List.mem_range.mp hrow
  rw [Array.getElem?_eq_getElem hrow', Option.getD_some, hs.map_some_row hrow', List.map_map]
  rfl

theorem Consistent.length_ids (hs : s.Consistent) : s.ids.length = s.rows * s.cols := by
  rw [← length_positions, ← List.length_map (f := some), hs.map_some_ids, List.length_map]

/-- **No id is listed twice.** -/
theorem Consistent.nodup_ids (hs : s.Consistent) : s.ids.Nodup := by
  refine List.Nodup.of_map some ?_
  rw [hs.map_some_ids]
  refine (nodup_positions s.rows s.cols).map_on fun p hp q _ hpq => ?_
  obtain ⟨id, hid⟩ := Option.isSome_iff_exists.mp (hs.idAt_isSome_iff.mpr (mem_positions_iff.mp hp))
  exact hs.idAt_injective hid (hpq ▸ hid)

/-! ## Counting the cells -/

/-- The slots, read by id. -/
theorem toList_slots (s : Sheet) :
    s.slots.toList = (List.range s.slots.size).map fun i => s.cell? ⟨i⟩ := by
  refine List.ext_getElem (by simp) fun i hi _ => ?_
  have hi' : i < s.slots.size := by simpa using hi
  simp [cell?, hi']

/-- The ids of all cells in ascending order. -/
def liveIds (s : Sheet) : List CellId :=
  ((List.range s.slots.size).map CellId.mk).filter s.isLive

theorem mem_liveIds_iff : id ∈ s.liveIds ↔ s.isLive id = true := by
  rw [liveIds, List.mem_filter]
  exact ⟨And.right, fun h => ⟨List.mem_map.mpr ⟨id.index,
    List.mem_range.mpr (index_lt_of_isLive h), rfl⟩, h⟩⟩

theorem nodup_liveIds (s : Sheet) : s.liveIds.Nodup :=
  (List.nodup_range.map fun _ _ h => congrArg CellId.index h).filter _

theorem length_liveIds (s : Sheet) : s.liveIds.length = s.size := by
  rw [liveIds, ← List.countP_eq_length_filter, List.countP_map, size, ← Array.countP_toList,
    toList_slots, List.countP_map]
  rfl

/-- **There are as many cells as positions.** -/
theorem Consistent.size_eq (hs : s.Consistent) : s.size = s.rows * s.cols := by
  have hperm : s.liveIds.Perm s.ids :=
    (List.perm_ext_iff_of_nodup s.nodup_liveIds hs.nodup_ids).mpr fun id =>
      mem_liveIds_iff.trans hs.mem_ids_iff.symm
  rw [← length_liveIds, hperm.length_eq, hs.length_ids]

theorem size_le_nextId (s : Sheet) : s.size ≤ s.nextId.index :=
  Array.countP_le_size

/-! ## Names -/

/-- The counter of ids has 32 bits: what it numbers is counted without running over. -/
def IdsFit (s : Sheet) : Prop := s.nextId.index < UInt32.size

/-- As there are fewer cells than ids, the positions of a grid have names that denote them. -/
theorem Consistent.inLimit (hs : s.Consistent) (hfit : s.IdsFit) (h : s.idAt p = some id) :
    p.InLimit := by
  obtain ⟨hrow, hcol⟩ := hs.lt_of_idAt h
  have hcells : s.rows * s.cols < UInt32.size :=
    Nat.lt_of_le_of_lt (hs.size_eq ▸ s.size_le_nextId) hfit
  have hrows : s.rows ≤ s.rows * s.cols := Nat.le_mul_of_pos_right _ hs.cols_pos
  have hcols : s.cols ≤ s.rows * s.cols := Nat.le_mul_of_pos_left _ hs.rows_pos
  have hlimits : UInt32.size < indexLimit := by decide
  exact ⟨by omega, by omega⟩

/-- **The names that lead to a cell are those of the positions**, in letters of either case. -/
theorem Consistent.lookup_eq_some_iff (hs : s.Consistent) (hfit : s.IdsFit) {name : String} :
    s.lookup name = some id ↔ ∃ p, s.idAt p = some id ∧ canonicalName name = p.name := by
  constructor
  · intro h
    rw [lookup] at h
    split at h
    · rename_i p hp
      split at h
      · rename_i hname
        exact ⟨p, h, hname.symm⟩
      · simp at h
    · simp at h
  · rintro ⟨p, hid, hname⟩
    rw [lookup, Position.ofName?_of_canonicalName_eq (hs.inLimit hfit hid) hname]
    dsimp only
    rw [if_pos hname.symm, hid]

end Sheet

end Spreadsheet
