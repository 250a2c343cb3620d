import Mathlib.Data.List.Perm.Subperm
import Mathlib.Data.Option.Basic
import Spreadsheet.Proofs.Evaluation.Stored
import Spreadsheet.Proofs.Sheet.Indices
import Spreadsheet.Registry.Presented

/-!
# Proofs/Registry/Represented — a registry whose tables agree stores a sheet

As long as the counter of ids has not started over, a registry stores a consistent sheet: every look
at a table answers what the sheet computes (`Represents`).  The sheet is then the one the registry
presents (`Represents.sheet_eq`), and that its tables agree with each other (`Indexed`) is all it
takes for a registry to store one (`Indexed.represents`).
-/

namespace Spreadsheet

/-- A cell as it is stored. -/
def Entry.ofCell (c : Cell) : Entry := ⟨c.id, c.name, c.text, c.value, c.dependents⟩

theorem Entry.toCell_ofCell {c : Cell} (h : c.position.InLimit) : (ofCell c).toCell = c := by
  rw [toCell, ofCell, Cell.name, Position.ofName?_name h]
  rfl

namespace Position

variable {p q : Position}

theorem precedes_iff : p.precedes q = true ↔ p.row < q.row ∨ p.row = q.row ∧ p.col ≤ q.col := by
  simp [precedes]

theorem precedes_antisymm (h : p.precedes q = true) (h' : q.precedes p = true) : p = q := by
  rw [precedes_iff] at h h'
  obtain ⟨row, col⟩ := p
  obtain ⟨row', col'⟩ := q
  simp only [mk.injEq] at *
  omega

end Position

/-- Positions are listed row by row. -/
theorem Sheet.pairwise_positions (rows cols : Nat) :
    (positions rows cols).Pairwise fun p q => p.precedes q = true := by
  refine List.pairwise_flatMap.mpr ⟨fun row _ => List.pairwise_map.mpr ?_, ?_⟩
  · refine List.pairwise_lt_range.imp fun h => ?_
    exact Position.precedes_iff.mpr (.inr ⟨rfl, Nat.le_of_lt h⟩)
  · refine List.pairwise_lt_range.imp fun h p hp q hq => ?_
    obtain ⟨_, -, rfl⟩ := List.mem_map.mp hp
    obtain ⟨_, -, rfl⟩ := List.mem_map.mp hq
    exact Position.precedes_iff.mpr (.inl h)

namespace Registry

variable {r : Registry} {s t : Sheet} {id : CellId} {p : Position}

/-! ## What the tables say of each other -/

/-- The names are those of the positions, and lead to the same ids. -/
def NamesFollow (r : Registry) : Prop :=
  ∀ name id, r.names[name]? = some id ↔ ∃ p, r.idAt p = some id ∧ p.name = name

/-- **What the tables of a registry say of each other.** -/
structure Indexed (r : Registry) : Prop where
  one_le_rows : 1 ≤ r.rows
  one_le_cols : 1 ≤ r.cols
  /-- Exactly the positions of the grid have ids. -/
  idAt_isSome : ∀ p, (r.idAt p).isSome = true ↔ p.row < r.rows ∧ p.col < r.cols
  idAt_injective : ∀ p q id, r.idAt p = some id → r.idAt q = some id → p = q
  /-- The ids in the grid are those of the cells. -/
  isLive_iff : ∀ id, r.isLive id = true ↔ ∃ p, r.idAt p = some id
  /-- A cell carries its id and the name of its position. -/
  cell_at : ∀ p id, r.idAt p = some id → ∃ e, r.cell? id = some e ∧ e.id = id ∧ e.name = p.name
  names_follow : r.NamesFollow
  size_eq : r.size = r.rows * r.cols
  index_lt : ∀ id, r.isLive id = true → id.index < r.nextId.toNat
  /-- The ids are listed row by row, and each once. -/
  map_some_ids : r.ids.map some = (Sheet.positions r.rows r.cols).map r.idAt
  nodup_ids : r.ids.Nodup
  mem_ids_iff : ∀ id, id ∈ r.ids ↔ r.isLive id = true

/-- **The tables of a registry store a sheet.** -/
structure Represents (r : Registry) (s : Sheet) : Prop where
  consistent : s.Consistent
  rows_eq : r.rows = s.rows
  cols_eq : r.cols = s.cols
  /-- The counter has not started over. -/
  nextId_eq : r.nextId.toNat = s.nextId.index
  cell?_eq : ∀ id, r.cell? id = (s.cell? id).map Entry.ofCell
  idAt_eq : ∀ p, r.idAt p = s.idAt p
  names_follow : r.NamesFollow

theorem isLive_iff : r.isLive id = true ↔ ∃ e, r.cell? id = some e := Option.isSome_iff_exists

theorem mem_keys_iff : id ∈ r.cells.keys ↔ r.isLive id = true := by
  rw [Std.HashMap.mem_keys, isLive, cell?, Std.HashMap.isSome_getElem?_iff_mem]

theorem nodup_keys_cells (r : Registry) : r.cells.keys.Nodup := r.cells.nodup_keys

theorem mem_positions_toList_iff : (p, id) ∈ r.positions.toList ↔ r.idAt p = some id :=
  Std.HashMap.mem_toList_iff_getElem?_eq_some

/-- **The ids are listed row by row**, in whatever order the table is read. -/
theorem map_some_ids_of_idAt_isSome {rows cols : Nat}
    (h : ∀ p, (r.idAt p).isSome = true ↔ p.row < rows ∧ p.col < cols) :
    r.ids.map some = (Sheet.positions rows cols).map r.idAt := by
  have hperm := List.mergeSort_perm r.positions.toList fun a b => a.1.precedes b.1
  have hkeys : (r.positions.toList.mergeSort fun a b => a.1.precedes b.1).map Prod.fst
      = Sheet.positions rows cols := by
    have hsorted : ((r.positions.toList.mergeSort fun a b => a.1.precedes b.1).map
        Prod.fst).Pairwise fun p q => p.precedes q = true := by
      refine List.pairwise_map.mpr (List.pairwise_mergeSort (fun a b c hab hbc => ?_)
        (fun a b => ?_) _)
      · rw [Position.precedes_iff] at *
        omega
      · rw [Bool.or_eq_true, Position.precedes_iff, Position.precedes_iff]
        omega
    refine List.Perm.eq_of_pairwise (fun _ _ _ _ => Position.precedes_antisymm) hsorted
      (Sheet.pairwise_positions rows cols) ((hperm.map Prod.fst).trans ?_)
    rw [Std.HashMap.map_fst_toList_eq_keys]
    refine (List.perm_ext_iff_of_nodup r.positions.nodup_keys
      (Sheet.nodup_positions rows cols)).mpr fun p => ?_
    rw [Std.HashMap.mem_keys, Sheet.mem_positions_iff, ← h, idAt,
      Std.HashMap.isSome_getElem?_iff_mem]
  rw [← hkeys, ids, List.map_map, List.map_map]
  refine List.map_congr_left fun entry hentry => ?_
  exact (mem_positions_toList_iff.mp (hperm.mem_iff.mp hentry)).symm

namespace Represents

variable (h : r.Represents s)

include h

theorem idsFit : s.IdsFit := by
  rw [Sheet.IdsFit, ← h.nextId_eq]
  exact r.nextId.toNat_lt

theorem isLive_eq (id : CellId) : r.isLive id = s.isLive id := by
  rw [isLive, h.cell?_eq, Option.isSome_map, Sheet.isLive]

theorem idAt_isSome_iff : (r.idAt p).isSome = true ↔ p.row < r.rows ∧ p.col < r.cols := by
  rw [h.idAt_eq, h.consistent.idAt_isSome_iff, h.rows_eq, h.cols_eq]

theorem ids_eq : r.ids = s.ids := by
  refine List.map_injective_iff.mpr (Option.some_injective _) ?_
  rw [map_some_ids_of_idAt_isSome fun _ => h.idAt_isSome_iff, h.consistent.map_some_ids, h.rows_eq,
    h.cols_eq]
  exact List.map_congr_left fun p _ => h.idAt_eq p

theorem size_eq : r.size = r.rows * r.cols := by
  have hperm : r.cells.keys.Perm s.ids :=
    (List.perm_ext_iff_of_nodup r.nodup_keys_cells h.consistent.nodup_ids).mpr fun id => by
      rw [mem_keys_iff, h.isLive_eq, h.consistent.mem_ids_iff]
  rw [size, ← Std.HashMap.length_keys, hperm.length_eq, h.consistent.length_ids, h.rows_eq,
    h.cols_eq]

/-- **Where a sheet is stored, the tables agree.** -/
theorem indexed : r.Indexed where
  one_le_rows := h.rows_eq ▸ h.consistent.rows_pos
  one_le_cols := h.cols_eq ▸ h.consistent.cols_pos
  idAt_isSome _ := h.idAt_isSome_iff
  idAt_injective p q id hp hq :=
    h.consistent.idAt_injective (h.idAt_eq p ▸ hp) (h.idAt_eq q ▸ hq)
  isLive_iff id := by
    rw [h.isLive_eq, ← h.consistent.mem_ids_iff, Sheet.mem_ids_iff]
    exact exists_congr fun p => by rw [h.idAt_eq]
  cell_at p id hid := by
    obtain ⟨c, hc, hid', hname⟩ := h.consistent.cell?_of_idAt (h.idAt_eq p ▸ hid)
    exact ⟨Entry.ofCell c, by rw [h.cell?_eq, hc, Option.map_some], hid', hname⟩
  names_follow := h.names_follow
  size_eq := h.size_eq
  index_lt id hid := h.nextId_eq ▸ Sheet.index_lt_of_isLive (h.isLive_eq id ▸ hid)
  map_some_ids := map_some_ids_of_idAt_isSome fun _ => h.idAt_isSome_iff
  nodup_ids := h.ids_eq ▸ h.consistent.nodup_ids
  mem_ids_iff id := by rw [h.ids_eq, h.isLive_eq, h.consistent.mem_ids_iff]

/-- **A name leads to the same cell.** -/
theorem lookup_eq (name : String) : r.lookup name = s.lookup name := by
  refine Option.ext fun id => ?_
  rw [lookup, h.names_follow, h.consistent.lookup_eq_some_iff h.idsFit]
  exact exists_congr fun p => by rw [h.idAt_eq, eq_comm (a := p.name)]

theorem resolve_eq (name : String) : r.resolve name = s.resolve name := by
  rw [resolve, h.lookup_eq]
  rfl

theorem valueOf_eq (id : CellId) : r.valueOf id = s.valueOf id := by
  rw [valueOf, Sheet.valueOf, h.cell?_eq]
  cases s.cell? id <;> rfl

theorem dependentsOf_eq (id : CellId) : r.dependentsOf id = s.dependentsOf id := by
  rw [dependentsOf, Sheet.dependentsOf, h.cell?_eq]
  cases s.cell? id <;> rfl

end Represents

/-! ## The sheet a registry presents -/

theorem foldl_max_index (ids : List CellId) (bound : Nat) :
    bound ≤ ids.foldl (fun bound id => max bound (id.index + 1)) bound
      ∧ ∀ id ∈ ids, id.index < ids.foldl (fun bound id => max bound (id.index + 1)) bound := by
  induction ids generalizing bound with
  | nil => simp
  | cons id ids ih =>
    obtain ⟨hle, hlt⟩ := ih (max bound (id.index + 1))
    refine ⟨by rw [List.foldl_cons]; omega, fun j hj => ?_⟩
    rw [List.foldl_cons]
    rcases List.mem_cons.mp hj with rfl | hj
    · omega
    · exact hlt j hj

theorem index_lt_idBound (h : r.isLive id = true) : id.index < r.idBound :=
  (foldl_max_index _ _).2 id (mem_keys_iff.mpr h)

/-- The bound is the counter where the ids stay below it. -/
theorem idBound_eq (h : ∀ id, r.isLive id = true → id.index < r.nextId.toNat) :
    r.idBound = r.nextId.toNat := by
  have hfold : ∀ ids : List CellId, (∀ id ∈ ids, id.index < r.nextId.toNat) →
      ids.foldl (fun bound id => max bound (id.index + 1)) r.nextId.toNat = r.nextId.toNat := by
    intro ids
    induction ids with
    | nil => simp
    | cons id ids ih =>
      intro hids
      rw [List.foldl_cons, Nat.max_eq_left (hids id List.mem_cons_self)]
      exact ih fun j hj => hids j (List.mem_cons_of_mem _ hj)
  exact hfold _ fun id hid => h id (mem_keys_iff.mp hid)

/-- The cells of the sheet a registry presents are those in the table. -/
theorem cell?_sheet (r : Registry) (id : CellId) :
    r.sheet.cell? id = (r.cell? id).map Entry.toCell := by
  rw [Sheet.cell?, sheet, Array.getElem?_map, Array.getElem?_range]
  split
  · rfl
  · rename_i hid
    have hdead : r.cell? id = none := by
      rw [← Option.not_isSome_iff_eq_none]
      exact fun hlive => hid (index_lt_idBound hlive)
    rw [hdead]
    rfl

@[simp] theorem rows_sheet (r : Registry) : r.sheet.rows = r.rows := by simp [Sheet.rows, sheet]

theorem cols_sheet (h : 0 < r.rows) : r.sheet.cols = r.cols := by simp [Sheet.cols, sheet, h]

theorem idAt_sheet (r : Registry) (p : Position) : r.sheet.idAt p =
    if p.row < r.rows ∧ p.col < r.cols then some ((r.idAt p).getD default) else none := by
  rw [Sheet.idAt, sheet, Array.getElem?_map, Array.getElem?_range]
  by_cases hrow : p.row < r.rows
  · rw [if_pos hrow, Option.map_some, Option.bind_some, Array.getElem?_map, Array.getElem?_range]
    by_cases hcol : p.col < r.cols <;> simp [hrow, hcol]
  · rw [if_neg hrow, if_neg fun h => hrow h.1]
    rfl

namespace Indexed

variable (h : r.Indexed)

include h

theorem idAt_sheet_eq (p : Position) : r.sheet.idAt p = r.idAt p := by
  rw [idAt_sheet]
  split
  · rename_i hp
    obtain ⟨id, hid⟩ := Option.isSome_iff_exists.mp ((h.idAt_isSome p).mpr hp)
    rw [hid, Option.getD_some]
  · rename_i hp
    rw [← h.idAt_isSome, Option.not_isSome_iff_eq_none] at hp
    exact hp.symm

/-- As there are fewer cells than ids, the positions have names that denote them. -/
theorem inLimit (hid : r.idAt p = some id) : p.InLimit := by
  obtain ⟨hrow, hcol⟩ := (h.idAt_isSome p).mp (by rw [hid]; rfl)
  have hsize : r.size ≤ r.nextId.toNat := by
    rw [size, ← Std.HashMap.length_keys, ← List.length_map (f := CellId.index),
      ← List.length_range (n := r.nextId.toNat)]
    refine (List.Nodup.subperm ?_ fun n hn => ?_).length_le
    · exact r.nodup_keys_cells.map fun a b hab => by cases a; cases b; exact congrArg _ hab
    · obtain ⟨id, hid, rfl⟩ := List.mem_map.mp hn
      exact List.mem_range.mpr (h.index_lt id (mem_keys_iff.mp hid))
  have hids : r.nextId.toNat < UInt32.size := r.nextId.toNat_lt
  have hrows : r.rows ≤ r.rows * r.cols := Nat.le_mul_of_pos_right _ h.one_le_cols
  have hcols : r.cols ≤ r.rows * r.cols := Nat.le_mul_of_pos_left _ h.one_le_rows
  have hlimits : UInt32.size < indexLimit := by decide
  rw [h.size_eq] at hsize
  exact ⟨by omega, by omega⟩

/-- A cell presented stands at the position that has its id. -/
theorem position_toCell {e : Entry} (he : r.cell? id = some e) (hid : r.idAt p = some id) :
    e.toCell.position = p ∧ e.id = id ∧ e.name = p.name := by
  obtain ⟨e', he', hid', hname⟩ := h.cell_at p id hid
  obtain rfl := Option.some.inj (he.symm.trans he')
  refine ⟨?_, hid', hname⟩
  rw [Entry.toCell, hname, Position.ofName?_name (h.inLimit hid)]
  rfl

theorem exists_idAt {e : Entry} (he : r.cell? id = some e) : ∃ p, r.idAt p = some id :=
  (h.isLive_iff id).mp (Registry.isLive_iff.mpr ⟨e, he⟩)

theorem consistent_sheet : r.sheet.Consistent where
  rows_pos := by rw [rows_sheet]; exact h.one_le_rows
  cols_pos := by rw [cols_sheet h.one_le_rows]; exact h.one_le_cols
  width row hrow := by
    rw [cols_sheet h.one_le_rows]
    obtain ⟨i, -, rfl⟩ := Array.mem_map.mp hrow
    simp
  idAt_iff p id := by
    rw [h.idAt_sheet_eq, cell?_sheet]
    constructor
    · intro hid
      obtain ⟨e, he, -⟩ := h.cell_at p id hid
      exact ⟨e.toCell, by rw [he, Option.map_some], (h.position_toCell he hid).1⟩
    · rintro ⟨c, hc, rfl⟩
      obtain ⟨e, he, rfl⟩ := Option.map_eq_some_iff.mp hc
      obtain ⟨p, hid⟩ := h.exists_idAt he
      rwa [(h.position_toCell he hid).1]
  id_eq id c hc := by
    rw [cell?_sheet] at hc
    obtain ⟨e, he, rfl⟩ := Option.map_eq_some_iff.mp hc
    obtain ⟨p, hid⟩ := h.exists_idAt he
    exact (h.position_toCell he hid).2.1

/-- **A registry whose tables agree stores the sheet it presents.** -/
theorem represents : r.Represents r.sheet where
  consistent := h.consistent_sheet
  rows_eq := r.rows_sheet.symm
  cols_eq := (cols_sheet h.one_le_rows).symm
  nextId_eq := by
    rw [Sheet.nextId, sheet, Array.size_map, Array.size_range, idBound_eq h.index_lt]
  cell?_eq id := by
    rw [cell?_sheet]
    cases he : r.cell? id with
    | none => rfl
    | some e =>
      obtain ⟨p, hid⟩ := h.exists_idAt he
      obtain ⟨hposition, -, hname⟩ := h.position_toCell he hid
      rw [Option.map_some, Option.map_some, Entry.ofCell, Cell.name, hposition, ← hname]
      rfl
  idAt_eq p := (h.idAt_sheet_eq p).symm
  names_follow := h.names_follow

end Indexed

/-- **The sheet a registry stores is the one it presents.** -/
theorem Represents.sheet_eq (h : r.Represents s) : r.sheet = s := by
  have hpresented := h.indexed.represents
  have hcell : ∀ id, r.sheet.cell? id = s.cell? id := by
    intro id
    rw [cell?_sheet, h.cell?_eq]
    cases hc : s.cell? id with
    | none => rfl
    | some c =>
      have hid : s.idAt c.position = some id := (h.consistent.idAt_iff _ id).mpr ⟨c, hc, rfl⟩
      rw [Option.map_some, Option.map_some, Entry.toCell_ofCell (h.consistent.inLimit h.idsFit hid)]
  refine Sheet.ext_cells ?_ ?_ hcell
  · exact h.consistent.grid_eq hpresented.consistent
      (hpresented.rows_eq.symm.trans h.rows_eq) (hpresented.cols_eq.symm.trans h.cols_eq) hcell
  · exact hpresented.nextId_eq.symm.trans h.nextId_eq

end Registry

end Spreadsheet
