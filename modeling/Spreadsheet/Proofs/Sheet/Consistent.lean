import Spreadsheet.Proofs.Sheet.Lookup
import Spreadsheet.Sheet.Structure

/-!
# Proofs/Sheet/Consistent — every operation keeps a sheet consistent

A change to cells keeps a sheet consistent as long as each cell stays itself and where it is
(`Consistent.of_places`).  Inserting or deleting a line moves the cells and the ids in the grid
alike (`Consistent.of_moved`), and a new line brings its own cells.
-/

namespace Spreadsheet

namespace Sheet

variable {s t : Sheet}

/-! ## Changes to cells -/

/-- What a cell is and where it stands. -/
def place? (s : Sheet) (id : CellId) : Option (CellId × Position) :=
  (s.cell? id).map fun c => (c.id, c.position)

/-- **Consistency is a matter of the grid and of where the cells are.** -/
theorem Consistent.of_places (hs : s.Consistent) (hgrid : t.grid = s.grid)
    (hplace : ∀ id, t.place? id = s.place? id) : t.Consistent := by
  have hidAt : ∀ p, t.idAt p = s.idAt p := fun p => by rw [idAt, idAt, hgrid]
  have hcols : t.cols = s.cols := by rw [cols, cols, hgrid]
  have hcell : ∀ {id c}, t.cell? id = some c →
      ∃ c', s.cell? id = some c' ∧ c'.id = c.id ∧ c'.position = c.position := by
    intro id c hc
    have := hplace id
    rw [place?, place?, hc] at this
    obtain ⟨c', hc', heq⟩ := Option.map_eq_some_iff.mp this.symm
    exact ⟨c', hc', (Prod.mk.inj heq).1, (Prod.mk.inj heq).2⟩
  refine ⟨by rw [rows, hgrid]; exact hs.rows_pos, hcols ▸ hs.cols_pos, ?_, ?_, ?_⟩
  · intro row hrow
    rw [hcols]
    exact hs.width row (hgrid ▸ hrow)
  · intro p id
    rw [hidAt, hs.idAt_iff]
    constructor
    · rintro ⟨c', hc', hp⟩
      have := hplace id
      rw [place?, place?, hc'] at this
      obtain ⟨c, hc, heq⟩ := Option.map_eq_some_iff.mp this
      exact ⟨c, hc, (Prod.mk.inj heq).2.trans hp⟩
    · rintro ⟨c, hc, hp⟩
      obtain ⟨c', hc', -, hposition⟩ := hcell hc
      exact ⟨c', hc', hposition.trans hp⟩
  · intro id c hc
    obtain ⟨c', hc', hid, -⟩ := hcell hc
    exact hid.symm.trans (hs.id_eq id c' hc')

variable {f : Cell → Cell}

theorem Consistent.modifyCell (hs : s.Consistent) (id : CellId)
    (hf : ∀ c, (f c).id = c.id ∧ (f c).position = c.position) : (s.modifyCell id f).Consistent := by
  refine hs.of_places rfl fun j => ?_
  rw [place?, place?, cell?_modifyCell]
  split
  · cases s.cell? j <;> simp [hf]
  · rfl

theorem Consistent.mapCells (hs : s.Consistent)
    (hf : ∀ c, (f c).id = c.id ∧ (f c).position = c.position) : (s.mapCells f).Consistent := by
  refine hs.of_places rfl fun j => ?_
  rw [place?, place?, cell?_mapCells]
  cases s.cell? j <;> simp [hf]

theorem Consistent.enterText (hs : s.Consistent) (id : CellId) (text : String) :
    (s.modifyCell id fun c => { c with text }).Consistent := hs.modifyCell id fun _ => ⟨rfl, rfl⟩

/-! ## A new sheet -/

theorem cell?_blank (rows cols : Nat) (id : CellId) : (blank rows cols).cell? id =
    if id.index < max rows 1 * max cols 1 then
      some (Cell.blank id ⟨id.index / max cols 1, id.index % max cols 1⟩)
    else none := by
  rw [cell?, blank, Array.getElem?_map, Array.getElem?_range]
  split <;> rfl

theorem valueOf_blank (rows cols : Nat) (id : CellId) : (blank rows cols).valueOf id = "" := by
  rw [valueOf, cell?_blank]
  by_cases h : id.index < max rows 1 * max cols 1
  · rw [if_pos h]
    rfl
  · rw [if_neg h]

theorem dependentsOf_blank (rows cols : Nat) (id : CellId) :
    (blank rows cols).dependentsOf id = [] := by
  rw [dependentsOf, cell?_blank]
  by_cases h : id.index < max rows 1 * max cols 1
  · rw [if_pos h]
    rfl
  · rw [if_neg h]

theorem idAt_blank (rows cols : Nat) (p : Position) : (blank rows cols).idAt p =
    if p.row < max rows 1 ∧ p.col < max cols 1 then some ⟨p.row * max cols 1 + p.col⟩
    else none := by
  rw [idAt, blank, Array.getElem?_map, Array.getElem?_range]
  by_cases hrow : p.row < max rows 1
  · rw [if_pos hrow, Option.map_some, Option.bind_some, Array.getElem?_map, Array.getElem?_range]
    by_cases hcol : p.col < max cols 1 <;> simp [hrow, hcol]
  · rw [if_neg hrow, if_neg fun h => hrow h.1]
    rfl

theorem rows_blank (rows cols : Nat) : (blank rows cols).rows = max rows 1 := by
  simp [Sheet.rows, blank]

theorem cols_blank (rows cols : Nat) : (blank rows cols).cols = max cols 1 := by
  have : 0 < max rows 1 := Nat.lt_of_lt_of_le Nat.zero_lt_one (Nat.le_max_right _ _)
  simp [Sheet.cols, blank, this]

/-- In a new sheet, ids count the positions row by row. -/
theorem idAt_blank_iff (rows cols : Nat) (p : Position) (id : CellId) :
    (blank rows cols).idAt p = some id ↔
      ∃ c, (blank rows cols).cell? id = some c ∧ c.position = p := by
  have hcols : 0 < max cols 1 := Nat.lt_of_lt_of_le Nat.zero_lt_one (Nat.le_max_right _ _)
  rw [idAt_blank, cell?_blank]
  constructor
  · intro h
    split at h
    · rename_i hp
      cases h
      have hlt : p.row * max cols 1 + p.col < max rows 1 * max cols 1 := by
        calc p.row * max cols 1 + p.col < p.row * max cols 1 + max cols 1 := by omega
          _ = (p.row + 1) * max cols 1 := (Nat.succ_mul _ _).symm
          _ ≤ max rows 1 * max cols 1 := Nat.mul_le_mul_right _ hp.1
      refine ⟨_, if_pos hlt, ?_⟩
      simp only [Cell.blank]
      rw [Nat.add_comm, Nat.add_mul_div_right _ _ hcols, Nat.div_eq_of_lt hp.2, Nat.zero_add,
        Nat.add_mul_mod_self_right, Nat.mod_eq_of_lt hp.2]
    · simp at h
  · rintro ⟨c, hc, rfl⟩
    split at hc
    · rename_i hid
      cases hc
      have hrow : id.index / max cols 1 < max rows 1 :=
        Nat.div_lt_of_lt_mul (by rwa [Nat.mul_comm])
      refine (if_pos ⟨hrow, Nat.mod_lt _ hcols⟩).trans ?_
      simp only [Cell.blank, Nat.div_add_mod']
    · simp at hc

/-- **A new sheet is consistent.** -/
theorem consistent_blank (rows cols : Nat) : (blank rows cols).Consistent where
  rows_pos := by rw [rows_blank]; omega
  cols_pos := by rw [cols_blank]; omega
  width row hrow := by
    rw [cols_blank]
    obtain ⟨i, -, rfl⟩ := Array.mem_map.mp hrow
    simp
  idAt_iff := idAt_blank_iff rows cols
  id_eq id c hc := by
    rw [cell?_blank] at hc
    split at hc <;> cases hc
    rfl

/-! ## Moving cells

An edit of the structure moves the cells, drops those that have nowhere to go, and appends new
ones. -/

theorem cell?_relocate_append (s : Sheet) (move : Position → Option Position)
    (fresh : Array (Option Cell)) (grid : Array (Array CellId)) (id : CellId) :
    (Sheet.mk (s.relocate move ++ fresh) grid).cell? id =
      if id.index < s.slots.size then (s.cell? id).bind (relocateCell move (s.removes move))
      else fresh[id.index - s.slots.size]?.join := by
  rw [cell?, Array.getElem?_append, relocate, Array.size_map, cell?]
  split
  · rw [Array.getElem?_map]
    cases s.slots[id.index]? <;> rfl
  · rfl

theorem relocateCell_eq_some_iff {move : Position → Option Position} {removed : CellId → Bool}
    {c c' : Cell} : relocateCell move removed c = some c' ↔ ∃ p, move c.position = some p
      ∧ c' = { c with position := p, dependents := c.dependents.filter (!removed ·) } := by
  rw [relocateCell, Option.map_eq_some_iff]
  exact exists_congr fun p => and_congr_right fun _ => eq_comm

/-- A grid all of whose rows have one width has that many columns. -/
theorem cols_of_width {n : Nat} (hrows : 0 < s.rows) (hwidth : ∀ row ∈ s.grid, row.size = n) :
    s.cols = n := by
  rw [cols, Array.getElem?_eq_getElem hrows]
  exact hwidth _ (Array.getElem_mem hrows)

/-- **Cells that move as the ids in the grid do stay consistent with them.** -/
theorem Consistent.of_moved (hs : s.Consistent) (move : Position → Option Position)
    (removed : CellId → Bool) (fresh : CellId → Option Cell) {n : Nat} (hrows : 0 < t.rows)
    (hn : 0 < n) (hwidth : ∀ row ∈ t.grid, row.size = n)
    (hcell : ∀ id c, t.cell? id = some c ↔
      (∃ c', s.cell? id = some c' ∧ relocateCell move removed c' = some c) ∨ fresh id = some c)
    (hidAt : ∀ p id, t.idAt p = some id ↔
      (∃ q, move q = some p ∧ s.idAt q = some id) ∨ ∃ c, fresh id = some c ∧ c.position = p)
    (hfresh : ∀ id c, fresh id = some c → c.id = id) : t.Consistent where
  rows_pos := hrows
  cols_pos := cols_of_width hrows hwidth ▸ hn
  width := cols_of_width hrows hwidth ▸ hwidth
  idAt_iff p id := by
    rw [hidAt]
    constructor
    · rintro (⟨q, hq, hid⟩ | ⟨c, hc, hp⟩)
      · obtain ⟨c, hc, rfl⟩ := (hs.idAt_iff q id).mp hid
        exact ⟨_, (hcell id _).mpr (.inl ⟨c, hc, relocateCell_eq_some_iff.mpr ⟨p, hq, rfl⟩⟩), rfl⟩
      · exact ⟨c, (hcell id c).mpr (.inr hc), hp⟩
    · rintro ⟨c, hc, hp⟩
      rcases (hcell id c).mp hc with ⟨c', hc', hmoved⟩ | hnew
      · obtain ⟨q, hq, rfl⟩ := relocateCell_eq_some_iff.mp hmoved
        exact .inl ⟨c'.position, hp ▸ hq, (hs.idAt_iff _ id).mpr ⟨c', hc', rfl⟩⟩
      · exact .inr ⟨c, hnew, hp⟩
  id_eq id c hc := by
    rcases (hcell id c).mp hc with ⟨c', hc', hmoved⟩ | hnew
    · obtain ⟨q, -, rfl⟩ := relocateCell_eq_some_iff.mp hmoved
      exact hs.id_eq id c' hc'
    · exact hfresh id c hnew

/-! ## Deleting a line -/

/-- The cells after a deletion are those that had somewhere to go. -/
theorem cell?_relocate {move : Position → Option Position} {grid : Array (Array CellId)}
    {id : CellId} : (Sheet.mk (s.relocate move) grid).cell? id =
      (s.cell? id).bind (relocateCell move (s.removes move)) := by
  have h := cell?_relocate_append s move #[] grid id
  rw [Array.append_empty] at h
  rw [h]
  split
  · rfl
  · rename_i hid
    rw [cell?, Array.getElem?_eq_none (Nat.le_of_not_lt hid)]
    rfl

theorem Consistent.of_deleted (hs : s.Consistent) {move : Position → Option Position}
    {grid : Array (Array CellId)} {n : Nat} (hrows : 0 < grid.size) (hn : 0 < n)
    (hwidth : ∀ row ∈ grid, row.size = n)
    (hidAt : ∀ p id, (Sheet.mk (s.relocate move) grid).idAt p = some id ↔
      ∃ q, move q = some p ∧ s.idAt q = some id) :
    (Sheet.mk (s.relocate move) grid).Consistent := by
  refine hs.of_moved move (s.removes move) (fun _ => none) hrows hn hwidth
    (fun id c => ?_) (fun p id => ?_) fun _ _ h => by cases h
  · rw [cell?_relocate, Option.bind_eq_some_iff]
    simp
  · rw [hidAt]
    simp

theorem dropRow_eq_some_iff {row : Nat} {p q : Position} : dropRow row q = some p ↔
    q = if p.row < row then p else ⟨p.row + 1, p.col⟩ := by
  obtain ⟨i, j⟩ := p
  obtain ⟨k, l⟩ := q
  grind [dropRow]

theorem dropColumn_eq_some_iff {col : Nat} {p q : Position} : dropColumn col q = some p ↔
    q = if p.col < col then p else ⟨p.row, p.col + 1⟩ := by
  obtain ⟨i, j⟩ := p
  obtain ⟨k, l⟩ := q
  grind [dropColumn]

theorem deleteRow_eq_ok_iff {row : Nat} : s.deleteRow row = .ok t ↔
    1 < s.rows ∧ row < s.rows
      ∧ t = ⟨s.relocate (dropRow row), s.grid.eraseIdxIfInBounds row⟩ := by
  rw [deleteRow]
  split
  · simp; omega
  · split
    · simp; omega
    · simp only [Except.ok.injEq]
      exact ⟨fun h => ⟨by omega, by omega, h.symm⟩, fun h => h.2.2.symm⟩

theorem deleteColumn_eq_ok_iff {col : Nat} : s.deleteColumn col = .ok t ↔
    1 < s.cols ∧ col < s.cols
      ∧ t = ⟨s.relocate (dropColumn col), s.grid.map (·.eraseIdxIfInBounds col)⟩ := by
  rw [deleteColumn]
  split
  · simp; omega
  · split
    · simp; omega
    · simp only [Except.ok.injEq]
      exact ⟨fun h => ⟨by omega, by omega, h.symm⟩, fun h => h.2.2.symm⟩

theorem Consistent.shape_deleteRow (hs : s.Consistent) {row : Nat}
    (h : s.deleteRow row = .ok t) :
    t.rows = s.rows - 1 ∧ ∀ ids ∈ t.grid, ids.size = s.cols := by
  obtain ⟨-, hrow, rfl⟩ := deleteRow_eq_ok_iff.mp h
  have hrow' : row < s.grid.size := hrow
  simp only [rows, Array.eraseIdxIfInBounds_eq, dif_pos hrow']
  exact ⟨Array.size_eraseIdx .., fun ids hids => hs.width ids (Array.mem_of_mem_eraseIdx hids)⟩

theorem Consistent.shape_deleteColumn (hs : s.Consistent) {col : Nat}
    (h : s.deleteColumn col = .ok t) :
    t.rows = s.rows ∧ ∀ ids ∈ t.grid, ids.size = s.cols - 1 := by
  obtain ⟨-, hcol, rfl⟩ := deleteColumn_eq_ok_iff.mp h
  refine ⟨Array.size_map .., fun ids hids => ?_⟩
  obtain ⟨ids, hmem, rfl⟩ := Array.mem_map.mp hids
  have hwidth := hs.width ids hmem
  rw [Array.eraseIdxIfInBounds_eq, dif_pos (hwidth ▸ hcol), Array.size_eraseIdx, hwidth]

theorem Consistent.deleteRow (hs : s.Consistent) {row : Nat} (h : s.deleteRow row = .ok t) :
    t.Consistent := by
  obtain ⟨hrows, hwidth⟩ := hs.shape_deleteRow h
  obtain ⟨htwo, hrow, rfl⟩ := deleteRow_eq_ok_iff.mp h
  have hrow' : row < s.grid.size := hrow
  refine hs.of_deleted (Nat.lt_of_lt_of_eq (by omega) hrows.symm) hs.cols_pos hwidth fun p id => ?_
  simp only [dropRow_eq_some_iff, exists_eq_left, idAt, Array.eraseIdxIfInBounds_eq,
    dif_pos hrow', Array.getElem?_eraseIdx]
  split <;> rfl

theorem Consistent.deleteColumn (hs : s.Consistent) {col : Nat} (h : s.deleteColumn col = .ok t) :
    t.Consistent := by
  obtain ⟨hrows, hwidth⟩ := hs.shape_deleteColumn h
  obtain ⟨htwo, hcol, rfl⟩ := deleteColumn_eq_ok_iff.mp h
  refine hs.of_deleted (Nat.lt_of_lt_of_eq hs.rows_pos hrows.symm) (Nat.sub_pos_of_lt htwo) hwidth
    fun p id => ?_
  simp only [dropColumn_eq_some_iff, exists_eq_left, idAt, Array.getElem?_map]
  cases hids : s.grid[p.row]? with
  | none => split <;> simp [hids]
  | some ids =>
    have hsize : col < ids.size := hs.width ids (Array.mem_of_getElem? hids) ▸ hcol
    rw [Option.map_some, Option.bind_some, Array.eraseIdxIfInBounds_eq, dif_pos hsize,
      Array.getElem?_eraseIdx]
    split <;> simp [hids]

/-! ## Inserting a line -/

/-- The cells of a new line of a given length: they are empty and take the next ids in turn. -/
def lineCell? (s : Sheet) (length : Nat) (place : Nat → Position) (id : CellId) : Option Cell :=
  if s.slots.size ≤ id.index ∧ id.index < s.slots.size + length then
    some (Cell.blank id (place (id.index - s.slots.size)))
  else none

variable {move : Position → Option Position} {grid : Array (Array CellId)} {length : Nat}
  {place : Nat → Position}

theorem lineCell?_eq_some_iff {id : CellId} {c : Cell} : s.lineCell? length place id = some c ↔
    ∃ k < length, id = ⟨s.slots.size + k⟩ ∧ c = Cell.blank id (place k) := by
  rw [lineCell?]
  constructor
  · intro h
    split at h
    · cases h
      refine ⟨id.index - s.slots.size, by omega, ?_, rfl⟩
      cases id
      simp only [CellId.mk.injEq] at *
      omega
    · simp at h
  · rintro ⟨k, hk, rfl, rfl⟩
    rw [if_pos ⟨Nat.le_add_right _ _, Nat.add_lt_add_left hk _⟩, Nat.add_sub_cancel_left]

/-- The cells after an insertion are those before it and those of the new line. -/
theorem cell?_relocate_line {id : CellId} {c : Cell} :
    (Sheet.mk (s.relocate move ++ (Array.range length).map fun k =>
      some (Cell.blank ⟨s.slots.size + k⟩ (place k))) grid).cell? id = some c ↔
    (∃ c', s.cell? id = some c' ∧ relocateCell move (s.removes move) c' = some c)
      ∨ s.lineCell? length place id = some c := by
  rw [cell?_relocate_append, ← Option.bind_eq_some_iff, lineCell?]
  by_cases hid : id.index < s.slots.size
  · rw [if_pos hid, if_neg (by omega)]
    simp
  · have hnone : s.cell? id = none := by
      rw [cell?, Array.getElem?_eq_none (Nat.le_of_not_lt hid)]
      rfl
    have hsum : s.slots.size + (id.index - s.slots.size) = id.index := by omega
    rw [if_neg hid, hnone, Array.getElem?_map, Array.getElem?_range]
    by_cases hk : id.index - s.slots.size < length
    · rw [if_pos hk, if_pos (by omega), Option.map_some, hsum]
      simp
    · rw [if_neg hk, if_neg (by omega)]
      simp

theorem Consistent.of_inserted (hs : s.Consistent) (place : Nat → Position) {n : Nat}
    (hrows : 0 < grid.size) (hn : 0 < n)
    (hwidth : ∀ row ∈ grid, row.size = n)
    (hidAt : ∀ p id, (Sheet.mk (s.relocate move ++ (Array.range length).map fun k =>
        some (Cell.blank ⟨s.slots.size + k⟩ (place k))) grid).idAt p = some id ↔
      (∃ q, move q = some p ∧ s.idAt q = some id)
        ∨ ∃ k < length, id = ⟨s.slots.size + k⟩ ∧ place k = p) :
    (Sheet.mk (s.relocate move ++ (Array.range length).map fun k =>
      some (Cell.blank ⟨s.slots.size + k⟩ (place k))) grid).Consistent := by
  refine hs.of_moved move (s.removes move) (s.lineCell? length place) hrows hn hwidth
    (fun id c => cell?_relocate_line)
    (fun p id => ?_) fun id c h => ?_
  · rw [hidAt]
    refine or_congr_right ⟨?_, ?_⟩
    · rintro ⟨k, hk, rfl, rfl⟩
      exact ⟨_, lineCell?_eq_some_iff.mpr ⟨k, hk, rfl, rfl⟩, rfl⟩
    · rintro ⟨c, hc, rfl⟩
      obtain ⟨k, hk, hid, rfl⟩ := lineCell?_eq_some_iff.mp hc
      exact ⟨k, hk, hid, rfl⟩
  · obtain ⟨k, -, -, rfl⟩ := lineCell?_eq_some_iff.mp h
    rfl

theorem pushRow_eq_some_iff {row : Nat} {p q : Position} : pushRow row q = some p ↔
    p.row < row ∧ q = p ∨ row < p.row ∧ q = ⟨p.row - 1, p.col⟩ := by
  obtain ⟨i, j⟩ := p
  obtain ⟨k, l⟩ := q
  grind [pushRow]

theorem pushColumn_eq_some_iff {col : Nat} {p q : Position} : pushColumn col q = some p ↔
    p.col < col ∧ q = p ∨ col < p.col ∧ q = ⟨p.row, p.col - 1⟩ := by
  obtain ⟨i, j⟩ := p
  obtain ⟨k, l⟩ := q
  grind [pushColumn]

theorem insertRow_eq_ok_iff {row : Nat} : s.insertRow row = .ok t ↔ row ≤ s.rows ∧
    t = ⟨s.relocate (pushRow row) ++ (Array.range s.cols).map fun k =>
        some (Cell.blank ⟨s.slots.size + k⟩ ⟨row, k⟩),
      s.grid.insertIdxIfInBounds row ((Array.range s.cols).map fun k => ⟨s.slots.size + k⟩)⟩ := by
  rw [insertRow]
  split
  · simp; omega
  · simp only [Except.ok.injEq]
    exact ⟨fun h => ⟨by omega, h.symm⟩, fun h => h.2.symm⟩

theorem insertColumn_eq_ok_iff {col : Nat} : s.insertColumn col = .ok t ↔ col ≤ s.cols ∧
    t = ⟨s.relocate (pushColumn col) ++ (Array.range s.rows).map fun k =>
        some (Cell.blank ⟨s.slots.size + k⟩ ⟨k, col⟩),
      s.grid.mapIdx fun row ids => ids.insertIdxIfInBounds col ⟨s.slots.size + row⟩⟩ := by
  rw [insertColumn]
  split
  · simp; omega
  · simp only [Except.ok.injEq]
    exact ⟨fun h => ⟨by omega, h.symm⟩, fun h => h.2.symm⟩

/-- What stands where after an insertion into an array. -/
theorem getElem?_insertIdxIfInBounds {α : Type} {xs : Array α} {i k : Nat} {x : α}
    (h : i ≤ xs.size) : (xs.insertIdxIfInBounds i x)[k]? =
      if k < i then xs[k]? else if k = i then some x else xs[k - 1]? := by
  rw [Array.insertIdxIfInBounds, dif_pos h, Array.getElem?_insertIdx h]
  split
  · rfl
  · split
    · rw [if_pos (by omega)]
    · rfl

theorem Consistent.shape_insertRow (hs : s.Consistent) {row : Nat} (h : s.insertRow row = .ok t) :
    t.rows = s.rows + 1 ∧ ∀ ids ∈ t.grid, ids.size = s.cols := by
  obtain ⟨hrow, rfl⟩ := insertRow_eq_ok_iff.mp h
  have hrow' : row ≤ s.grid.size := hrow
  simp only [rows, Array.insertIdxIfInBounds, dif_pos hrow']
  refine ⟨Array.size_insertIdx .., fun ids hids => ?_⟩
  rcases Array.mem_insertIdx.mp hids with rfl | hids
  · simp
  · exact hs.width ids hids

theorem Consistent.shape_insertColumn (hs : s.Consistent) {col : Nat}
    (h : s.insertColumn col = .ok t) :
    t.rows = s.rows ∧ ∀ ids ∈ t.grid, ids.size = s.cols + 1 := by
  obtain ⟨hcol, rfl⟩ := insertColumn_eq_ok_iff.mp h
  refine ⟨Array.size_mapIdx .., fun ids hids => ?_⟩
  obtain ⟨i, hi, rfl⟩ := Array.mem_mapIdx.mp hids
  have hwidth := hs.width _ (Array.getElem_mem hi)
  rw [Array.insertIdxIfInBounds, dif_pos (hwidth ▸ hcol), Array.size_insertIdx, hwidth]

theorem Consistent.insertRow (hs : s.Consistent) {row : Nat} (h : s.insertRow row = .ok t) :
    t.Consistent := by
  obtain ⟨hrows, hwidth⟩ := hs.shape_insertRow h
  obtain ⟨hrow, rfl⟩ := insertRow_eq_ok_iff.mp h
  have hrow' : row ≤ s.grid.size := hrow
  refine hs.of_inserted (fun k => ⟨row, k⟩) (Nat.lt_of_lt_of_eq (Nat.succ_pos _) hrows.symm)
    hs.cols_pos hwidth fun p id => ?_
  rw [idAt, getElem?_insertIdxIfInBounds hrow']
  simp only [pushRow_eq_some_iff]
  rcases Nat.lt_trichotomy p.row row with hlt | heq | hgt
  · have hne : ∀ k, ¬ Position.mk row k = p := fun k h => by rw [← h] at hlt; simp at hlt
    simp [hlt, Nat.not_lt_of_gt hlt, hne, idAt]
  · obtain ⟨i, j⟩ := p
    obtain rfl : i = row := heq
    simp [Array.getElem?_range, eq_comm]
  · have hne : ∀ k, ¬ Position.mk row k = p := fun k h => by rw [← h] at hgt; simp at hgt
    simp [hgt, Nat.not_lt_of_gt hgt, Nat.ne_of_gt hgt, hne, idAt]

theorem Consistent.insertColumn (hs : s.Consistent) {col : Nat} (h : s.insertColumn col = .ok t) :
    t.Consistent := by
  obtain ⟨hrows, hwidth⟩ := hs.shape_insertColumn h
  obtain ⟨hcol, rfl⟩ := insertColumn_eq_ok_iff.mp h
  refine hs.of_inserted (fun k => ⟨k, col⟩) (Nat.lt_of_lt_of_eq hs.rows_pos hrows.symm)
    (Nat.succ_pos _) hwidth fun p id => ?_
  simp only [idAt, Array.getElem?_mapIdx, pushColumn_eq_some_iff]
  cases hids : s.grid[p.row]? with
  | none =>
    have hrow : s.rows ≤ p.row := Array.getElem?_eq_none_iff.mp hids
    simp only [Option.map_none, Option.bind_none, reduceCtorEq, false_iff, not_or, not_exists]
    refine ⟨?_, ?_⟩
    · rintro q ⟨⟨-, rfl⟩ | ⟨-, rfl⟩, hid⟩ <;> simp [hids] at hid
    · rintro k ⟨hk, -, rfl⟩
      exact Nat.not_le_of_gt hk hrow
  | some ids =>
    have hrow : p.row < s.rows := (Array.getElem?_eq_some_iff.mp hids).1
    have hsize : col ≤ ids.size := hs.width ids (Array.mem_of_getElem? hids) ▸ hcol
    rw [Option.map_some, Option.bind_some, getElem?_insertIdxIfInBounds hsize]
    rcases Nat.lt_trichotomy p.col col with hlt | heq | hgt
    · have hne : ∀ k, ¬ Position.mk k col = p := fun k h => by rw [← h] at hlt; simp at hlt
      simp [hlt, Nat.not_lt_of_gt hlt, hne, hids]
    · obtain ⟨i, j⟩ := p
      obtain rfl : j = col := heq
      have hrow' : i < s.rows := hrow
      simp [eq_comm, hrow']
    · have hne : ∀ k, ¬ Position.mk k col = p := fun k h => by rw [← h] at hgt; simp at hgt
      simp [hgt, Nat.not_lt_of_gt hgt, Nat.ne_of_gt hgt, hne, hids]

end Sheet

end Spreadsheet
