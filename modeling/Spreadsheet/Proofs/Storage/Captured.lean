import Spreadsheet.Proofs.Json.Documents
import Spreadsheet.Proofs.Sheet.Indices
import Spreadsheet.Proofs.Storage.Restored

/-!
# Proofs/Storage/Captured — a snapshot of a sheet gives its texts back

A snapshot is written and read without loss as long as its numbers are counts (`read_write`).
Restoring enters the stored texts one after the other, so each position of the new sheet has the
text stored last for it, and nothing else is in it (`restores_of_restore`).  A capture stores the
text of every position at most once; a sheet within the limit is therefore restored with its size
and all its texts (`exists_restore_capture`).
-/

namespace Spreadsheet

variable {s : Sheet} {c : StoredCell} {cells : List StoredCell} {p : Position}

namespace Snapshot

/-! ## Documents -/

/-- Every number of a snapshot is a count. -/
structure Countable (snapshot : Snapshot) : Prop where
  rows_lt : snapshot.rows < Json.countLimit
  cols_lt : snapshot.cols < Json.countLimit
  cells_lt : ∀ c ∈ snapshot.cells, c.row < Json.countLimit ∧ c.col < Json.countLimit

theorem proper_document (snapshot : Snapshot) : snapshot.document.Proper := by
  refine Json.proper_ofFields ?_
  simp only [List.forall_mem_cons, List.not_mem_nil, false_imp_iff, implies_true, and_true]
  refine ⟨Json.proper_ofCount _, Json.proper_ofCount _, .array ?_⟩
  rw [List.forall_mem_map]
  intro c _
  refine Json.proper_ofFields ?_
  simp only [List.forall_mem_cons, List.not_mem_nil, false_imp_iff, implies_true, and_true]
  exact ⟨Json.proper_ofCount _, Json.proper_ofCount _, Json.proper_ofText _⟩

theorem cellOfDocument?_cellDocument (hrow : c.row < Json.countLimit)
    (hcol : c.col < Json.countLimit) : cellOfDocument? (cellDocument c) = some c := by
  have hfields : (cellDocument c).fields? ["row", "col", "expression"]
      = some [some (.ofCount c.row), some (.ofCount c.col), some (.ofText c.text)] :=
    Json.fields?_ofFields (by simp)
  rw [cellOfDocument?, hfields]
  simp [Json.count?_ofCount hrow, Json.count?_ofCount hcol, Json.ofText, Json.text?]

theorem ofDocument?_document {snapshot : Snapshot} (h : snapshot.Countable) :
    ofDocument? snapshot.document = some snapshot := by
  have hfields : snapshot.document.fields? ["rows", "cols", "cells"]
      = some [some (.ofCount snapshot.rows), some (.ofCount snapshot.cols),
        some (.array (snapshot.cells.map cellDocument))] := Json.fields?_ofFields (by simp)
  have hcells : (snapshot.cells.map cellDocument).mapM cellOfDocument? = some snapshot.cells := by
    have hcell : ∀ c ∈ snapshot.cells, (cellOfDocument? ∘ cellDocument) c = some (id c) :=
      fun c hc => cellOfDocument?_cellDocument (h.cells_lt c hc).1 (h.cells_lt c hc).2
    rw [List.mapM_map, Json.mapM_eq_some hcell, List.map_id]
  rw [ofDocument?, hfields]
  simp [Json.count?_ofCount h.rows_lt, Json.count?_ofCount h.cols_lt, Json.items?, hcells]

/-- **What is written of a snapshot is read back as it was.** -/
theorem read_write {snapshot : Snapshot} (h : snapshot.Countable) :
    read snapshot.write = .ok snapshot := by
  rw [read, write, Json.read?_prettyText snapshot.proper_document, Option.bind_some,
    ofDocument?_document h]

end Snapshot

/-! ## Entering texts -/

/-- The position a stored text belongs to. -/
def StoredCell.position (c : StoredCell) : Position := ⟨c.row, c.col⟩

namespace Snapshot

/-- The text stored last for a position. -/
def lastText? (cells : List StoredCell) (p : Position) : Option String :=
  (cells.reverse.find? fun c => c.position = p).map StoredCell.text

theorem lastText?_cons (c : StoredCell) (cells : List StoredCell) (p : Position) :
    lastText? (c :: cells) p = (lastText? cells p).or (if c.position = p then some c.text else none) := by
  rw [lastText?, List.reverse_cons, List.find?_append, Option.map_or, ← lastText?]
  by_cases h : c.position = p <;> simp [h]

@[simp] theorem grid_enter (s : Sheet) (c : StoredCell) : (enter s c).grid = s.grid := by
  rw [enter]
  split <;> rfl

theorem grid_foldl_enter : ∀ (cells : List StoredCell) (s : Sheet),
    (cells.foldl enter s).grid = s.grid
  | [], _ => rfl
  | c :: cells, s => (grid_foldl_enter cells (enter s c)).trans (grid_enter s c)

theorem enter_of_idAt {id : CellId} (h : s.idAt c.position = some id) :
    enter s c = s.modifyCell id fun cell => { cell with text := c.text } := by
  rw [StoredCell.position] at h
  rw [enter, h]

theorem enter_of_idAt_eq_none (h : s.idAt c.position = none) : enter s c = s := by
  rw [StoredCell.position] at h
  rw [enter, h]

/-- A text is entered at its position and nowhere else. -/
theorem cellAt_enter (hs : s.Consistent) (c : StoredCell) (p : Position) : (enter s c).cellAt p =
    (s.cellAt p).map fun cell => if c.position = p then { cell with text := c.text } else cell := by
  by_cases hp : c.position = p
  · subst hp
    simp only [if_true]
    cases hid : s.idAt c.position with
    | none => simp [enter_of_idAt_eq_none hid, Sheet.cellAt, hid]
    | some id =>
      have hid' : (enter s c).idAt c.position = some id := by rw [enter_of_idAt hid]; exact hid
      rw [Sheet.cellAt, hid', Option.bind_some, enter_of_idAt hid, Sheet.cell?_modifyCell,
        if_pos rfl, Sheet.cellAt, hid, Option.bind_some]
  · simp only [if_neg hp, Option.map_id']
    cases hid : s.idAt c.position with
    | none => rw [enter_of_idAt_eq_none hid]
    | some id =>
      rw [enter_of_idAt hid]
      show (s.idAt p).bind _ = (s.idAt p).bind _
      refine Option.bind_congr fun j hj => ?_
      have hne : j ≠ id := fun h => hp (hs.idAt_injective hid (h ▸ hj))
      rw [Sheet.cell?_modifyCell, if_neg hne]

/-- **After a list of stored texts, each position has the one stored last for it.** -/
theorem cellAt_foldl_enter : ∀ {cells : List StoredCell} {s : Sheet}, s.Consistent →
    ∀ p, (cells.foldl enter s).cellAt p = (s.cellAt p).map fun cell =>
      { cell with text := (lastText? cells p).getD cell.text }
  | [], s, _, p => by simp [lastText?]
  | c :: cells, s, hs, p => by
      rw [List.foldl_cons, cellAt_foldl_enter (consistent_enter hs c), cellAt_enter hs,
        Option.map_map, lastText?_cons]
      refine Option.map_congr fun cell _ => ?_
      by_cases h : c.position = p <;> cases lastText? cells p <;> simp [h]

/-! ## Restoring -/

/-- A new sheet has an empty text at each of its positions. -/
theorem textAt?_blank (rows cols : Nat) (p : Position) : (Sheet.blank rows cols).textAt? p =
    if p.row < max rows 1 ∧ p.col < max cols 1 then some "" else none := by
  have hsome := (Sheet.consistent_blank rows cols).cellAt_isSome_iff (p := p)
  rw [Sheet.rows_blank, Sheet.cols_blank] at hsome
  rw [Sheet.textAt?]
  cases hcell : (Sheet.blank rows cols).cellAt p with
  | none =>
    rw [if_neg fun h => by simpa [hcell] using hsome.mpr h]
    rfl
  | some cell =>
    obtain ⟨id, -, hid⟩ := Option.bind_eq_some_iff.mp hcell
    have hempty : cell.text = "" := by
      rw [Sheet.cell?_blank] at hid
      split at hid <;> cases hid
      rfl
    rw [if_pos (hsome.mp (by rw [hcell]; rfl)), Option.map_some, hempty]

/-- What a sheet is that was made from a snapshot. -/
structure Restores (snapshot : Snapshot) (t : Sheet) : Prop where
  rows : t.rows = snapshot.neededRows
  cols : t.cols = snapshot.neededCols
  /-- A position has the text stored last for it. -/
  text : ∀ p, t.textAt? p =
    if p.row < snapshot.neededRows ∧ p.col < snapshot.neededCols then
      some ((lastText? snapshot.cells p).getD "")
    else none
  value : ∀ id, t.valueOf id = ""
  dependents : ∀ id, t.dependentsOf id = []

theorem one_le_needed (snapshot : Snapshot) :
    1 ≤ snapshot.neededRows ∧ 1 ≤ snapshot.neededCols :=
  ⟨(Nat.le_max_right _ _).trans (le_fit _ _), (Nat.le_max_right _ _).trans (le_fit _ _)⟩

/-- Entering texts changes neither values nor dependents. -/
theorem valueOf_foldl_enter (id : CellId) : ∀ (cells : List StoredCell) (s : Sheet),
    (cells.foldl enter s).valueOf id = s.valueOf id
      ∧ (cells.foldl enter s).dependentsOf id = s.dependentsOf id
  | [], _ => ⟨rfl, rfl⟩
  | c :: cells, s => by
      obtain ⟨hvalue, hdependents⟩ := valueOf_foldl_enter id cells (enter s c)
      rw [List.foldl_cons, hvalue, hdependents]
      cases hid : s.idAt c.position with
      | none => rw [enter_of_idAt_eq_none hid]; exact ⟨rfl, rfl⟩
      | some j =>
        rw [enter_of_idAt hid]
        by_cases hj : id = j
        · subst hj
          cases hcell : s.cell? id <;>
            simp [Sheet.valueOf, Sheet.dependentsOf, Sheet.cell?_modifyCell, hcell]
        · simp [Sheet.valueOf, Sheet.dependentsOf, Sheet.cell?_modifyCell, hj]

/-- **What is restored of a snapshot.** -/
theorem restores_of_restore {snapshot : Snapshot} {t : Sheet} (h : snapshot.restore = .ok t) :
    snapshot.Restores t := by
  obtain ⟨-, -, rfl⟩ := restore_eq_ok_iff.mp h
  obtain ⟨hrows, hcols⟩ := one_le_needed snapshot
  have hgrid := grid_foldl_enter snapshot.cells
    (.blank snapshot.neededRows snapshot.neededCols)
  constructor
  case rows =>
    rw [Sheet.rows, hgrid]
    exact (Sheet.rows_blank _ _).trans (Nat.max_eq_left hrows)
  case cols =>
    rw [Sheet.cols, hgrid]
    exact (Sheet.cols_blank _ _).trans (Nat.max_eq_left hcols)
  case text =>
    intro p
    have htext := textAt?_blank snapshot.neededRows snapshot.neededCols p
    rw [Nat.max_eq_left hrows, Nat.max_eq_left hcols] at htext
    rw [Sheet.textAt?, cellAt_foldl_enter (Sheet.consistent_blank _ _), Option.map_map]
    rw [Sheet.textAt?] at htext
    split at htext
    · rename_i hp
      obtain ⟨cell, hcell, hempty⟩ := Option.map_eq_some_iff.mp htext
      simp [hcell, hempty, hp]
    · rename_i hp
      rw [Option.map_eq_none_iff.mp htext, if_neg hp]
      rfl
  case value =>
    intro id
    rw [(valueOf_foldl_enter id _ _).1]
    exact Sheet.valueOf_blank _ _ id
  case dependents =>
    intro id
    rw [(valueOf_foldl_enter id _ _).2, Sheet.dependentsOf_blank]

/-- Cells within a size need no more than that. -/
theorem needed_eq {snapshot : Snapshot}
    (h : ∀ c ∈ snapshot.cells, c.row < snapshot.rows ∧ c.col < snapshot.cols) :
    snapshot.neededRows = max snapshot.rows 1 ∧ snapshot.neededCols = max snapshot.cols 1 := by
  constructor
  · refine fit_eq_self fun row hrow => ?_
    obtain ⟨c, hc, rfl⟩ := List.mem_map.mp hrow
    exact (h c hc).1.trans_le (Nat.le_max_left _ _)
  · refine fit_eq_self fun col hcol => ?_
    obtain ⟨c, hc, rfl⟩ := List.mem_map.mp hcol
    exact (h c hc).2.trans_le (Nat.le_max_left _ _)

/-- A snapshot within the limit whose cells lie within its size is restored. -/
theorem exists_restore {snapshot : Snapshot}
    (hsize : max snapshot.rows 1 * max snapshot.cols 1 ≤ maxCells)
    (hcells : ∀ c ∈ snapshot.cells, c.row < snapshot.rows ∧ c.col < snapshot.cols) :
    ∃ t, snapshot.restore = .ok t := by
  obtain ⟨hrows, hcols⟩ := needed_eq hcells
  refine ⟨_, restore_eq_ok_iff.mpr ⟨fun c hc => ?_, by rwa [hrows, hcols], rfl⟩⟩
  have hpos : ∀ n, 0 < max n 1 := fun n => Nat.lt_of_lt_of_le Nat.zero_lt_one (Nat.le_max_right _ _)
  obtain ⟨hrow, hcol⟩ := hcells c hc
  exact ⟨(hrow.trans_le (Nat.le_max_left _ 1)).trans_le
      ((Nat.le_mul_of_pos_right _ (hpos _)).trans hsize),
    (hcol.trans_le (Nat.le_max_left _ 1)).trans_le
      ((Nat.le_mul_of_pos_left _ (hpos _)).trans hsize)⟩

/-! ## Capturing -/

/-- **A capture holds the texts that are not empty.** -/
theorem mem_cells_capture (hs : s.Consistent) : c ∈ (capture s).cells ↔
    ∃ cell, s.cellAt c.position = some cell ∧ cell.text ≠ "" ∧ cell.text = c.text := by
  simp only [capture, captureRow, List.mem_flatMap, List.mem_range, List.mem_filterMap]
  constructor
  · rintro ⟨row, -, col, -, h⟩
    split at h
    · rename_i cell hcell
      split at h
      · rename_i htext
        cases h
        exact ⟨cell, hcell, by simpa [Cell.hasText] using htext, rfl⟩
      · cases h
    · cases h
  · rintro ⟨cell, hcell, hne, htext⟩
    obtain ⟨hrow, hcol⟩ := hs.cellAt_isSome_iff.mp (Option.isSome_of_mem hcell)
    refine ⟨c.row, hrow, c.col, hcol, ?_⟩
    rw [StoredCell.position] at hcell
    simp [hcell, Cell.hasText, htext, htext ▸ hne]

/-- Where the stored texts are those of a function that are not empty, a position has the text the
function gives it. -/
theorem lastText?_of_mem_iff (texts : Position → String)
    (h : ∀ c, c ∈ cells ↔ c.text ≠ "" ∧ texts c.position = c.text) (p : Position) :
    (lastText? cells p).getD "" = texts p := by
  rw [lastText?]
  cases hfind : cells.reverse.find? fun c => c.position = p with
  | none =>
    rw [List.find?_eq_none] at hfind
    by_contra hne
    have hmem : (⟨p.row, p.col, texts p⟩ : StoredCell) ∈ cells := (h _).mpr ⟨Ne.symm hne, rfl⟩
    exact hfind _ (List.mem_reverse.mpr hmem) (by simp [StoredCell.position])
  | some c =>
    have hmem := List.mem_reverse.mp (List.mem_of_find?_eq_some hfind)
    have hp : c.position = p := by simpa using List.find?_some hfind
    exact hp ▸ ((h c).mp hmem).2.symm

/-- The text a capture holds for a position is the text there. -/
theorem lastText?_capture (hs : s.Consistent) {cell : Cell} (hcell : s.cellAt p = some cell) :
    (lastText? (capture s).cells p).getD "" = cell.text := by
  have htexts := lastText?_of_mem_iff (fun p => ((s.cellAt p).map Cell.text).getD "")
    (fun c => (mem_cells_capture hs).trans ?_) p
  · simpa [hcell] using htexts
  · constructor
    · rintro ⟨cell, hcell, hne, htext⟩
      exact ⟨htext ▸ hne, by simp [hcell, htext]⟩
    · rintro ⟨hne, htext⟩
      cases hcell : s.cellAt c.position with
      | none => simp [hcell, Ne.symm hne] at htext
      | some cell =>
        rw [hcell] at htext
        exact ⟨cell, rfl, fun h => hne (htext ▸ h), htext⟩

/-- A captured text lies in the grid. -/
theorem lt_of_mem_capture (hs : s.Consistent) (h : c ∈ (capture s).cells) :
    c.row < s.rows ∧ c.col < s.cols := by
  obtain ⟨cell, hcell, -⟩ := (mem_cells_capture hs).mp h
  exact hs.cellAt_isSome_iff.mp (Option.isSome_of_mem hcell)

/-! ## Restoring what was captured -/

section

variable (hs : s.Consistent) (hsize : s.size ≤ maxCells)

include hs hsize

theorem le_maxCells : s.rows ≤ maxCells ∧ s.cols ≤ maxCells := by
  rw [hs.size_eq] at hsize
  exact ⟨(Nat.le_mul_of_pos_right _ hs.cols_pos).trans hsize,
    (Nat.le_mul_of_pos_left _ hs.rows_pos).trans hsize⟩

/-- A sheet within the limit has a snapshot that can be written and read. -/
theorem countable_capture : (capture s).Countable := by
  have hlimit : maxCells < Json.countLimit := by decide
  obtain ⟨hrows, hcols⟩ := le_maxCells hs hsize
  refine ⟨hrows.trans_lt hlimit, hcols.trans_lt hlimit, fun c hc => ?_⟩
  obtain ⟨hrow, hcol⟩ := lt_of_mem_capture hs hc
  exact ⟨(hrow.trans_le hrows).trans hlimit, (hcol.trans_le hcols).trans hlimit⟩

/-- **A sheet within the limit is restored with its size and all its texts.** -/
theorem exists_restore_capture : ∃ t, (capture s).restore = .ok t ∧ t.rows = s.rows
    ∧ t.cols = s.cols ∧ ∀ p, t.textAt? p = s.textAt? p := by
  have hrows : max s.rows 1 = s.rows := Nat.max_eq_left hs.rows_pos
  have hcols : max s.cols 1 = s.cols := Nat.max_eq_left hs.cols_pos
  have hcells : ∀ c ∈ (capture s).cells, c.row < (capture s).rows ∧ c.col < (capture s).cols :=
    fun c hc => lt_of_mem_capture hs hc
  have hlimit : max (capture s).rows 1 * max (capture s).cols 1 ≤ maxCells := by
    show max s.rows 1 * max s.cols 1 ≤ maxCells
    rwa [hrows, hcols, ← hs.size_eq]
  obtain ⟨hneededRows, hneededCols⟩ := needed_eq hcells
  obtain ⟨t, ht⟩ := exists_restore hlimit hcells
  have hrestores := restores_of_restore ht
  refine ⟨t, ht, hrestores.rows.trans (hneededRows.trans hrows),
    hrestores.cols.trans (hneededCols.trans hcols), fun p => ?_⟩
  rw [hrestores.text, hneededRows, hneededCols]
  show (if p.row < max s.rows 1 ∧ p.col < max s.cols 1 then _ else none) = _
  have hsome := hs.cellAt_isSome_iff (p := p)
  rw [hrows, hcols, Sheet.textAt?]
  cases hcell : s.cellAt p with
  | none => exact if_neg fun hp => by simpa [hcell] using hsome.mpr hp
  | some cell => simp [hsome.mp (by rw [hcell]; rfl), lastText?_capture hs hcell]

end

end Snapshot

end Spreadsheet
