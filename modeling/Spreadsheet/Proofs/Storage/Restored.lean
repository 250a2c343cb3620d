import Spreadsheet.Proofs.Sheet.Consistent
import Spreadsheet.Storage.Table

/-!
# Proofs/Storage/Restored — sheets from files are consistent

A sheet is built from a file by entering the stored texts one by one into a new sheet, which is the
smallest that has the size given and a place for every text; it is refused if it or a place is
beyond the limit (`restore_eq_ok_iff`).  Each entry keeps the sheet consistent, so whatever the file
holds, a workbook takes over a consistent sheet.
-/

namespace Spreadsheet

variable {s : Sheet}

namespace Snapshot

/-! ## The size of a restored sheet -/

/-- The least count that is at least the given one and goes beyond every listed index. -/
def fit (count : Nat) (indices : List Nat) : Nat :=
  indices.foldl (fun count index => max count (index + 1)) count

variable {count bound : Nat} {indices : List Nat} {snapshot : Snapshot}

theorem fit_le_iff : ∀ {indices : List Nat} {count : Nat},
    fit count indices ≤ bound ↔ count ≤ bound ∧ ∀ index ∈ indices, index < bound
  | [], _ => by simp [fit]
  | index :: indices, count => by
      show fit (max count (index + 1)) indices ≤ bound ↔ _
      rw [fit_le_iff, Nat.max_le, List.forall_mem_cons, and_assoc, Nat.succ_le_iff]

theorem le_fit (count : Nat) (indices : List Nat) : count ≤ fit count indices :=
  (fit_le_iff.mp (Nat.le_refl _)).1

theorem fit_eq_self (h : ∀ index ∈ indices, index < count) : fit count indices = count :=
  Nat.le_antisymm (fit_le_iff.mpr ⟨Nat.le_refl _, h⟩) (le_fit _ _)

theorem max_fit (count : Nat) (indices : List Nat) :
    max (fit count indices) 1 = fit (max count 1) indices := by
  have hle : ∀ bound, max (fit count indices) 1 ≤ bound ↔ fit (max count 1) indices ≤ bound := by
    intro bound
    rw [Nat.max_le, fit_le_iff, fit_le_iff, Nat.max_le, and_right_comm]
  exact Nat.le_antisymm ((hle _).mpr (Nat.le_refl _)) ((hle _).mp (Nat.le_refl _))

/-- The rows of a sheet with a place for every stored cell. -/
def neededRows (snapshot : Snapshot) : Nat :=
  fit (max snapshot.rows 1) (snapshot.cells.map StoredCell.row)

/-- The columns of a sheet with a place for every stored cell. -/
def neededCols (snapshot : Snapshot) : Nat :=
  fit (max snapshot.cols 1) (snapshot.cells.map StoredCell.col)

/-- No stored cell is beyond the limit on either axis. -/
def InRange (snapshot : Snapshot) : Prop :=
  ∀ c ∈ snapshot.cells, c.row < maxCells ∧ c.col < maxCells

/-- **Stored cells within the limit extend a size to the least one that holds them.** -/
theorem extent_eq_ok_iff : ∀ {cells : List StoredCell} {rows cols : Nat} {size : Nat × Nat},
    extent cells (rows, cols) = .ok size ↔ (∀ c ∈ cells, c.row < maxCells ∧ c.col < maxCells)
      ∧ size = (fit rows (cells.map StoredCell.row), fit cols (cells.map StoredCell.col))
  | [], rows, cols, size => by simp [extent, fit, eq_comm]
  | c :: cells, rows, cols, size => by
      rw [extent, List.forall_mem_cons]
      by_cases hrow : maxCells < c.row + 1
      · rw [if_pos hrow]
        exact ⟨nofun, fun h => absurd h.1.1.1 (by omega)⟩
      · by_cases hcol : maxCells < c.col + 1
        · rw [if_neg hrow, if_pos hcol]
          exact ⟨nofun, fun h => absurd h.1.1.2 (by omega)⟩
        · have hc : c.row < maxCells ∧ c.col < maxCells := by omega
          rw [if_neg hrow, if_neg hcol, extent_eq_ok_iff, eq_true hc, true_and]
          rfl

/-- **A sheet is restored exactly when every stored cell and its size are within the limit**; it is
a new sheet with the stored texts entered. -/
theorem restore_eq_ok_iff : snapshot.restore = .ok s ↔ snapshot.InRange
    ∧ snapshot.neededRows * snapshot.neededCols ≤ maxCells
    ∧ s = snapshot.cells.foldl enter (.blank snapshot.neededRows snapshot.neededCols) := by
  have hblank : ∀ rows cols, Sheet.blank (max rows 1) (max cols 1) = .blank rows cols := by
    simp [Sheet.blank]
  rw [restore, neededRows, neededCols, ← max_fit, ← max_fit, hblank]
  rcases hextent : extent snapshot.cells (snapshot.rows, snapshot.cols) with e | ⟨rows, cols⟩
  · refine ⟨by rintro ⟨⟩, fun h => ?_⟩
    rw [extent_eq_ok_iff.mpr ⟨h.1, rfl⟩] at hextent
    cases hextent
  · obtain ⟨hrange, hsize⟩ := extent_eq_ok_iff.mp hextent
    obtain ⟨rfl, rfl⟩ := Prod.mk.inj hsize
    dsimp only
    split
    · rename_i hlarge
      exact ⟨by rintro ⟨⟩, fun h => absurd h.2.1 (Nat.not_le.mpr hlarge)⟩
    · rename_i hsmall
      refine ⟨fun h => ⟨hrange, Nat.le_of_not_lt hsmall, (Except.ok.inj h).symm⟩, ?_⟩
      rintro ⟨-, -, rfl⟩
      rfl

/-! ## Consistency -/

/-- A text at a position the sheet does not have is left out. -/
theorem consistent_enter (hs : s.Consistent) (c : StoredCell) : (enter s c).Consistent := by
  rw [enter]
  split
  · exact hs.enterText _ c.text
  · exact hs

theorem consistent_foldl_enter : ∀ {cells : List StoredCell} {s : Sheet},
    s.Consistent → (cells.foldl enter s).Consistent
  | [], _, hs => hs
  | c :: _, s, hs => consistent_foldl_enter (s := enter s c) (consistent_enter hs c)

/-- **A sheet restored from a snapshot is consistent.** -/
theorem consistent_restore (h : snapshot.restore = .ok s) :
    s.Consistent := by
  obtain ⟨-, -, rfl⟩ := restore_eq_ok_iff.mp h
  exact consistent_foldl_enter (Sheet.consistent_blank _ _)

end Snapshot

/-- **A sheet built from a table is consistent.** -/
theorem Table.consistent_toSheet {records : List (List (List Char))}
    (h : Table.toSheet records = .ok s) : s.Consistent := by
  cases records with
  | nil => simp [Table.toSheet] at h
  | cons record records => exact Snapshot.consistent_restore h

end Spreadsheet
