import Spreadsheet.Proofs.Number.Words
import Spreadsheet.Proofs.Storage.Captured

/-!
# Proofs/Storage/Exact — restoring is exact, and capturing undoes it

A file may name any numbers that fit in a machine word, so the size of a sheet is worked out with
sums and products that say when they leave that range.  They are refused in the same places and with
the same words as the exact numbers (`WordSnapshot.restore_eq`).  A capture lists the texts of a
sheet in the order of reading (`captures_capture`), and it depends on nothing but the size and the
texts (`capture_congr`); so what was captured once is captured again after it is restored
(`restore_exact`).
-/

namespace Spreadsheet

/-! ## Machine words -/

/-- The word for an exact result, if there is one within the limit. -/
def limited (result : Option UInt64) : Option UInt64 := result.filter (·.toNat ≤ maxCells)

variable {n : Nat} {w : UInt64}

theorem limited_checked_eq_some_iff :
    limited (checked n) = some w ↔ n ≤ maxCells ∧ w.toNat = n := by
  rw [limited, Option.filter_eq_some_iff, checked_eq_some_iff, decide_eq_true_iff, and_comm]
  exact and_congr_left fun h => by rw [h]

/-- **A result is refused exactly beyond the limit**, whether there is a word for it or not. -/
theorem limited_checked_eq_none_iff : limited (checked n) = none ↔ maxCells < n := by
  have hlimit : maxCells < UInt64.size := by decide
  rw [Option.eq_none_iff_forall_ne_some, ← Nat.not_le]
  refine ⟨fun h hle => ?_, fun h w hw => h (limited_checked_eq_some_iff.mp hw).1⟩
  exact h (UInt64.ofNat n) (limited_checked_eq_some_iff.mpr
    ⟨hle, UInt64.toNat_ofNat_of_lt' (hle.trans_lt hlimit)⟩)

theorem toNat_max (a b : UInt64) : (max a b).toNat = max a.toNat b.toNat := by
  show (if a ≤ b then b else a).toNat = _
  rw [apply_ite UInt64.toNat, Nat.max_def]
  simp only [UInt64.le_iff_toNat_le]

/-- A text at a position given in words. -/
structure WordCell where
  row : UInt64
  col : UInt64
  text : String

/-- A snapshot whose numbers are words. -/
structure WordSnapshot where
  rows : UInt64
  cols : UInt64
  cells : List WordCell

/-- The stored cell with the numbers that the words stand for. -/
def WordCell.exact (c : WordCell) : StoredCell := ⟨c.row.toNat, c.col.toNat, c.text⟩

namespace WordSnapshot

/-- The snapshot with the numbers that the words stand for. -/
def exact (words : WordSnapshot) : Snapshot :=
  ⟨words.rows.toNat, words.cols.toNat, words.cells.map WordCell.exact⟩

/-- The count that goes beyond an index, if it is within the limit. -/
def beyond? (index : UInt64) : Option UInt64 := limited (checkedAdd index 1)

/-- The size that holds the stored cells as well, in words. -/
def extent : List WordCell → UInt64 × UInt64 → Except StorageError (UInt64 × UInt64)
  | [], size => .ok size
  | c :: cells, (rows, cols) =>
      match beyond? c.row, beyond? c.col with
      | none, _ => .error (.rowOutOfRange c.row.toNat)
      | some _, none => .error (.columnOutOfRange c.col.toNat)
      | some row, some col => extent cells (max rows row, max cols col)

/-- Builds a sheet by calculating in words. -/
def restore (words : WordSnapshot) : Except StorageError Sheet :=
  match extent words.cells (words.rows, words.cols) with
  | .error e => .error e
  | .ok (rows, cols) =>
      match limited (checkedMul (max rows 1) (max cols 1)) with
      | none => .error (.tooLarge rows.toNat cols.toNat)
      | some _ => .ok (words.exact.cells.foldl Snapshot.enter (.blank rows.toNat cols.toNat))

theorem extent_exact : ∀ (cells : List WordCell) (rows cols : UInt64),
    Snapshot.extent (cells.map WordCell.exact) (rows.toNat, cols.toNat)
      = (extent cells (rows, cols)).map fun size => (size.1.toNat, size.2.toNat)
  | [], _, _ => rfl
  | c :: cells, rows, cols => by
      rw [extent, List.map_cons, Snapshot.extent]
      rcases hrow : beyond? c.row with _ | row
      · exact if_pos (limited_checked_eq_none_iff.mp hrow)
      obtain ⟨hrow, hrow'⟩ := limited_checked_eq_some_iff.mp hrow
      rcases hcol : beyond? c.col with _ | col
      · exact (if_neg (Nat.not_lt.mpr hrow)).trans (if_pos (limited_checked_eq_none_iff.mp hcol))
      · obtain ⟨hcol, hcol'⟩ := limited_checked_eq_some_iff.mp hcol
        have hextent := extent_exact cells (max rows row) (max cols col)
        rw [toNat_max, toNat_max, hrow', hcol'] at hextent
        exact (if_neg (Nat.not_lt.mpr hrow)).trans ((if_neg (Nat.not_lt.mpr hcol)).trans hextent)

/-- **In words a snapshot is restored as it is in exact numbers**, and refused for the same
reason. -/
theorem restore_eq (words : WordSnapshot) : words.restore = words.exact.restore := by
  rw [restore, Snapshot.restore]
  have hextent := extent_exact words.cells words.rows words.cols
  rcases hwords : extent words.cells (words.rows, words.cols) with e | ⟨rows, cols⟩
  · rw [hwords] at hextent
    simp only [exact, hextent, Except.map]
  · rw [hwords] at hextent
    simp only [exact, hextent, Except.map]
    rcases hproduct : limited (checkedMul (max rows 1) (max cols 1)) with _ | product
    · have hlarge := limited_checked_eq_none_iff.mp hproduct
      rw [toNat_max, toNat_max] at hlarge
      exact (if_pos hlarge).symm
    · obtain ⟨hsmall, -⟩ := limited_checked_eq_some_iff.mp hproduct
      rw [toNat_max, toNat_max] at hsmall
      exact (if_neg (Nat.not_lt.mpr hsmall)).symm

end WordSnapshot

/-! ## Captures in the order of reading -/

/-- Reading goes row by row, from left to right. -/
def Position.Before (p q : Position) : Prop := p.row < q.row ∨ p.row = q.row ∧ p.col < q.col

namespace Snapshot

variable {s t : Sheet} {c : StoredCell}

/-- What a snapshot is that was taken of a sheet. -/
structure Captures (snapshot : Snapshot) (s : Sheet) : Prop where
  rows : snapshot.rows = s.rows
  cols : snapshot.cols = s.cols
  /-- Exactly the texts that are not empty are listed. -/
  mem_iff : ∀ c, c ∈ snapshot.cells ↔ c.text ≠ "" ∧ s.textAt? c.position = some c.text
  ordered : snapshot.cells.Pairwise fun c d => c.position.Before d.position

theorem captureRow_eq (s : Sheet) (row : Nat) : captureRow s row =
    (List.range s.cols).filterMap fun col =>
      (s.textAt? ⟨row, col⟩).bind fun text =>
        if text ≠ "" then some ⟨row, col, text⟩ else none := by
  rw [captureRow]
  congr 1
  funext col
  rw [Sheet.textAt?]
  cases s.cellAt ⟨row, col⟩ <;> simp [Cell.hasText]

/-- **A capture depends on the size and the texts alone.** -/
theorem capture_congr (hrows : t.rows = s.rows) (hcols : t.cols = s.cols)
    (htext : ∀ p, t.textAt? p = s.textAt? p) : capture t = capture s := by
  have hrow : captureRow t = captureRow s := by
    funext row
    simp only [captureRow_eq, hcols, htext]
  rw [capture, capture, hrow, hrows, hcols]

theorem row_of_mem_captureRow {row : Nat} (h : c ∈ captureRow s row) : c.row = row := by
  rw [captureRow_eq] at h
  obtain ⟨col, -, hcol⟩ := List.mem_filterMap.mp h
  obtain ⟨text, -, htext⟩ := Option.bind_eq_some_iff.mp hcol
  split at htext <;> cases htext
  rfl

theorem ordered_captureRow (s : Sheet) (row : Nat) :
    (captureRow s row).Pairwise fun c d => c.position.Before d.position := by
  rw [captureRow_eq]
  refine List.Pairwise.filterMap _ ?_ List.pairwise_lt_range
  intro col col' hlt c hc d hd
  obtain ⟨text, -, htext⟩ := Option.bind_eq_some_iff.mp hc
  obtain ⟨text', -, htext'⟩ := Option.bind_eq_some_iff.mp hd
  split at htext <;> cases htext
  split at htext' <;> cases htext'
  exact .inr ⟨rfl, hlt⟩

/-- **A capture lists the texts that are not empty, each once, in the order of reading.** -/
theorem captures_capture (hs : s.Consistent) : (capture s).Captures s where
  rows := rfl
  cols := rfl
  mem_iff c := by
    rw [mem_cells_capture hs, Sheet.textAt?]
    constructor
    · rintro ⟨cell, hcell, hne, htext⟩
      exact ⟨htext ▸ hne, by rw [hcell, Option.map_some, htext]⟩
    · rintro ⟨hne, htext⟩
      obtain ⟨cell, hcell, htext⟩ := Option.map_eq_some_iff.mp htext
      exact ⟨cell, hcell, htext ▸ hne, htext⟩
  ordered := by
    refine List.pairwise_flatMap.mpr ⟨fun row _ => ordered_captureRow s row, ?_⟩
    refine List.pairwise_lt_range.imp fun {row row'} hlt c hc d hd => .inl ?_
    rw [StoredCell.position, StoredCell.position, row_of_mem_captureRow hc,
      row_of_mem_captureRow hd]
    exact hlt

/-! ## There and back -/

/-- A sheet that was restored is within the limit. -/
theorem size_of_restore {snapshot : Snapshot} (h : snapshot.restore = .ok t) :
    t.size ≤ maxCells := by
  have hrestores := restores_of_restore h
  rw [(consistent_restore h).size_eq, hrestores.rows, hrestores.cols]
  exact (restore_eq_ok_iff.mp h).2.1

/-- **Restoring is exact, and capturing undoes it** — calculating in machine words changes nothing;
a snapshot is restored exactly when its cells and its size are within the limit, to a sheet that
just holds them, with the text stored last at each position and no values or dependents; a capture
of it lists its texts in the order of reading, and is captured again after it is restored; and any
sheet within the limit comes back from its capture with its size and its texts. -/
theorem restore_exact (snapshot : Snapshot) :
    (∀ words : WordSnapshot, words.exact = snapshot → words.restore = snapshot.restore)
      ∧ ((∃ t, snapshot.restore = .ok t) ↔
          (∀ c ∈ snapshot.cells, c.row < maxCells ∧ c.col < maxCells)
            ∧ snapshot.neededRows * snapshot.neededCols ≤ maxCells)
      ∧ (∀ t, snapshot.restore = .ok t → snapshot.Restores t ∧ (capture t).Captures t
          ∧ ∃ t', (capture t).restore = .ok t' ∧ capture t' = capture t)
      ∧ ∀ s : Sheet, s.Consistent → s.size ≤ maxCells →
          ∃ t, (capture s).restore = .ok t ∧ t.rows = s.rows ∧ t.cols = s.cols
            ∧ ∀ p, t.textAt? p = s.textAt? p := by
  refine ⟨fun words hwords => hwords ▸ words.restore_eq, ⟨?_, fun ⟨hrange, hsize⟩ => ?_⟩,
    fun t ht => ?_, fun s hs hsize => exists_restore_capture hs hsize⟩
  · rintro ⟨t, ht⟩
    obtain ⟨hrange, hsize, -⟩ := restore_eq_ok_iff.mp ht
    exact ⟨hrange, hsize⟩
  · exact ⟨_, restore_eq_ok_iff.mpr ⟨hrange, hsize, rfl⟩⟩
  · have hcons := consistent_restore ht
    obtain ⟨t', ht', hrows, hcols, htext⟩ := exists_restore_capture hcons (size_of_restore ht)
    exact ⟨restores_of_restore ht, captures_capture hcons, t', ht',
      capture_congr hrows hcols htext⟩

/-- Of two texts at one position the later one is restored, and captured again. -/
theorem restore_exact_duplicate :
    let snapshot : Snapshot := ⟨0, 1, [⟨1, 0, "first"⟩, ⟨1, 0, "second"⟩]⟩
    ∃ t, snapshot.restore = .ok t ∧ t.rows = 2 ∧ t.cols = 1
      ∧ t.textAt? ⟨0, 0⟩ = some "" ∧ t.textAt? ⟨1, 0⟩ = some "second"
      ∧ ⟨1, 0, "second"⟩ ∈ (capture t).cells
      ∧ ∃ t', (capture t).restore = .ok t' ∧ capture t' = capture t := by
  intro snapshot
  obtain ⟨-, hiff, hrestored, -⟩ := restore_exact snapshot
  obtain ⟨t, ht⟩ := hiff.mpr ⟨by decide, by decide⟩
  obtain ⟨hrestores, hcaptures, hagain⟩ := hrestored t ht
  have hsecond : t.textAt? ⟨1, 0⟩ = some "second" := (hrestores.text _).trans (by decide)
  exact ⟨t, ht, hrestores.rows, hrestores.cols, (hrestores.text _).trans (by decide), hsecond,
    (hcaptures.mem_iff _).mpr ⟨by decide, hsecond⟩, hagain⟩

end Snapshot

end Spreadsheet
