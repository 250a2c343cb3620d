import Spreadsheet.Proofs.Storage.Captured
import Spreadsheet.Proofs.Storage.FileSystem
import Spreadsheet.Proofs.Storage.Tables

/-!
# Proofs/Storage/Imported — an exported sheet is imported as it was, with one exception

The sheet a table makes has a row for each record, is as wide as the longest one, and has the fields
as its texts (`Table.toSheet_eq_ok`).  An exported sheet within the limit is therefore imported with
its size and its texts, as long as its table is read back — and where the first text loses the mark
in front of it, either that text comes back without the mark or the first row is gone
(`Storage.importTable_exported`).
-/

namespace Spreadsheet

variable {s t : Sheet} {p : Position}

namespace Table

variable {records : List (List (List Char))} {c : StoredCell}

/-! ## The sheet of a table -/

/-- The field at a position. -/
def fieldAt? (records : List (List (List Char))) (p : Position) : Option (List Char) :=
  (records[p.row]?).bind (·[p.col]?)

/-- **What is stored of a table are its fields that are not empty.** -/
theorem mem_cells_snapshot : c ∈ (snapshot records).cells ↔
    c.text ≠ "" ∧ fieldAt? records c.position = some c.text.toList := by
  obtain ⟨row, col, text⟩ := c
  simp only [snapshot, storedRow, List.mem_flatMap, Prod.exists, List.mem_zipIdx_iff_getElem?,
    List.mem_filterMap, fieldAt?, StoredCell.position, Option.bind_eq_some_iff]
  constructor
  · rintro ⟨record, row', hrow, field, col', hcol, h⟩
    split at h
    · cases h
    · rename_i hne
      cases h
      exact ⟨by simpa using hne, record, hrow, by simpa using hcol⟩
  · rintro ⟨hne, record, hrow, hcol⟩
    have hne' : text.toList ≠ [] := by simpa using hne
    exact ⟨record, row, hrow, text.toList, col, hcol, by simp [hne']⟩

/-- The text stored for a position is the field there. -/
theorem lastText?_snapshot (records : List (List (List Char))) (p : Position) :
    (Snapshot.lastText? (snapshot records).cells p).getD ""
      = String.ofList ((fieldAt? records p).getD []) := by
  refine Snapshot.lastText?_of_mem_iff (fun p => String.ofList ((fieldAt? records p).getD []))
    (fun c => mem_cells_snapshot.trans (and_congr_right fun hne => ?_)) p
  cases fieldAt? records c.position with
  | none => simp [Ne.symm hne]
  | some field =>
    rw [Option.getD_some, Option.some.injEq, ← String.toList_inj, String.toList_ofList]

theorem foldl_max_le_iff {m : Nat} : ∀ {records : List (List (List Char))} {n : Nat},
    records.foldl (fun cols record => max cols record.length) n ≤ m ↔
      n ≤ m ∧ ∀ record ∈ records, record.length ≤ m
  | [], _ => by simp
  | record :: records, n => by
      rw [List.foldl_cons, foldl_max_le_iff, Nat.max_le, List.forall_mem_cons, and_assoc]

/-- A table is as wide as its longest record. -/
theorem cols_snapshot_le_iff {m : Nat} :
    (snapshot records).cols ≤ m ↔ ∀ record ∈ records, record.length ≤ m :=
  foldl_max_le_iff.trans (and_iff_right (Nat.zero_le m))

/-- What is stored of a table lies within its size. -/
theorem lt_of_mem_snapshot (h : c ∈ (snapshot records).cells) :
    c.row < (snapshot records).rows ∧ c.col < (snapshot records).cols := by
  obtain ⟨-, hfield⟩ := mem_cells_snapshot.mp h
  obtain ⟨record, hrow, hcol⟩ := Option.bind_eq_some_iff.mp hfield
  have hlength := cols_snapshot_le_iff.mp (Nat.le_refl _) record (List.mem_of_getElem? hrow)
  exact ⟨(List.getElem?_eq_some_iff.mp hrow).1,
    (List.getElem?_eq_some_iff.mp hcol).1.trans_le hlength⟩

theorem rows_snapshot (hne : records ≠ []) : max (snapshot records).rows 1 = records.length :=
  Nat.max_eq_left (List.length_pos_of_ne_nil hne)

/-- **The sheet a table makes**: a row for each record, as wide as the longest one, and the fields
as texts. -/
theorem toSheet_eq_ok (h : toSheet records = .ok t) :
    t.rows = records.length ∧ t.cols = max (snapshot records).cols 1
      ∧ ∀ p, t.textAt? p = if p.row < t.rows ∧ p.col < t.cols then
          some (String.ofList ((fieldAt? records p).getD [])) else none := by
  cases records with
  | nil => cases h
  | cons record records =>
    have hrestores := Snapshot.restores_of_restore h
    obtain ⟨hrows, hcols⟩ := Snapshot.needed_eq fun c => lt_of_mem_snapshot
    refine ⟨hrestores.rows.trans (hrows.trans (rows_snapshot (by simp))),
      hrestores.cols.trans hcols, fun p => ?_⟩
    rw [hrestores.text, lastText?_snapshot, hrestores.rows, hrestores.cols]

/-- A table within the limit makes a sheet. -/
theorem exists_toSheet (hne : records ≠ [])
    (hsize : records.length * max (snapshot records).cols 1 ≤ maxCells) :
    ∃ t, toSheet records = .ok t := by
  cases records with
  | nil => exact absurd rfl hne
  | cons record records =>
    exact Snapshot.exists_restore (by rwa [rows_snapshot hne]) fun c => lt_of_mem_snapshot

/-! ## The table of a sheet -/

theorem length_ofSheet (s : Sheet) : (ofSheet s).length = s.rows := by simp [ofSheet]

theorem length_of_mem_ofSheet {record : List (List Char)} (h : record ∈ ofSheet s) :
    record.length = s.cols := by
  obtain ⟨row, -, rfl⟩ := List.mem_map.mp h
  simp

theorem ofSheet_ne_nil (hs : s.Consistent) : ofSheet s ≠ [] :=
  List.ne_nil_of_length_pos (by rw [length_ofSheet]; exact hs.rows_pos)

theorem fieldAt?_ofSheet (hs : s.Consistent) (p : Position) :
    fieldAt? (ofSheet s) p = (s.textAt? p).map String.toList := by
  have hsome := hs.cellAt_isSome_iff (p := p)
  rw [Sheet.textAt?, fieldAt?, ofSheet, List.getElem?_map]
  cases hcell : s.cellAt p with
  | none =>
    rw [hcell] at hsome
    by_cases hrow : p.row < s.rows
    · have hcol : ¬ p.col < s.cols := fun hcol => by simpa using hsome.mpr ⟨hrow, hcol⟩
      simp [hrow, hcol]
    · simp [hrow]
  | some cell =>
    obtain ⟨hrow, hcol⟩ := hsome.mp (by rw [hcell]; rfl)
    simp [hrow, hcol, hcell]

/-- The table of a sheet is as wide as the sheet. -/
theorem cols_snapshot_ofSheet (hs : s.Consistent) : (snapshot (ofSheet s)).cols = s.cols := by
  obtain ⟨record, hrecord⟩ := List.exists_mem_of_ne_nil _ (ofSheet_ne_nil hs)
  refine Nat.le_antisymm ?_ ?_
  · exact cols_snapshot_le_iff.mpr fun record h => (length_of_mem_ofSheet h).le
  · exact length_of_mem_ofSheet hrecord ▸ cols_snapshot_le_iff.mp (Nat.le_refl _) record hrecord

/-- **The table of a sheet within the limit makes a sheet of its size, with its texts.** -/
theorem exists_toSheet_ofSheet (hs : s.Consistent) (hsize : s.size ≤ maxCells) :
    ∃ t, toSheet (ofSheet s) = .ok t ∧ t.rows = s.rows ∧ t.cols = s.cols
      ∧ ∀ p, t.textAt? p = s.textAt? p := by
  have hcols : max (snapshot (ofSheet s)).cols 1 = s.cols := by
    rw [cols_snapshot_ofSheet hs]
    exact Nat.max_eq_left hs.cols_pos
  obtain ⟨t, ht⟩ := exists_toSheet (ofSheet_ne_nil hs) (by rwa [length_ofSheet, hcols, ← hs.size_eq])
  obtain ⟨hrows, hcols', htext⟩ := toSheet_eq_ok ht
  rw [length_ofSheet] at hrows
  rw [hcols] at hcols'
  refine ⟨t, ht, hrows, hcols', fun p => ?_⟩
  have hsome := hs.cellAt_isSome_iff (p := p)
  rw [htext, hrows, hcols', fieldAt?_ofSheet hs, Sheet.textAt?]
  cases hcell : s.cellAt p with
  | none => exact if_neg fun hp => by simpa [hcell] using hsome.mpr hp
  | some cell => simp [hsome.mp (by rw [hcell]; rfl)]

/-- The table of a sheet begins with the text of the first cell. -/
theorem exists_ofSheet (hs : s.Consistent) : ∃ text fields table,
    s.textAt? ⟨0, 0⟩ = some text ∧ ofSheet s = (text.toList :: fields) :: table := by
  obtain ⟨cell, hcell⟩ := Option.isSome_iff_exists.mp
    (hs.cellAt_isSome_iff (p := ⟨0, 0⟩).mpr ⟨hs.rows_pos, hs.cols_pos⟩)
  have htext : s.textAt? ⟨0, 0⟩ = some cell.text := by rw [Sheet.textAt?, hcell]; rfl
  have hfield := fieldAt?_ofSheet hs ⟨0, 0⟩
  rw [htext, fieldAt?] at hfield
  obtain ⟨record, hrecord, hfirst⟩ := Option.bind_eq_some_iff.mp hfield
  cases htable : ofSheet s with
  | nil => simp [htable] at hrecord
  | cons first table =>
    rw [htable] at hrecord
    obtain rfl : first = record := by simpa using hrecord
    cases first with
    | nil => simp at hfirst
    | cons field fields =>
      obtain rfl : field = cell.text.toList := by simpa using hfirst
      exact ⟨cell.text, fields, table, htext, rfl⟩

/-- No record of the table of a sheet is empty. -/
theorem ne_nil_of_mem_ofSheet (hs : s.Consistent) {record : List (List Char)}
    (h : record ∈ ofSheet s) : record ≠ [] :=
  List.ne_nil_of_length_pos (length_of_mem_ofSheet h ▸ hs.cols_pos)

variable {text : String}

/-- **What is written of a sheet is read back, unless its first text loses the mark.** -/
theorem read_write_ofSheet (hs : s.Consistent) (htext : s.textAt? ⟨0, 0⟩ = some text)
    (hmark : ¬ LosesMark text.toList) : read (write (ofSheet s)) = ofSheet s := by
  obtain ⟨_, fields, table, hfirst, htable⟩ := exists_ofSheet hs
  obtain rfl := Option.some.inj (htext.symm.trans hfirst)
  have hne : ∀ record ∈ ofSheet s, record ≠ [] := fun _ => ne_nil_of_mem_ofSheet hs
  rw [htable] at hne ⊢
  exact read_write hne hmark

/-- **A sheet whose first text loses the mark is never read back**: the first row is gone, or the
first text has changed. -/
theorem textAt?_ne_of_losesMark (hs : s.Consistent) (htext : s.textAt? ⟨0, 0⟩ = some text)
    (hmark : LosesMark text.toList) (h : toSheet (read (write (ofSheet s))) = .ok t)
    (hrows : t.rows = s.rows) : t.textAt? ⟨0, 0⟩ ≠ s.textAt? ⟨0, 0⟩ := by
  obtain ⟨_, fields, table, hfirst, htable⟩ := exists_ofSheet hs
  obtain rfl := Option.some.inj (htext.symm.trans hfirst)
  obtain ⟨rest, hrest⟩ := isPrefixOf_orderMark.mp hmark.1
  have hne : ∀ record ∈ ofSheet s, record ≠ [] := fun _ => ne_nil_of_mem_ofSheet hs
  have hlength := length_ofSheet s
  rw [hrest] at hmark
  rw [htable, hrest] at h hne hlength
  rw [read_write_of_losesMark (List.forall_mem_cons.mp hne).2 hmark] at h
  obtain ⟨hrows', hcols', htexts⟩ := toSheet_eq_ok h
  split at hrows'
  · rw [← hlength, hrows', List.length_cons] at hrows
    omega
  · rename_i hblank
    rw [if_neg hblank] at htexts
    have hcols : 0 < t.cols := hcols' ▸ Nat.lt_of_lt_of_le Nat.zero_lt_one (Nat.le_max_right _ _)
    rw [htexts, if_pos ⟨by rw [hrows']; exact Nat.zero_lt_succ _, hcols⟩, htext]
    intro heq
    have hchars : rest = text.toList := by
      simpa [fieldAt?] using congrArg String.toList (Option.some.inj heq)
    simp [← hchars] at hrest

end Table

/-! ## Exporting and importing -/

namespace Storage

variable {σ : Type} {system : FileSystem σ} {files files' : σ} {path : String}

/-- A sheet is exported when its table is written. -/
theorem write_of_exportTable (h : (exportTable s path).runWith system files = (.ok (), files')) :
    system.write files path (String.ofList (Table.write (Table.ofSheet s))).toUTF8
      = (.ok (), files') :=
  write_of_reported .tableFile h

/-- A text in a file is imported as a table. -/
theorem runWith_importTable {text : String} (h : system.read files path = .ok text.toUTF8) :
    ((importTable path).runWith system files).1 = Table.toSheet (Table.read text.toList) := by
  rw [importTable, FileTask.runWith_bind, FileTask.runWith_readFile, h]
  dsimp only
  rw [Table.readFile?, fromUTF8?_toUTF8]
  rfl

/-- **An exported sheet is imported with its size and its texts, unless the text of the first cell
begins with the mark and stands without quotes** — then it never is. -/
theorem importTable_exported (hsystem : system.Durable) (hs : s.Consistent)
    (hsize : s.size ≤ maxCells)
    (h : (exportTable s path).runWith system files = (.ok (), files')) :
    (∃ t, ((importTable path).runWith system files').1 = .ok t ∧ t.rows = s.rows ∧ t.cols = s.cols
        ∧ ∀ p, t.textAt? p = s.textAt? p) ↔
      ¬ ∃ text, s.textAt? ⟨0, 0⟩ = some text ∧ (∃ rest, text.toList = Char.ofNat 0xFEFF :: rest)
        ∧ ∀ c ∈ text.toList, c ≠ ',' ∧ c ≠ '"' ∧ c ≠ '\n' ∧ c ≠ '\r' := by
  have hread := hsystem (write_of_exportTable h)
  rw [runWith_importTable hread, String.toList_ofList]
  constructor
  · rintro ⟨t, ht, hrows, -, htexts⟩ ⟨text, htext, hmark⟩
    exact Table.textAt?_ne_of_losesMark hs htext (Table.losesMark_iff.mpr hmark) ht hrows
      (htexts ⟨0, 0⟩)
  · intro hmark
    obtain ⟨text, -, -, htext, -⟩ := Table.exists_ofSheet hs
    have hkept : ¬ Table.LosesMark text.toList := fun hloses =>
      hmark ⟨text, htext, Table.losesMark_iff.mp hloses⟩
    rw [Table.read_write_ofSheet hs htext hkept]
    exact Table.exists_toSheet_ofSheet hs hsize

/-- A text with a comma, quotes and a line break above an empty row is exported and imported. -/
theorem importTable_exported_quoted_text :
    let s := Snapshot.enter (.blank 2 1) ⟨0, 0, "a, \"b\"\n"⟩
    let exported := (exportTable s "a").runWith Folder.system ⟨[]⟩
    s.Consistent ∧ s.size ≤ maxCells ∧ exported.1 = .ok ()
      ∧ ∃ t, ((importTable "a").runWith Folder.system exported.2).1 = .ok t ∧ t.rows = s.rows
        ∧ t.cols = s.cols ∧ ∀ p, t.textAt? p = s.textAt? p := by
  intro s exported
  have hs : s.Consistent := Snapshot.consistent_enter (Sheet.consistent_blank 2 1) _
  have hsize : s.size ≤ maxCells := by decide +kernel
  have hexported : exported
      = (.ok (), ⟨[("a", (String.ofList (Table.write (Table.ofSheet s))).toUTF8)]⟩) := by
    show (exportTable s "a").runWith Folder.system ⟨[]⟩ = _
    rw [exportTable, FileTask.runWith_bind, FileTask.runWith_writeFile, write_empty_folder]
    rfl
  have htext : s.textAt? ⟨0, 0⟩ = some "a, \"b\"\n" := by decide +kernel
  have hkept : ¬ ∃ text, s.textAt? ⟨0, 0⟩ = some text
      ∧ (∃ rest, text.toList = Char.ofNat 0xFEFF :: rest)
      ∧ ∀ c ∈ text.toList, c ≠ ',' ∧ c ≠ '"' ∧ c ≠ '\n' ∧ c ≠ '\r' := by
    rintro ⟨text, htext', -, hplain⟩
    obtain rfl := Option.some.inj (htext.symm.trans htext')
    exact (hplain ',' (by decide)).1 rfl
  rw [hexported]
  exact ⟨hs, hsize, rfl,
    (importTable_exported Folder.durable_system hs hsize hexported).mpr hkept⟩

end Storage

end Spreadsheet
