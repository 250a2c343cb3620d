import Spreadsheet.Proofs.Console.SaveAndLoad

/-!
# Proofs/Console/SizeLimit — a saved sheet opens again only within the limit

The limit on the number of cells is looked at when a snapshot is restored, and nowhere else: a new
sheet, a line more and a save are never refused for their size.  A file keeps the size of the sheet
that was saved (`Snapshot.size_of_read_write`), and a larger size than the limit is refused
(`Snapshot.le_of_restore`).  So of the sheets that are saved exactly those within the limit can be
opened again (`loaded_iff_size_le`).
-/

namespace Spreadsheet

/-- Only the count that was written is read. -/
theorem Json.eq_of_count?_ofCount {n m : Nat} (h : (Json.ofCount n).count? = some m) : m = n := by
  simp only [Json.ofCount, Json.count?] at h
  split at h
  · rw [← Option.some.inj h, Text.natOfDigits_toDigits]
  · cases h

namespace Snapshot

variable {snapshot snapshot' : Snapshot} {t : Sheet}

/-! ## What is refused -/

/-- What is read of a snapshot that was written has its size. -/
theorem size_of_read_write (h : read snapshot.write = .ok snapshot') :
    snapshot'.rows = snapshot.rows ∧ snapshot'.cols = snapshot.cols := by
  have hfields : snapshot.document.fields? ["rows", "cols", "cells"]
      = some [some (.ofCount snapshot.rows), some (.ofCount snapshot.cols),
        some (.array (snapshot.cells.map cellDocument))] := Json.fields?_ofFields (by simp)
  rw [read, write, Json.read?_prettyText snapshot.proper_document, Option.bind_some] at h
  have hsnapshot : ofDocument? snapshot.document = some snapshot' := by
    cases hd : ofDocument? snapshot.document with
    | none => simp [hd] at h
    | some _ => simpa [hd] using h
  rw [ofDocument?, hfields] at hsnapshot
  obtain ⟨_, ⟨⟩, hsnapshot⟩ := Option.bind_eq_some_iff.mp hsnapshot
  obtain ⟨rows, hrows, hsnapshot⟩ := Option.bind_eq_some_iff.mp hsnapshot
  obtain ⟨cols, hcols, hsnapshot⟩ := Option.bind_eq_some_iff.mp hsnapshot
  obtain ⟨items, -, hsnapshot⟩ := Option.bind_eq_some_iff.mp hsnapshot
  obtain ⟨cells, -, hsnapshot⟩ := Option.bind_eq_some_iff.mp hsnapshot
  cases hsnapshot
  exact ⟨Json.eq_of_count?_ofCount hrows, Json.eq_of_count?_ofCount hcols⟩

/-- **Nothing larger than the limit is restored.** -/
theorem le_of_restore (h : snapshot.restore = .ok t) :
    snapshot.rows * snapshot.cols ≤ maxCells := by
  obtain ⟨-, hsize, -⟩ := restore_eq_ok_iff.mp h
  have hrows : snapshot.rows ≤ snapshot.neededRows := (Nat.le_max_left _ _).trans (le_fit _ _)
  have hcols : snapshot.cols ≤ snapshot.neededCols := (Nat.le_max_left _ _).trans (le_fit _ _)
  exact (Nat.mul_le_mul hrows hcols).trans hsize

end Snapshot

namespace Workbook

variable {σ : Type} {system : FileSystem σ} {files : σ} {file : String}

/-- What is read from the file of a sheet beyond the limit is refused, and the workbook stays. -/
theorem exists_refused (b : Workbook) {s : Sheet} (hs : s.Consistent) (hsize : maxCells < s.size)
    (hread : system.read files file = .ok (Snapshot.capture s).write.toUTF8) :
    ∃ (e : StorageError) (journal : Journal), ((b.replyToLoad file).runWith system files).1
      = .failure b ("load failed: " ++ e.message) journal := by
  rw [runWith_replyToLoad, Storage.runWith_loadSnapshot hread]
  cases hsnapshot : Snapshot.read (Snapshot.capture s).write with
  | error e => exact ⟨e, [], rfl⟩
  | ok snapshot =>
    cases hrestore : snapshot.restore with
    | error e => exact ⟨e, [.loaded snapshot.cells.length file], by simp [hrestore]⟩
    | ok t =>
      obtain ⟨hrows, hcols⟩ := Snapshot.size_of_read_write hsnapshot
      have hle := Snapshot.le_of_restore hrestore
      rw [hrows, hcols] at hle
      rw [hs.size_eq] at hsize
      exact absurd hle (Nat.not_le.mpr hsize)

/-- **Of the sheets that are saved, exactly those within the limit can be opened again** — after any
commands, each of which may find any files.  A larger sheet is saved without a word, and its file is
refused: the workbook stays as it was when it was saved. -/
theorem loaded_iff_size_le (hsystem : system.Durable) (config : Config)
    (history : List (σ × Command)) (files : σ) (file : String) :
    let b := (new config).obey system history
    let saved := (b.execute (.save file)).runWith system files
    let loaded := (saved.1.workbook.execute (.load file)).runWith system saved.2
    saved.1.text = "saved to " ++ file →
      (loaded.1.text = "loaded " ++ file ↔ b.sheet.size ≤ maxCells)
        ∧ (maxCells < b.sheet.size → loaded.1.workbook = saved.1.workbook
          ∧ ∃ e : StorageError, loaded.1.text = "error: " ++ ("load failed: " ++ e.message)) := by
  intro b saved loaded hsaved
  have hb : b.Coherent [] := coherent_obey history (coherent_new config)
  obtain ⟨-, hwrite⟩ := saved_of_text hsaved
  have hread := hsystem hwrite
  have hrefused : maxCells < b.sheet.size → ∃ (e : StorageError) (journal : Journal),
      loaded.1 = .failure saved.1.workbook ("load failed: " ++ e.message) journal := fun hsize =>
    exists_refused saved.1.workbook hb.consistent hsize hread
  refine ⟨⟨fun hloaded => ?_, fun hsize => ?_⟩, fun hsize => ?_⟩
  · by_contra hsize
    obtain ⟨e, journal, heq⟩ := hrefused (Nat.lt_of_not_le hsize)
    rw [heq] at hloaded
    exact failure_ne saved.1.workbook _ journal (by simp [String.toList_append]) hloaded
  · obtain ⟨_, -, -, -, -, hloaded, -⟩ :=
      exists_loaded saved.1.workbook hb.consistent hsize hread
    exact hloaded
  · obtain ⟨e, journal, heq⟩ := hrefused hsize
    rw [heq]
    exact ⟨rfl, e, rfl⟩

/-- In an empty folder every sheet can be saved. -/
theorem saved_empty_folder (b : Workbook) :
    ((b.execute (.save "a")).runWith Folder.system ⟨[]⟩).1.text = "saved to " ++ "a" := by
  have hanswer : (Storage.saveSheet b.sheet "a").runWith Folder.system ⟨[]⟩
      = (.ok (), ⟨[("a", (Snapshot.capture b.sheet).write.toUTF8)]⟩) := by
    rw [Storage.saveSheet, FileTask.runWith_bind, FileTask.runWith_writeFile, write_empty_folder]
    rfl
  show ((b.replyToSave "a").runWith Folder.system ⟨[]⟩).1.text = _
  rw [runWith_replyToSave, hanswer]

/-- A new workbook is saved in an empty folder, and opens again. -/
theorem loaded_iff_size_le_new :
    let saved := ((new {}).execute (.save "a")).runWith Folder.system ⟨[]⟩
    let loaded := (saved.1.workbook.execute (.load "a")).runWith Folder.system saved.2
    saved.1.text = "saved to a"
      ∧ (loaded.1.text = "loaded a" ↔ (new {}).sheet.size ≤ maxCells) := by
  intro saved loaded
  have hsaved : saved.1.text = "saved to " ++ "a" := saved_empty_folder (new {})
  exact ⟨hsaved, (loaded_iff_size_le Folder.durable_system {} [] ⟨[]⟩ "a" hsaved).1⟩

/-- The size of a new workbook is that of its configuration. -/
theorem size_new (config : Config) :
    (new config).sheet.size = max config.rows 1 * max config.cols 1 := by
  rw [(coherent_new config).consistent.size_eq]
  show (Sheet.blank config.rows config.cols).rows * (Sheet.blank config.rows config.cols).cols = _
  rw [Sheet.rows_blank, Sheet.cols_blank]

/-- A new workbook of one row and a million columns and one is saved, and its file is refused. -/
theorem saved_over_limit_not_loaded :
    let b := new { rows := 1, cols := 1000001 }
    let saved := (b.execute (.save "a")).runWith Folder.system ⟨[]⟩
    let loaded := (saved.1.workbook.execute (.load "a")).runWith Folder.system saved.2
    saved.1.text = "saved to a" ∧ loaded.1.text ≠ "loaded a" := by
  intro b saved loaded
  have hsaved : saved.1.text = "saved to " ++ "a" := saved_empty_folder b
  obtain ⟨-, hwrite⟩ := saved_of_text hsaved
  have hsize : maxCells < b.sheet.size := by
    rw [size_new]
    decide
  obtain ⟨e, journal, hloaded⟩ := exists_refused saved.1.workbook (coherent_new _).consistent hsize
    (Folder.durable_system hwrite)
  have hloaded : loaded.1 = _ := hloaded
  rw [hloaded]
  exact ⟨hsaved, failure_ne _ _ journal (by decide)⟩

end Workbook

end Spreadsheet
