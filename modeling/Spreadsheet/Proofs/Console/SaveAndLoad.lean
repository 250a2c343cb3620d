import Spreadsheet.Proofs.Console.Commands
import Spreadsheet.Proofs.Recalculation.Alike
import Spreadsheet.Proofs.Storage.Captured

/-!
# Proofs/Console/SaveAndLoad — a saved sheet opens as it was

Saving stores the size of a sheet and its texts, and opening evaluates them anew on cells with other
ids.  Nothing is lost on the way: the file gives back the snapshot, the snapshot the texts, and the
texts the values, since nothing was pending when they were saved (`coherent_obey`) and what is shown
then is a function of the texts by position (`Sheet.Alike.valueAt?_eq`).
-/

namespace Spreadsheet

namespace Workbook

variable {σ : Type} {system : FileSystem σ} {b : Workbook} {files files' : σ} {file : String}

/-! ## Saving -/

/-- The first letter tells a failure from another answer. -/
theorem failure_ne (b : Workbook) (message : String) (journal : Journal) {answer : String}
    (h : answer.toList.head? ≠ some 'e') : (Reply.failure b message journal).text ≠ answer := by
  intro heq
  exact h (heq ▸ head?_error message)

/-- A save that is reported has written the file. -/
theorem saved_of_text
    (h : ((b.replyToSave file).runWith system files).1.text = "saved to " ++ file) :
    ((b.replyToSave file).runWith system files).1.workbook = b.markSaved file
      ∧ system.write files file (Snapshot.capture b.sheet).write.toUTF8
        = (.ok (), ((b.replyToSave file).runWith system files).2) := by
  rw [runWith_replyToSave] at h ⊢
  cases hanswer : ((Storage.saveSheet b.sheet file).runWith system files).1 with
  | ok _ => exact ⟨rfl, Storage.write_of_saveSheet (Prod.ext hanswer rfl)⟩
  | error e =>
    rw [hanswer] at h
    exact absurd h (failure_ne b _ _ (by simp [String.toList_append]))

/-! ## Loading -/

/-- What is loaded from the file of a saved sheet within the limit: a sheet of its size, with its
texts. -/
theorem exists_loaded (b : Workbook) {s : Sheet} (hs : s.Consistent) (hsize : s.size ≤ maxCells)
    (hread : system.read files file = .ok (Snapshot.capture s).write.toUTF8) :
    ∃ t, t.Consistent ∧ t.rows = s.rows ∧ t.cols = s.cols ∧ (∀ p, t.textAt? p = s.textAt? p)
      ∧ ((b.replyToLoad file).runWith system files).1.text = "loaded " ++ file
      ∧ ((b.replyToLoad file).runWith system files).1.workbook
        = (b.replaceSheet t (some file)).2 := by
  obtain ⟨t, hrestore, hrows, hcols, htext⟩ := Snapshot.exists_restore_capture hs hsize
  refine ⟨t, Snapshot.consistent_restore hrestore, hrows, hcols, htext, ?_⟩
  rw [runWith_replyToLoad, Storage.runWith_loadSnapshot hread,
    Snapshot.read_write (Snapshot.countable_capture hs hsize)]
  simp [hrestore]

end Workbook

end Spreadsheet
