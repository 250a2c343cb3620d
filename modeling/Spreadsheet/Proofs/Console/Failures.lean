import Spreadsheet.Proofs.Console.Commands
import Spreadsheet.Proofs.Sheet.Names
import Spreadsheet.Proofs.Workbook.InPlace

/-!
# Proofs/Console/Failures — a command that fails changes nothing

What a command answers begins with `error: ` only if the workbook is as it was.  Not every answer with
an error in it begins so: a text that is entered and cannot be evaluated is reported behind the lines
of the cells that were evaluated, and the first of these begins with the name of a cell.  No name
begins with a small letter, and so the first letter of the answer tells the two apart
(`honest_execute`).
-/

namespace Spreadsheet

variable {σ : Type} {system : FileSystem σ} {files : σ} {b b' : Workbook}

/-! ## How answers begin -/

/-- Whether a text begins with another letter than that of an error. -/
def BeginsWell (text : String) : Prop := ∃ c cs, text.toList = c :: cs ∧ c ≠ 'e'

theorem BeginsWell.append {text : String} (h : BeginsWell text) (rest : String) :
    BeginsWell (text ++ rest) := by
  obtain ⟨c, cs, htext, hc⟩ := h
  exact ⟨c, cs ++ rest.toList, by rw [String.toList_append, htext, List.cons_append], hc⟩

theorem BeginsWell.ne_error {text : String} (h : BeginsWell text) (message : String) :
    text ≠ "error: " ++ message := by
  rintro rfl
  obtain ⟨c, cs, htext, hc⟩ := h
  have hhead := Workbook.head?_error message
  rw [htext] at hhead
  exact hc (Option.some.inj hhead)

/-- A name begins with a capital letter, and what stands for a name that is gone with a sign. -/
theorem Sheet.beginsWell_nameOf (s : Sheet) (id : CellId) : BeginsWell (s.nameOf id) := by
  rw [nameOf]
  split
  · rename_i cell _
    obtain ⟨c, cs, hletters⟩ := List.exists_cons_of_ne_nil (columnLetters_ne_nil cell.position.col)
    refine ⟨c, cs ++ Nat.toDigits 10 (cell.position.row + 1), ?_, ?_⟩
    · rw [Cell.name, Position.name, String.toList_ofList, Position.nameChars, hletters,
        List.cons_append]
    · rintro rfl
      have hupper := isUpper_of_mem_columnLetters (hletters ▸ List.mem_cons_self)
      revert hupper
      decide
  · exact ⟨'#', _, String.toList_append, by decide⟩

/-- A report begins with the name of the cell. -/
theorem CommitReport.beginsWell_text {report : CommitReport} (h : BeginsWell report.cell.name) :
    BeginsWell report.text := by
  rw [text, updates, List.map_cons, List.cons_append, CellUpdate.line, String.append_assoc,
    String.intercalate_cons_append]
  exact h.append _

namespace Workbook

/-- **The answer to a text that is entered is no error**, even if it reports one. -/
theorem beginsWell_text_edit {name text : String} {report : CommitReport}
    (h : b.edit name text = .ok (report, b')) : BeginsWell report.text := by
  obtain ⟨entered, -, hcommit⟩ := edit_eq_ok_iff.mp h
  obtain ⟨id, -, rfl, -⟩ := commit_eq_ok_iff.mp hcommit
  exact CommitReport.beginsWell_text (Sheet.beginsWell_nameOf _ id)

/-! ## Replies -/

/-- A reply that changes the workbook begins well. -/
def Honest (b : Workbook) (reply : Reply) : Prop := reply.workbook = b ∨ BeginsWell reply.text

theorem honest_failure (b : Workbook) (message : String) (journal : Journal) :
    b.Honest (.failure b message journal) := .inl rfl

theorem honest_replyToSet (b : Workbook) (cell text : String) :
    b.Honest (b.replyToSet cell text) := by
  rw [replyToSet]
  split
  · rename_i hedit
    exact .inr (beginsWell_text_edit hedit)
  · exact honest_failure b _ _

theorem honest_replyToResize (b : Workbook)
    (result : Except SheetError (Recalculation × Workbook)) :
    b.Honest (b.replyToResize result) := by
  have hsheet : BeginsWell "sheet is now " := ⟨'s', _, rfl, by decide⟩
  cases result with
  | ok => exact .inr (((hsheet.append _).append _).append _)
  | error => exact honest_failure b _ _

theorem honest_replyToSave (b : Workbook) (file : String) (files : σ) :
    b.Honest ((b.replyToSave file).runWith system files).1 := by
  have hsaved : BeginsWell "saved to " := ⟨'s', _, rfl, by decide⟩
  rw [runWith_replyToSave]
  cases ((Storage.saveSheet b.sheet file).runWith system files).1 with
  | ok => exact .inr (hsaved.append file)
  | error => exact honest_failure b _ _

theorem honest_replyToLoad (b : Workbook) (file : String) (files : σ) :
    b.Honest ((b.replyToLoad file).runWith system files).1 := by
  have hloaded : BeginsWell "loaded " := ⟨'l', _, rfl, by decide⟩
  rw [runWith_replyToLoad]
  dsimp only
  split
  · exact honest_failure b _ _
  · split
    · exact honest_failure b _ _
    · exact .inr (hloaded.append file)

theorem honest_replyToExport (b : Workbook) (file : String) (files : σ) :
    b.Honest ((b.replyToExport file).runWith system files).1 := by
  rw [replyToExport, FileTask.runWith_bind]
  cases ((Storage.exportTable b.sheet file).runWith system files).1 <;> exact .inl rfl

theorem honest_replyToImport (b : Workbook) (file : String) (files : σ) :
    b.Honest ((b.replyToImport file).runWith system files).1 := by
  have himported : BeginsWell "imported " := ⟨'i', _, rfl, by decide⟩
  rw [runWith_replyToImport]
  cases ((Storage.importTable file).runWith system files).1 with
  | ok => exact .inr (himported.append file)
  | error => exact honest_failure b _ _

/-- **Every command keeps the workbook or answers no error.** -/
theorem honest_execute (b : Workbook) (command : Command) (files : σ) :
    b.Honest ((b.execute command).runWith system files).1 := by
  cases command with
  | set cell text => exact honest_replyToSet b cell text
  | get cell => exact .inl (workbook_replyToGet b cell)
  | recalculate =>
    have hrecalculated : BeginsWell "recalculated " := ⟨'r', _, rfl, by decide⟩
    exact .inr ((hrecalculated.append _).append _)
  | addRow => exact honest_replyToResize b b.addRow
  | addColumn => exact honest_replyToResize b b.addColumn
  | deleteRow => exact honest_replyToResize b b.deleteRow
  | deleteColumn => exact honest_replyToResize b b.deleteColumn
  | newSheet =>
    have hnew : BeginsWell "new sheet" := ⟨'n', _, rfl, by decide⟩
    exact .inr hnew
  | save file => exact honest_replyToSave b file files
  | load file => exact honest_replyToLoad b file files
  | exportTable file => exact honest_replyToExport b file files
  | importTable file => exact honest_replyToImport b file files
  | display | help | quit => exact .inl rfl

/-! ## Failures -/

/-- A command that makes a request leaves the workbook as the method does that works in place. -/
theorem workbook_of_request? {command : Command} {request : Request}
    (h : command.request? = some request) (b : Workbook) (files : σ) :
    ((b.execute command).runWith system files).1.workbook = (InPlace.on b request.method).2 := by
  rw [InPlace.on_perform]
  cases command <;> cases h
  case set cell text => exact workbook_replyToSet b cell text
  case recalculate | newSheet => rfl
  case addRow => exact workbook_replyToResize b b.addRow
  case addColumn => exact workbook_replyToResize b b.addColumn
  case deleteRow => exact workbook_replyToResize b b.deleteRow
  case deleteColumn => exact workbook_replyToResize b b.deleteColumn

/-- A file that cannot be read, decoded or built into a sheet leaves the one there is. -/
theorem failure_of_load {file : String} {err : StorageError}
    (h : ((Storage.loadSnapshot file).runWith system files).1.bind Snapshot.restore = .error err) :
    ∃ journal, ((b.execute (.load file)).runWith system files).1
      = .failure b ("load failed: " ++ err.message) journal := by
  show ∃ journal, ((b.replyToLoad file).runWith system files).1 = _
  rw [runWith_replyToLoad]
  cases hread : ((Storage.loadSnapshot file).runWith system files).1 with
  | error e =>
    rw [hread] at h
    cases h
    exact ⟨[], rfl⟩
  | ok snapshot =>
    rw [hread] at h
    have hrestore : snapshot.restore = .error err := h
    simp only [hrestore]
    exact ⟨_, rfl⟩

theorem failure_of_import {file : String} {err : StorageError}
    (h : ((Storage.importTable file).runWith system files).1 = .error err) :
    ((b.execute (.importTable file)).runWith system files).1
      = .failure b ("import failed: " ++ err.message) [] := by
  show ((b.replyToImport file).runWith system files).1 = _
  rw [runWith_replyToImport, h]

/-- **What fails changes nothing.**  A command that answers with an error leaves the workbook as it
was, and so does every method that fails, although it works in place; the requests of commands are
carried out by these methods.  A text that is entered is also committed.  A file that cannot be opened
or imported, for whatever reason, leaves the sheet there is. -/
theorem unchanged_of_failure (system : FileSystem σ) (files : σ) (b : Workbook) :
    (∀ (command : Command) (message : String),
        ((b.execute command).runWith system files).1.text = "error: " ++ message →
          ((b.execute command).runWith system files).1.workbook = b)
      ∧ (∀ (request : Request) (err : SheetError), (InPlace.on b request.method).1 = .error err →
          (InPlace.on b request.method).2 = b)
      ∧ (∀ (command : Command) (request : Request), command.request? = some request →
          ((b.execute command).runWith system files).1.workbook = (InPlace.on b request.method).2)
      ∧ (∀ name text, (InPlace.on b (InPlace.setText name text)).1 = .ok () →
          ∃ report, (InPlace.on b (InPlace.edit name text)).1 = .ok report)
      ∧ (∀ (file : String) (err : StorageError),
          ((Storage.loadSnapshot file).runWith system files).1.bind Snapshot.restore = .error err →
            let reply := ((b.execute (.load file)).runWith system files).1
            reply.text = "error: " ++ ("load failed: " ++ err.message) ∧ reply.workbook = b)
      ∧ ∀ (file : String) (err : StorageError),
          ((Storage.importTable file).runWith system files).1 = .error err →
            let reply := ((b.execute (.importTable file)).runWith system files).1
            reply.text = "error: " ++ ("import failed: " ++ err.message) ∧ reply.workbook = b := by
  refine ⟨fun command message h => ?_, fun request err => InPlace.eq_of_error,
    fun command request h => workbook_of_request? h b files,
    fun name text => InPlace.exists_edit_of_setText, fun file err h => ?_, fun file err h => ?_⟩
  · exact (honest_execute b command files).resolve_right fun hwell => hwell.ne_error message h
  · obtain ⟨journal, hreply⟩ := failure_of_load (b := b) h
    rw [hreply]
    exact ⟨rfl, rfl⟩
  · rw [failure_of_import h]
    exact ⟨rfl, rfl⟩

/-- A text for a cell outside the grid, one for a cell in the grid, and files that do not exist. -/
theorem unchanged_of_failure_new :
    let edited := (((new {}).execute (.set "K1" "1")).runWith Folder.system ⟨[]⟩).1
    let loaded := (((new {}).execute (.load "a")).runWith Folder.system ⟨[]⟩).1
    let imported := (((new {}).execute (.importTable "a")).runWith Folder.system ⟨[]⟩).1
    (edited.text = "error: Unknown cell: K1" ∧ edited.workbook = new {})
      ∧ (InPlace.on (new {}) (Request.edit "K1" "1").method).2 = new {}
      ∧ edited.workbook = (InPlace.on (new {}) (Request.edit "K1" "1").method).2
      ∧ (∃ report, (InPlace.on (new {}) (InPlace.edit "A1" "1")).1 = .ok report)
      ∧ loaded.workbook = new {} ∧ imported.workbook = new {} := by
  intro edited loaded imported
  obtain ⟨hcommand, hmethod, hrequest, hedit, hload, himport⟩ :=
    unchanged_of_failure Folder.system ⟨[]⟩ (new {})
  have htext : edited.text = "error: " ++ "Unknown cell: K1" := by decide +kernel
  have hrefused : (InPlace.on (new {}) (Request.edit "K1" "1").method).1
      = .error (.unknownCell "K1") := by decide +kernel
  have hentered : (InPlace.on (new {}) (InPlace.setText "A1" "1")).1 = .ok () := by decide +kernel
  have hmissing : ((Storage.loadSnapshot "a").runWith Folder.system ⟨[]⟩).1.bind Snapshot.restore
      = .error (.file .notFound) := by
    rw [Storage.loadSnapshot, Storage.readText, FileTask.runWith_bind, FileTask.runWith_bind,
      FileTask.runWith_readFile, read_empty_folder]
    rfl
  have hmissing' : ((Storage.importTable "a").runWith Folder.system ⟨[]⟩).1
      = .error (.tableFile .notFound) := by
    rw [Storage.importTable, FileTask.runWith_bind, FileTask.runWith_readFile, read_empty_folder]
    rfl
  exact ⟨⟨htext, hcommand _ _ htext⟩, hmethod _ _ hrefused, hrequest (.set "K1" "1") _ rfl,
    hedit _ _ hentered, (hload _ _ hmissing).2, (himport _ _ hmissing').2⟩

end Workbook

end Spreadsheet
