import Spreadsheet.Console.Execute
import Spreadsheet.Proofs.Storage.FileSystem
import Spreadsheet.Proofs.Workbook.Contents

/-!
# Proofs/Console/Commands — what commands do to a workbook

A command does to the workbook what one request does, or leaves its sheet alone, or takes over a
sheet that is consistent, whatever the file held (`leaves_execute`).  A text it enters is evaluated
at once.  So whatever commands are given, and whatever files each of them finds, nothing is ever
pending (`coherent_obey`).
-/

namespace Spreadsheet

/-- The request a command makes of a workbook. -/
def Command.request? : Command → Option Workbook.Request
  | set cell text => some (.edit cell text)
  | recalculate => some .recalculate
  | addRow => some .addRow
  | addColumn => some .addColumn
  | deleteRow => some .deleteRow
  | deleteColumn => some .deleteColumn
  | newSheet => some .newSheet
  | get _ | display | save _ | load _ | exportTable _ | importTable _ | help | quit => none

namespace Workbook

variable {σ : Type} {system : FileSystem σ} {b : Workbook} {file : String}

/-- An error tells itself by its first letter. -/
theorem head?_error (message : String) : ("error: " ++ message).toList.head? = some 'e' := by
  rw [String.toList_append]
  rfl

/-! ## Commands without files -/

theorem workbook_replyToSet (b : Workbook) (cell text : String) :
    (b.replyToSet cell text).workbook = b.perform (.edit cell text) := by
  rw [replyToSet, perform]
  cases b.edit cell text <;> rfl

theorem workbook_replyToGet (b : Workbook) (cell : String) :
    (b.replyToGet cell).workbook = b := by
  rw [replyToGet]
  cases b.sheet.cellNamed? cell <;> rfl

theorem workbook_replyToResize (b : Workbook)
    (result : Except SheetError (Recalculation × Workbook)) :
    (b.replyToResize result).workbook = b.orKeep (result.map Prod.snd) := by
  cases result <;> rfl

/-! ## Commands with files -/

/-- A sheet is saved as it is, and the workbook keeps it. -/
theorem runWith_replyToSave (b : Workbook) (file : String) (files : σ) :
    (b.replyToSave file).runWith system files =
      (match ((Storage.saveSheet b.sheet file).runWith system files).1 with
        | .ok _ => ⟨"saved to " ++ file, [.saved file], b.markSaved file⟩
        | .error e => .failure b ("save failed: " ++ e.message) [],
      ((Storage.saveSheet b.sheet file).runWith system files).2) := by
  rw [replyToSave, FileTask.runWith_bind]
  cases ((Storage.saveSheet b.sheet file).runWith system files).1 <;> rfl

/-- What a command does with a file that is read. -/
theorem runWith_replyToLoad (b : Workbook) (file : String) (files : σ) :
    (b.replyToLoad file).runWith system files =
      (match ((Storage.loadSnapshot file).runWith system files).1 with
        | .error e => .failure b ("load failed: " ++ e.message) []
        | .ok snapshot =>
            match snapshot.restore with
            | .error e =>
                .failure b ("load failed: " ++ e.message) [.loaded snapshot.cells.length file]
            | .ok sheet =>
                ⟨"loaded " ++ file,
                  .loaded snapshot.cells.length file :: (b.replaceSheet sheet (some file)).1.journal,
                  (b.replaceSheet sheet (some file)).2⟩,
      ((Storage.loadSnapshot file).runWith system files).2) := by
  rw [replyToLoad, FileTask.runWith_bind]
  cases ((Storage.loadSnapshot file).runWith system files).1 with
  | error e => rfl
  | ok snapshot => cases h : snapshot.restore <;> simp [h]

/-- What a command does with a table that is read. -/
theorem runWith_replyToImport (b : Workbook) (file : String) (files : σ) :
    (b.replyToImport file).runWith system files =
      (match ((Storage.importTable file).runWith system files).1 with
        | .ok sheet => ⟨"imported " ++ file, (b.replaceSheet sheet none).1.journal,
            { (b.replaceSheet sheet none).2 with dirty := true }⟩
        | .error e => .failure b ("import failed: " ++ e.message) [],
      ((Storage.importTable file).runWith system files).2) := by
  rw [replyToImport, FileTask.runWith_bind]
  cases ((Storage.importTable file).runWith system files).1 <;> rfl

/-- A table that is taken over is a consistent sheet. -/
theorem consistent_importTable {s : Sheet} {files : σ}
    (h : ((Storage.importTable file).runWith system files).1 = .ok s) : s.Consistent := by
  rw [Storage.importTable, FileTask.runWith_bind, FileTask.runWith_readFile] at h
  cases hread : system.read files file with
  | error e =>
    rw [hread] at h
    cases h
  | ok bytes =>
    rw [hread] at h
    cases hrecords : Table.readFile? bytes with
    | none =>
      simp only [hrecords] at h
      cases h
    | some records =>
      simp only [hrecords] at h
      exact Table.consistent_toSheet h

/-! ## What a command leaves -/

/-- What a command leaves of a workbook, and what it answers: the workbook as it was, or after one
request, or marked as saved, or with a sheet from a file, which is consistent whatever the file
held. -/
inductive Leaves (b : Workbook) : Command → String → Workbook → Prop where
  | kept (command : Command) (answer : String) : Leaves b command answer b
  | performed {command : Command} {request : Request} (h : command.request? = some request)
      (answer : String) : Leaves b command answer (b.perform request)
  | saved (file : String) : Leaves b (.save file) ("saved to " ++ file) (b.markSaved file)
  | loaded (file : String) {s : Sheet} (hs : s.Consistent) :
      Leaves b (.load file) ("loaded " ++ file) (b.replaceSheet s (some file)).2
  | imported (file answer : String) {s : Sheet} (hs : s.Consistent) :
      Leaves b (.importTable file) answer { (b.replaceSheet s none).2 with dirty := true }

theorem leaves_replyToResize {command : Command} {request : Request}
    (h : command.request? = some request)
    {result : Except SheetError (Recalculation × Workbook)}
    (hperform : b.perform request = b.orKeep (result.map Prod.snd)) :
    b.Leaves command (b.replyToResize result).text (b.replyToResize result).workbook := by
  rw [workbook_replyToResize, ← hperform]
  exact .performed h _

theorem leaves_replyToSave (b : Workbook) (file : String) (files : σ) :
    b.Leaves (.save file) ((b.replyToSave file).runWith system files).1.text
      ((b.replyToSave file).runWith system files).1.workbook := by
  rw [runWith_replyToSave]
  cases ((Storage.saveSheet b.sheet file).runWith system files).1 with
  | ok _ => exact .saved file
  | error e => exact .kept _ _

theorem leaves_replyToLoad (b : Workbook) (file : String) (files : σ) :
    b.Leaves (.load file) ((b.replyToLoad file).runWith system files).1.text
      ((b.replyToLoad file).runWith system files).1.workbook := by
  rw [runWith_replyToLoad]
  cases ((Storage.loadSnapshot file).runWith system files).1 with
  | error e => exact .kept _ _
  | ok snapshot =>
    cases hrestore : snapshot.restore with
    | error e =>
      simp only [hrestore]
      exact .kept _ _
    | ok sheet =>
      simp only [hrestore]
      exact .loaded file (Snapshot.consistent_restore hrestore)

theorem leaves_replyToExport (b : Workbook) (file : String) (files : σ) :
    b.Leaves (.exportTable file) ((b.replyToExport file).runWith system files).1.text
      ((b.replyToExport file).runWith system files).1.workbook := by
  rw [replyToExport, FileTask.runWith_bind]
  cases ((Storage.exportTable b.sheet file).runWith system files).1 <;> exact .kept _ _

theorem leaves_replyToImport (b : Workbook) (file : String) (files : σ) :
    b.Leaves (.importTable file) ((b.replyToImport file).runWith system files).1.text
      ((b.replyToImport file).runWith system files).1.workbook := by
  rw [runWith_replyToImport]
  cases himport : ((Storage.importTable file).runWith system files).1 with
  | error e => exact .kept _ _
  | ok sheet => exact .imported file _ (consistent_importTable himport)

/-- **What comes of a command**, whatever files it finds. -/
theorem leaves_execute (b : Workbook) (command : Command) (files : σ) :
    b.Leaves command ((b.execute command).runWith system files).1.text
      ((b.execute command).runWith system files).1.workbook := by
  cases command with
  | set cell text =>
    show b.Leaves _ _ (b.replyToSet cell text).workbook
    rw [workbook_replyToSet]
    exact .performed rfl _
  | get cell =>
    show b.Leaves _ _ (b.replyToGet cell).workbook
    rw [workbook_replyToGet]
    exact .kept _ _
  | recalculate =>
    show b.Leaves _ _ (b.perform .recalculate)
    exact .performed rfl _
  | addRow => exact leaves_replyToResize rfl rfl
  | addColumn => exact leaves_replyToResize rfl rfl
  | deleteRow => exact leaves_replyToResize rfl rfl
  | deleteColumn => exact leaves_replyToResize rfl rfl
  | newSheet =>
    show b.Leaves _ _ (b.perform .newSheet)
    exact .performed rfl _
  | save file => exact leaves_replyToSave b file files
  | load file => exact leaves_replyToLoad b file files
  | exportTable file => exact leaves_replyToExport b file files
  | importTable file => exact leaves_replyToImport b file files
  | display | help | quit => exact .kept _ _

/-! ## Nothing is pending -/

/-- No command enters a text without evaluating it. -/
theorem stillPending_of_request? {command : Command} {request : Request}
    (h : command.request? = some request) (b : Workbook) : b.stillPending [] request = [] := by
  cases command <;> cases h
  case set cell text =>
    rw [stillPending]
    cases b.sheet.resolve cell <;> rfl
  case recalculate | newSheet => rfl
  case addRow | addColumn | deleteRow | deleteColumn => exact ite_self []

theorem Leaves.coherent {command : Command} {answer : String} {b' : Workbook}
    (hleaves : b.Leaves command answer b') (h : b.Coherent []) : b'.Coherent [] := by
  cases hleaves with
  | kept => exact h
  | performed hrequest =>
    rw [← stillPending_of_request? hrequest b]
    exact coherent_perform h _
  | saved file => exact h
  | loaded file hs => exact Sheet.coherent_recalculate hs b.config
  | imported file answer hs => exact Sheet.coherent_recalculate hs b.config

/-- **A command leaves nothing pending.** -/
theorem coherent_execute (h : b.Coherent []) (command : Command) (files : σ) :
    ((b.execute command).runWith system files).1.workbook.Coherent [] :=
  (leaves_execute b command files).coherent h

/-- The workbook after a list of commands, each of which finds the files in some state. -/
def obey (b : Workbook) (system : FileSystem σ) (commands : List (σ × Command)) : Workbook :=
  commands.foldl (fun b command => ((b.execute command.2).runWith system command.1).1.workbook) b

/-- **Whatever commands a workbook is given, nothing is pending after them.** -/
theorem coherent_obey : ∀ (commands : List (σ × Command)) {b : Workbook}, b.Coherent [] →
    (b.obey system commands).Coherent []
  | [], _, h => h
  | command :: commands, _, h =>
      coherent_obey commands (coherent_execute h command.2 command.1)

end Workbook

end Spreadsheet
