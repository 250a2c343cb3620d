import Spreadsheet.Proofs.Workbook.History

/-!
# Proofs/Workbook/InPlace — a method that fails leaves the workbook as it was

The operations of a workbook yield no workbook when they fail, so they cannot leave half a change
behind.  Methods that work in place could: what they have stored stays when they fail later
(`on_bind`).  They are written out here step by step, and each comes to the operation it carries out,
done entirely or not at all (`on_perform`).  The one method with two steps that may fail is `edit`, and
its second step finds the cell that the first one found.
-/

namespace Spreadsheet

namespace Workbook

variable {α β : Type} {b b' : Workbook} {name text : String} {err : SheetError}

/-- A method that works on a workbook in place: what it has stored stays when it fails. -/
abbrev InPlace := ExceptT SheetError (StateM Workbook)

namespace InPlace

/-! ## Methods -/

/-- What a method answers, and the workbook it leaves. -/
def on (b : Workbook) (method : InPlace α) : Except SheetError α × Workbook :=
  (method.run.run b).run

/-- The cell that a name leads to. -/
def resolve (name : String) : InPlace CellId := do
  MonadExcept.ofExcept ((← get).sheet.resolve name)

/-- A change of the sheet, which may be refused. -/
def changeSheet (change : Sheet → Except SheetError Sheet) : InPlace Unit := do
  let sheet ← MonadExcept.ofExcept (change (← get).sheet)
  modify ({ · with sheet })

def setText (name text : String) : InPlace Unit := do
  let id ← resolve name
  changeSheet (·.setText id text)
  modify ({ · with dirty := true })

def commit (name : String) : InPlace CommitReport := do
  let id ← resolve name
  let b ← get
  let (report, sheet) := b.sheet.commit b.config id
  modify ({ · with sheet })
  modify ({ · with status := report.message })
  return report

def edit (name text : String) : InPlace CommitReport := do
  setText name text
  commit name

def recalculate : InPlace Recalculation := do
  let b ← get
  let (report, sheet) := b.sheet.recalculate b.config
  modify ({ · with sheet })
  return report

/-- What follows a change of the size. -/
def structureChanged : InPlace Recalculation := do
  modify ({ · with dirty := true })
  let b ← get
  let report ← recalculate
  return { report with journal := .resized b.sheet.rows b.sheet.cols :: report.journal }

/-- A change of the size. -/
def resize (change : Sheet → Except SheetError Sheet) : InPlace Recalculation := do
  changeSheet change
  structureChanged

def newSheet : InPlace Unit := do
  modify fun b => { b with sheet := .blank b.config.rows b.config.cols }
  modify ({ · with dirty := false })
  modify ({ · with filename := none })
  modify ({ · with status := none })

def replaceSheet (sheet : Sheet) (filename : Option String) : InPlace Recalculation := do
  modify ({ · with sheet })
  modify ({ · with filename })
  let report ← recalculate
  modify ({ · with dirty := false })
  return report

end InPlace

/-- The method that a request calls. -/
def Request.method : Request → InPlace Unit
  | .setText name text => InPlace.setText name text
  | .commit name => do let _ ← InPlace.commit name
  | .edit name text => do let _ ← InPlace.edit name text
  | .recalculate => do let _ ← InPlace.recalculate
  | .addRow => do let _ ← InPlace.resize fun s => s.insertRow s.rows
  | .addColumn => do let _ ← InPlace.resize fun s => s.insertColumn s.cols
  | .deleteRow => do let _ ← InPlace.resize fun s => s.deleteRow (s.rows - 1)
  | .deleteColumn => do let _ ← InPlace.resize fun s => s.deleteColumn (s.cols - 1)
  | .newSheet => InPlace.newSheet
  | .replaceSheet sheet filename => do let _ ← InPlace.replaceSheet sheet.1 filename

namespace InPlace

/-! ## Steps -/

/-- **What a method has stored stays when it fails.** -/
theorem on_bind (method : InPlace α) (next : α → InPlace β) (b : Workbook) :
    on b (method >>= next) =
      match on b method with
      | (.ok a, b') => on b' (next a)
      | (.error err, b') => (.error err, b') := by
  show (match (method.run.run b).run with
    | (r, b') => on b' (ExceptT.mk (ExceptT.bindCont next r))) = _
  rw [on]
  rcases (method.run.run b).run with ⟨_ | _, _⟩ <;> rfl

theorem on_resolve (name : String) (b : Workbook) :
    on b (resolve name) = (b.sheet.resolve name, b) := by
  show on b (MonadExcept.ofExcept (b.sheet.resolve name)) = _
  cases b.sheet.resolve name <;> rfl

/-- A refused change of the sheet is not made. -/
theorem on_changeSheet (change : Sheet → Except SheetError Sheet) (b : Workbook) :
    on b (changeSheet change) =
      match change b.sheet with
      | .ok sheet => (.ok (), { b with sheet })
      | .error err => (.error err, b) := by
  show on b (MonadExcept.ofExcept (change b.sheet) >>= _) = _
  cases change b.sheet <;> rfl

/-! ## Methods and operations -/

/-- What an operation comes to in place: it is done entirely, or the workbook stays. -/
def entirely (b : Workbook) : Except SheetError (α × Workbook) → Except SheetError α × Workbook
  | .ok (a, b') => (.ok a, b')
  | .error err => (.error err, b)

theorem on_setText (name text : String) (b : Workbook) :
    on b (setText name text) = entirely b ((b.setText name text).map ((), ·)) := by
  rw [setText, on_bind, on_resolve, Workbook.setText]
  cases b.sheet.resolve name with
  | error err => rfl
  | ok id =>
    show on b (changeSheet _ >>= _) = entirely b ((b.sheet.setText id text >>= _).map _)
    rw [on_bind, on_changeSheet]
    cases b.sheet.setText id text <;> rfl

theorem on_commit (name : String) (b : Workbook) :
    on b (commit name) = entirely b (b.commit name) := by
  rw [commit, on_bind, on_resolve, Workbook.commit]
  cases b.sheet.resolve name <;> rfl

/-- **A text that was entered is committed.** -/
theorem exists_commit_of_setText (h : b.setText name text = .ok b') :
    ∃ report b'', b'.commit name = .ok (report, b'') := by
  obtain ⟨id, t, hresolve, ht, rfl⟩ := setText_eq_ok_iff.mp h
  exact ⟨_, _, commit_of_resolve ((resolve_setText ht name).trans hresolve)⟩

theorem edit_of_setText (h : b.setText name text = .ok b') :
    b.edit name text = b'.commit name := by
  rw [Workbook.edit, h]
  rfl

theorem on_edit (name text : String) (b : Workbook) :
    on b (edit name text) = entirely b (b.edit name text) := by
  rw [edit, on_bind, on_setText]
  cases hset : b.setText name text with
  | error err =>
    rw [Workbook.edit, hset]
    rfl
  | ok entered =>
    obtain ⟨report, b', hcommit⟩ := exists_commit_of_setText hset
    show on entered (commit name) = _
    rw [on_commit, edit_of_setText hset, hcommit]
    rfl

/-- **A text is not entered without being committed.** -/
theorem exists_edit_of_setText (h : (on b (setText name text)).1 = .ok ()) :
    ∃ report, (on b (edit name text)).1 = .ok report := by
  rw [on_setText] at h
  cases hset : b.setText name text with
  | error err =>
    rw [hset] at h
    cases h
  | ok entered =>
    obtain ⟨report, b', hcommit⟩ := exists_commit_of_setText hset
    rw [on_edit, edit_of_setText hset, hcommit]
    exact ⟨report, rfl⟩

theorem on_resize (change : Sheet → Except SheetError Sheet) (b : Workbook) :
    on b (resize change) = entirely b ((change b.sheet).map b.resize) := by
  rw [resize, on_bind, on_changeSheet]
  cases change b.sheet <;> rfl

theorem on_discard {method : InPlace α} {result : Except SheetError (α × Workbook)}
    (h : on b method = entirely b result) :
    on b (do let _ ← method) = entirely b (result.map fun answer => ((), answer.2)) := by
  rw [on_bind, h]
  cases result <;> rfl

/-- **A method does what a request does, or fails and changes nothing.** -/
theorem exists_on_method (request : Request) (b : Workbook) :
    ∃ result : Except SheetError (Unit × Workbook), on b request.method = entirely b result
      ∧ b.perform request = b.orKeep (result.map Prod.snd) := by
  have hdiscard : ∀ {α : Type} {method : InPlace α} {result : Except SheetError (α × Workbook)},
      on b method = entirely b result →
        ∃ result' : Except SheetError (Unit × Workbook), on b (do let _ ← method) = entirely b result'
          ∧ b.orKeep (result.map Prod.snd) = b.orKeep (result'.map Prod.snd) :=
    fun {_ _ result} h => ⟨_, on_discard h, by cases result <;> rfl⟩
  cases request with
  | setText name text =>
    refine ⟨_, on_setText name text b, ?_⟩
    rw [perform]
    cases b.setText name text <;> rfl
  | commit name => exact hdiscard (on_commit name b)
  | edit name text => exact hdiscard (on_edit name text b)
  | recalculate => exact ⟨.ok ((), b.recalculate.2), rfl, rfl⟩
  | addRow => exact hdiscard (on_resize (fun s => s.insertRow s.rows) b)
  | addColumn => exact hdiscard (on_resize (fun s => s.insertColumn s.cols) b)
  | deleteRow => exact hdiscard (on_resize (fun s => s.deleteRow (s.rows - 1)) b)
  | deleteColumn => exact hdiscard (on_resize (fun s => s.deleteColumn (s.cols - 1)) b)
  | newSheet => exact ⟨.ok ((), b.newSheet), rfl, rfl⟩
  | replaceSheet sheet filename => exact ⟨.ok ((), (b.replaceSheet sheet.1 filename).2), rfl, rfl⟩

/-- **A method leaves the workbook that its operation yields.** -/
theorem on_perform (request : Request) (b : Workbook) :
    (on b request.method).2 = b.perform request := by
  obtain ⟨result, hon, hperform⟩ := exists_on_method request b
  rw [hon, hperform]
  cases result <;> rfl

/-- **A method that fails leaves the workbook as it was.** -/
theorem eq_of_error {request : Request} (h : (on b request.method).1 = .error err) :
    (on b request.method).2 = b := by
  obtain ⟨result, hon, -⟩ := exists_on_method request b
  rw [hon] at h ⊢
  cases result with
  | ok => cases h
  | error => rfl

end InPlace

end Workbook

end Spreadsheet
