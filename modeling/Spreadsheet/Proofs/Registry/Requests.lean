import Spreadsheet.Proofs.Registry.Operations
import Spreadsheet.Proofs.Workbook.History
import Spreadsheet.Registry.Ledger

/-!
# Proofs/Registry/Requests — a ledger follows the workbook as long as there are ids

A history of a ledger is a list of requests, each with the orders in which the indices are read.  As
long as no request makes the counter of ids start over, the ledger goes through the same history as
the workbook it represents (`Represents.perform`, `Represents.run`), with the same cells pending.
-/

namespace Spreadsheet

/-- The text of a cell, if there is one. -/
def Registry.text? (r : Registry) (id : CellId) : Option String := (r.cell? id).map Entry.text

theorem Registry.Represents.text?_eq {r : Registry} {s : Sheet} (h : r.Represents s)
    (id : CellId) : r.text? id = s.text? id := by
  rw [Registry.text?, Sheet.text?, h.cell?_eq, Option.map_map]
  rfl

namespace Ledger

variable {l l' : Ledger} {b b' : Workbook} {orders : Orders}

/-! ## Requests -/

/-- A request to a ledger.  The tables of a registry from elsewhere agree with each other. -/
inductive Request where
  | setText (name text : String)
  | commit (name : String)
  | edit (name text : String)
  | recalculate
  | addRow
  | addColumn
  | deleteRow
  | deleteColumn
  | newSheet
  | replaceSheet (registry : {r : Registry // r.Indexed}) (filename : Option String)

/-- The same request to a workbook. -/
def Request.toWorkbook : Request → Workbook.Request
  | setText name text => .setText name text
  | commit name => .commit name
  | edit name text => .edit name text
  | recalculate => .recalculate
  | addRow => .addRow
  | addColumn => .addColumn
  | deleteRow => .deleteRow
  | deleteColumn => .deleteColumn
  | newSheet => .newSheet
  | replaceSheet registry filename =>
      .replaceSheet ⟨registry.1.sheet, registry.2.consistent_sheet⟩ filename

/-- The ledger an operation yields; one that fails leaves the ledger as it is. -/
def orKeep (l : Ledger) (result : Except SheetError Ledger) : Ledger :=
  match result with
  | .ok l => l
  | .error _ => l

/-- The ledger after a request. -/
def perform (orders : Orders) (l : Ledger) : Request → Ledger
  | .setText name text => l.orKeep (l.setText name text)
  | .commit name => l.orKeep ((l.commit name).map Prod.snd)
  | .edit name text => l.orKeep ((l.edit name text).map Prod.snd)
  | .recalculate => l.recalculate.2
  | .addRow => l.orKeep ((l.addRow orders).map Prod.snd)
  | .addColumn => l.orKeep ((l.addColumn orders).map Prod.snd)
  | .deleteRow => l.orKeep ((l.deleteRow orders).map Prod.snd)
  | .deleteColumn => l.orKeep ((l.deleteColumn orders).map Prod.snd)
  | .newSheet => l.newSheet
  | .replaceSheet registry filename => (l.replaceSheet registry filename).2

/-- The cells that are pending after a request: a changed text makes its cell pending until the cell
is committed or all cells are evaluated. -/
def stillPending (orders : Orders) (l : Ledger) (pending : List CellId) : Request → List CellId
  | .setText name text =>
      match l.registry.resolve name with
      | .ok id => if l.registry.text? id = some text then pending else id :: pending
      | .error _ => pending
  | .commit name | .edit name _ =>
      match l.registry.resolve name with
      | .ok id => pending.filter (· ≠ id)
      | .error _ => pending
  | .addRow => if (l.addRow orders).isOk then [] else pending
  | .addColumn => if (l.addColumn orders).isOk then [] else pending
  | .deleteRow => if (l.deleteRow orders).isOk then [] else pending
  | .deleteColumn => if (l.deleteColumn orders).isOk then [] else pending
  | .recalculate | .newSheet | .replaceSheet .. => []

/-- The ledger after a list of requests, each with the orders it reads the indices in. -/
def run (l : Ledger) (steps : List (Orders × Request)) : Ledger :=
  steps.foldl (fun l step => l.perform step.1 step.2) l

/-- The cells that are pending after a list of requests. -/
def pendingAfter (l : Ledger) (pending : List CellId) : List (Orders × Request) → List CellId
  | [] => pending
  | step :: steps =>
      (l.perform step.1 step.2).pendingAfter (l.stillPending step.1 pending step.2) steps

/-- A history of a new ledger after which nothing is pending. -/
def Settles (config : Config) (steps : List (Orders × Request)) : Prop :=
  (new config).pendingAfter [] steps = []

/-- Whether there are ids for the cells a request creates. -/
def HasRoom (l : Ledger) : Request → Prop
  | .addRow => l.registry.nextId.toNat + l.registry.cols < UInt32.size
  | .addColumn => l.registry.nextId.toNat + l.registry.rows < UInt32.size
  | .newSheet => max l.config.rows 1 * max l.config.cols 1 < UInt32.size
  | _ => True

/-- No request in a list makes the counter of ids start over. -/
def Fits (l : Ledger) : List (Orders × Request) → Prop
  | [] => True
  | step :: steps => l.HasRoom step.2 ∧ (l.perform step.1 step.2).Fits steps

/-! ## Operations -/

/-- **A ledger stores a workbook.** -/
structure Represents (l : Ledger) (b : Workbook) : Prop where
  registry : l.registry.Represents b.sheet
  config_eq : l.config = b.config
  dirty_eq : l.dirty = b.dirty
  filename_eq : l.filename = b.filename
  status_eq : l.status = b.status

/-- The same report, and a ledger that stores the workbook. -/
def Reports {ρ : Type} (x : ρ × Ledger) (y : ρ × Workbook) : Prop :=
  x.1 = y.1 ∧ x.2.Represents y.2

theorem represents_new {config : Config}
    (hfit : max config.rows 1 * max config.cols 1 < UInt32.size) :
    (new config).Represents (.new config) :=
  ⟨Registry.represents_blank hfit, rfl, rfl, rfl, rfl⟩

section

variable (h : l.Represents b)

include h

theorem Represents.setText (name text : String) :
    Matches Represents (l.setText name text) (b.setText name text) := by
  rw [Ledger.setText, Workbook.setText, h.registry.resolve_eq]
  cases b.sheet.resolve name with
  | error err => exact .error err
  | ok id =>
    exact (h.registry.setText id text).bind fun _ _ hsheet =>
      .ok ⟨hsheet, h.config_eq, rfl, h.filename_eq, h.status_eq⟩

theorem Represents.commit (name : String) : Matches Reports (l.commit name) (b.commit name) := by
  rw [Ledger.commit, Workbook.commit, h.registry.resolve_eq, h.config_eq]
  cases b.sheet.resolve name with
  | error err => exact .error err
  | ok id =>
    obtain ⟨hreport, hsheet⟩ := h.registry.commit b.config id
    exact .ok ⟨hreport, hsheet, rfl, h.dirty_eq, h.filename_eq,
      congrArg CommitReport.message hreport⟩

theorem Represents.edit (name text : String) :
    Matches Reports (l.edit name text) (b.edit name text) :=
  (h.setText name text).bind fun _ _ h => h.commit name

theorem Represents.recalculate : Reports l.recalculate b.recalculate := by
  rw [Ledger.recalculate, Workbook.recalculate, h.config_eq]
  obtain ⟨hreport, hsheet⟩ := h.registry.recalculate b.config
  exact ⟨hreport, hsheet, rfl, h.dirty_eq, h.filename_eq, h.status_eq⟩

theorem Represents.resize {r : Registry} {s : Sheet} (hr : r.Represents s) :
    Reports (l.resize r) (b.resize s) := by
  have htaken : Represents { l with registry := r, dirty := true }
      { b with sheet := s, dirty := true } :=
    ⟨hr, h.config_eq, rfl, h.filename_eq, h.status_eq⟩
  obtain ⟨hreport, hrecalculated⟩ := htaken.recalculate
  refine ⟨?_, hrecalculated⟩
  rw [Ledger.resize, Workbook.resize, hr.rows_eq, hr.cols_eq]
  exact congrArg (fun report : Recalculation =>
    { report with journal := .resized s.rows s.cols :: report.journal }) hreport

theorem Represents.addRow (orders : Orders) (hroom : l.HasRoom .addRow) :
    Matches Reports (l.addRow orders) b.addRow := by
  rw [Ledger.addRow, Workbook.addRow, ← h.registry.rows_eq]
  exact (h.registry.insertLine orders .row _ fun _ => hroom).map fun _ _ => h.resize

theorem Represents.addColumn (orders : Orders) (hroom : l.HasRoom .addColumn) :
    Matches Reports (l.addColumn orders) b.addColumn := by
  rw [Ledger.addColumn, Workbook.addColumn, ← h.registry.cols_eq]
  exact (h.registry.insertLine orders .column _ fun _ => hroom).map fun _ _ => h.resize

theorem Represents.deleteRow (orders : Orders) :
    Matches Reports (l.deleteRow orders) b.deleteRow := by
  rw [Ledger.deleteRow, Workbook.deleteRow, ← h.registry.rows_eq]
  exact (h.registry.deleteLine orders .row _).map fun _ _ => h.resize

theorem Represents.deleteColumn (orders : Orders) :
    Matches Reports (l.deleteColumn orders) b.deleteColumn := by
  rw [Ledger.deleteColumn, Workbook.deleteColumn, ← h.registry.cols_eq]
  exact (h.registry.deleteLine orders .column _).map fun _ _ => h.resize

theorem Represents.replaceSheet {r : Registry} {s : Sheet} (hr : r.Represents s)
    (filename : Option String) :
    (l.replaceSheet r filename).2.Represents (b.replaceSheet s filename).2 := by
  have htaken : Represents { l with registry := r, filename } { b with sheet := s, filename } :=
    ⟨hr, h.config_eq, h.dirty_eq, rfl, h.status_eq⟩
  obtain ⟨-, hrecalculated⟩ := htaken.recalculate
  exact ⟨hrecalculated.registry, hrecalculated.config_eq, rfl, hrecalculated.filename_eq,
    hrecalculated.status_eq⟩

/-! ## Histories -/

theorem Represents.orKeep {x : Except SheetError Ledger} {y : Except SheetError Workbook}
    (hxy : Matches Represents x y) : (l.orKeep x).Represents (b.orKeep y) := by
  cases hxy with
  | ok h => exact h
  | error err => exact h

theorem Represents.orKeep_map {ρ : Type} {x : Except SheetError (ρ × Ledger)}
    {y : Except SheetError (ρ × Workbook)} (hxy : Matches Reports x y) :
    (l.orKeep (x.map Prod.snd)).Represents (b.orKeep (y.map Prod.snd)) :=
  h.orKeep (hxy.map fun _ _ => And.right)

/-- **A request does to a ledger what it does to the workbook**, if there are ids for the new
cells. -/
theorem Represents.perform (orders : Orders) (request : Request) (hroom : l.HasRoom request) :
    (l.perform orders request).Represents (b.perform request.toWorkbook) := by
  cases request with
  | setText name text => exact h.orKeep (h.setText name text)
  | commit name => exact h.orKeep_map (h.commit name)
  | edit name text => exact h.orKeep_map (h.edit name text)
  | recalculate => exact h.recalculate.2
  | addRow => exact h.orKeep_map (h.addRow orders hroom)
  | addColumn => exact h.orKeep_map (h.addColumn orders hroom)
  | deleteRow => exact h.orKeep_map (h.deleteRow orders)
  | deleteColumn => exact h.orKeep_map (h.deleteColumn orders)
  | newSheet =>
    show (new l.config).Represents (.new b.config)
    rw [← h.config_eq]
    exact represents_new hroom
  | replaceSheet registry filename => exact h.replaceSheet registry.2.represents filename

/-- The same cells are pending. -/
theorem Represents.stillPending_eq (orders : Orders) (request : Request)
    (hroom : l.HasRoom request) (pending : List CellId) :
    l.stillPending orders pending request = b.stillPending pending request.toWorkbook := by
  cases request with
  | setText name text =>
    simp only [Ledger.stillPending, h.registry.resolve_eq, h.registry.text?_eq]
    rfl
  | commit name | edit name text =>
    simp only [Ledger.stillPending, h.registry.resolve_eq]
    rfl
  | recalculate | newSheet | replaceSheet => rfl
  | addRow =>
    show (if (l.addRow orders).isOk then _ else _) = _
    rw [(h.addRow orders hroom).isOk_eq]
    rfl
  | addColumn =>
    show (if (l.addColumn orders).isOk then _ else _) = _
    rw [(h.addColumn orders hroom).isOk_eq]
    rfl
  | deleteRow =>
    show (if (l.deleteRow orders).isOk then _ else _) = _
    rw [(h.deleteRow orders).isOk_eq]
    rfl
  | deleteColumn =>
    show (if (l.deleteColumn orders).isOk then _ else _) = _
    rw [(h.deleteColumn orders).isOk_eq]
    rfl

end

/-- **A history does to a ledger what it does to the workbook**, if it does not make the counter of
ids start over. -/
theorem Represents.run : ∀ (steps : List (Orders × Request)) {l : Ledger} {b : Workbook},
    l.Represents b → l.Fits steps →
    (l.run steps).Represents (b.run (steps.map (·.2.toWorkbook)))
      ∧ ∀ pending, l.pendingAfter pending steps
        = b.pendingAfter pending (steps.map (·.2.toWorkbook))
  | [], _, _, h, _ => ⟨h, fun _ => rfl⟩
  | step :: steps, l, b, h, hfits => by
      obtain ⟨hrun, hpending⟩ := Represents.run steps (h.perform step.1 step.2 hfits.1) hfits.2
      refine ⟨hrun, fun pending => ?_⟩
      rw [pendingAfter, hpending, h.stillPending_eq step.1 step.2 hfits.1]
      rfl

end Ledger

end Spreadsheet
