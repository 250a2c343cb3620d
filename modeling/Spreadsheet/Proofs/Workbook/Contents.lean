import Spreadsheet.Proofs.Recalculation.Alike
import Spreadsheet.Proofs.Recalculation.Dependents
import Spreadsheet.Proofs.Workbook.History

/-!
# Proofs/Workbook/Contents — what requests do to the contents of a sheet

The contents of a sheet are its size and its texts.  Evaluation stores values and dependents and
leaves them alone, so a request either takes over another sheet, marks the workbook as modified, or
changes neither the contents nor the mark (`marksChanges_perform`).
-/

namespace Spreadsheet

namespace Sheet

variable {s t : Sheet}

/-- The size of a sheet and its texts. -/
@[ext]
structure Contents where
  rows : Nat
  cols : Nat
  textAt? : Position → Option String

/-- What a sheet holds apart from what it shows. -/
def contents (s : Sheet) : Contents := ⟨s.rows, s.cols, s.textAt?⟩

theorem contents_of_bare_eq (h : s.bare = t.bare) : s.contents = t.contents := by
  have hgrid := grid_of_bare_eq h
  refine Contents.ext ?_ ?_ (funext fun p => textAt?_of_bare_eq h p)
  · rw [contents, contents, rows, rows, hgrid]
  · rw [contents, contents, cols, cols, hgrid]

theorem contents_commit (s : Sheet) (config : Config) (id : CellId) :
    (s.commit config id).2.contents = s.contents :=
  contents_of_bare_eq (amends_commit s config id).bare

theorem contents_recalculate (s : Sheet) (config : Config) :
    (s.recalculate config).2.contents = s.contents :=
  contents_of_bare_eq ((amends_recalculate s config).bare.trans (bare_clearDependents s))

end Sheet

namespace Workbook

variable {b b' : Workbook} {name text : String}

/-- **An edit enters a text, and changes nothing else but values and dependents.** -/
theorem exists_bare_edit {id : CellId} (hs : b.sheet.Consistent)
    (hresolve : b.sheet.resolve name = .ok id) (text : String) :
    ∃ t, b.sheet.setText id text = .ok t ∧ (b.perform (.edit name text)).sheet.bare = t.bare := by
  obtain ⟨t, ht⟩ := exists_setText hs hresolve text
  have hresolve' : t.resolve name = .ok id := (resolve_setText ht name).trans hresolve
  have hedit : b.edit name text = commit { b with sheet := t, dirty := true } name := by
    rw [edit, setText_of_resolve hresolve ht]
    rfl
  refine ⟨t, ht, ?_⟩
  rw [perform, hedit, commit_of_resolve (b := { b with sheet := t, dirty := true }) hresolve']
  exact (Sheet.amends_commit t b.config id).bare

/-- The second workbook is marked as modified, or it holds what the first does and is marked as that
is. -/
def MarksChanges (b b' : Workbook) : Prop :=
  b'.dirty = true ∨ b'.dirty = b.dirty ∧ b'.sheet.contents = b.sheet.contents

theorem MarksChanges.refl (b : Workbook) : b.MarksChanges b := .inr ⟨rfl, rfl⟩

theorem marksChanges_setText (h : b.setText name text = .ok b') : b.MarksChanges b' := by
  obtain ⟨_, _, -, -, rfl⟩ := setText_eq_ok_iff.mp h
  exact .inl rfl

theorem marksChanges_commit {report : CommitReport} (h : b.commit name = .ok (report, b')) :
    b.MarksChanges b' := by
  obtain ⟨id, -, -, rfl⟩ := commit_eq_ok_iff.mp h
  exact .inr ⟨rfl, Sheet.contents_commit b.sheet b.config id⟩

theorem marksChanges_edit {report : CommitReport} (h : b.edit name text = .ok (report, b')) :
    b.MarksChanges b' := by
  obtain ⟨entered, hset, hcommit⟩ := edit_eq_ok_iff.mp h
  obtain ⟨_, _, -, -, rfl⟩ := setText_eq_ok_iff.mp hset
  obtain ⟨_, -, -, rfl⟩ := commit_eq_ok_iff.mp hcommit
  exact .inl rfl

theorem marksChanges_recalculate (b : Workbook) : b.MarksChanges b.recalculate.2 :=
  .inr ⟨rfl, Sheet.contents_recalculate b.sheet b.config⟩

theorem marksChanges_resize (edited : Except SheetError Sheet) :
    b.MarksChanges (b.orKeep ((edited.map b.resize).map Prod.snd)) :=
  of_orKeep_resize (.refl b) fun _ _ => .inl rfl

/-- Whether a request starts over or takes over another sheet. -/
def Request.renews : Request → Bool
  | newSheet | replaceSheet .. => true
  | _ => false

/-- **A request that takes over no other sheet marks what it changes.** -/
theorem marksChanges_perform {request : Request} (h : request.renews = false) :
    b.MarksChanges (b.perform request) := by
  cases request with
  | setText name text => exact of_orKeep (.refl b) fun _ => marksChanges_setText
  | commit name => exact of_orKeep_commit (.refl b) fun _ _ => marksChanges_commit
  | edit name text => exact of_orKeep_commit (.refl b) fun _ _ => marksChanges_edit
  | recalculate => exact marksChanges_recalculate b
  | addRow | addColumn | deleteRow | deleteColumn => exact marksChanges_resize _
  | newSheet | replaceSheet => cases h

end Workbook

end Spreadsheet
