import Spreadsheet.Proofs.Recalculation.Commit
import Spreadsheet.Proofs.Storage.Restored
import Spreadsheet.Workbook

/-!
# Proofs/Workbook/History — what a workbook shows does not depend on its history

A history is a list of requests to a new workbook.  Along with it goes the list of pending cells, in
which a text was changed and not evaluated since.  Every request keeps the sheet coherent with that
list (`coherent_perform`); so when nothing is pending, every cell shows what a recalculation would
show.
-/

namespace Spreadsheet

namespace Workbook

variable {b : Workbook} {pending : List CellId}

/-! ## Requests -/

/-- A request to a workbook.  A sheet from elsewhere is consistent, as every sheet is that was
edited before, restored from a snapshot (`Snapshot.consistent_restore`) or built from a table
(`Table.consistent_toSheet`). -/
inductive Request where
  | setText (name text : String)
  | commit (name : String)
  | edit (name text : String)
  | recalculate
  | addRow
  | addColumn
  | deleteRow
  | deleteColumn
  | newSheet
  | replaceSheet (sheet : {s : Sheet // s.Consistent}) (filename : Option String)

/-- The workbook an operation yields; one that fails leaves the workbook as it is. -/
def orKeep (b : Workbook) (result : Except SheetError Workbook) : Workbook :=
  match result with
  | .ok b => b
  | .error _ => b

/-- The workbook after a request. -/
def perform (b : Workbook) : Request → Workbook
  | .setText name text => b.orKeep (b.setText name text)
  | .commit name => b.orKeep ((b.commit name).map Prod.snd)
  | .edit name text => b.orKeep ((b.edit name text).map Prod.snd)
  | .recalculate => b.recalculate.2
  | .addRow => b.orKeep (b.addRow.map Prod.snd)
  | .addColumn => b.orKeep (b.addColumn.map Prod.snd)
  | .deleteRow => b.orKeep (b.deleteRow.map Prod.snd)
  | .deleteColumn => b.orKeep (b.deleteColumn.map Prod.snd)
  | .newSheet => b.newSheet
  | .replaceSheet sheet filename => (b.replaceSheet sheet filename).2

/-- The cells that are pending after a request: a changed text makes its cell pending until the cell
is committed or all cells are evaluated. -/
def stillPending (b : Workbook) (pending : List CellId) : Request → List CellId
  | .setText name text =>
      match b.sheet.resolve name with
      | .ok id => if b.sheet.text? id = some text then pending else id :: pending
      | .error _ => pending
  | .commit name | .edit name _ =>
      match b.sheet.resolve name with
      | .ok id => pending.filter (· ≠ id)
      | .error _ => pending
  | .addRow => if b.addRow.isOk then [] else pending
  | .addColumn => if b.addColumn.isOk then [] else pending
  | .deleteRow => if b.deleteRow.isOk then [] else pending
  | .deleteColumn => if b.deleteColumn.isOk then [] else pending
  | .recalculate | .newSheet | .replaceSheet .. => []

/-- The workbook after a list of requests. -/
def run (b : Workbook) (requests : List Request) : Workbook := requests.foldl perform b

/-- The cells that are pending after a list of requests. -/
def pendingAfter (b : Workbook) (pending : List CellId) : List Request → List CellId
  | [] => pending
  | request :: requests =>
      (b.perform request).pendingAfter (b.stillPending pending request) requests

/-! ## One request -/

/-- What is stored in the sheet of a workbook is right apart from pending cells. -/
def Coherent (b : Workbook) (pending : List CellId) : Prop :=
  b.sheet.Coherent b.config pending

theorem isLive_of_resolve {s : Sheet} (hs : s.Consistent) {name : String} {id : CellId}
    (h : s.resolve name = .ok id) : s.isLive id = true :=
  hs.isLive_of_lookup (Sheet.resolve_eq_ok_iff.mp h)

/-- Entering the text a cell has changes nothing. -/
theorem setText_of_text?_eq {s t : Sheet} {id : CellId} {text : String}
    (ht : s.setText id text = .ok t) (h : s.text? id = some text) : t = s := by
  obtain ⟨-, rfl⟩ := Sheet.setText_eq_ok_iff.mp ht
  refine Sheet.ext_cells rfl (by simp) fun j => ?_
  rw [Sheet.cell?_modifyCell]
  split
  · rename_i hj
    subst hj
    obtain ⟨c, hc, rfl⟩ := Option.map_eq_some_iff.mp h
    rw [hc]
    rfl
  · rfl

section

variable {name text : String} {id : CellId} {err : SheetError} {t : Sheet}

theorem setText_of_resolve (h : b.sheet.resolve name = .ok id)
    (ht : b.sheet.setText id text = .ok t) :
    b.setText name text = .ok { b with sheet := t, dirty := true } := by
  rw [setText, h]
  show (b.sheet.setText id text >>= _) = _
  rw [ht]
  rfl

theorem setText_of_resolve_error (h : b.sheet.resolve name = .error err) :
    b.setText name text = .error err := by
  rw [setText, h]
  rfl

theorem commit_of_resolve (h : b.sheet.resolve name = .ok id) :
    b.commit name = .ok ((b.sheet.commit b.config id).1,
      { b with sheet := (b.sheet.commit b.config id).2
               status := (b.sheet.commit b.config id).1.message }) := by
  rw [commit, h]
  rfl

theorem commit_of_resolve_error (h : b.sheet.resolve name = .error err) :
    b.commit name = .error err := by
  rw [commit, h]
  rfl

/-- A text can be entered in every cell that has a name. -/
theorem exists_setText (hs : b.sheet.Consistent) (h : b.sheet.resolve name = .ok id)
    (text : String) : ∃ t, b.sheet.setText id text = .ok t :=
  ⟨_, Sheet.setText_eq_ok_iff.mpr ⟨isLive_of_resolve hs h, rfl⟩⟩

theorem resolve_setText (ht : b.sheet.setText id text = .ok t) (name : String) :
    t.resolve name = b.sheet.resolve name := by
  rw [Sheet.resolve, Sheet.resolve]
  rw [Sheet.lookup_setText ht]

end

theorem coherent_setText (h : b.Coherent pending) (name text : String) :
    (b.perform (.setText name text)).Coherent (b.stillPending pending (.setText name text)) := by
  rw [perform, stillPending]
  cases hresolve : b.sheet.resolve name with
  | error err =>
    rw [setText_of_resolve_error hresolve]
    exact h
  | ok id =>
    obtain ⟨t, ht⟩ := exists_setText h.consistent hresolve text
    rw [setText_of_resolve hresolve ht]
    dsimp only
    split
    · rename_i hsame
      rw [setText_of_text?_eq ht hsame]
      exact h
    · exact Sheet.Coherent.setText ht h

/-- A commit takes its cell off the pending ones. -/
theorem coherent_commit_of_resolve (h : b.Coherent pending) {name : String} {id : CellId}
    (hresolve : b.sheet.resolve name = .ok id) {pending' : List CellId}
    (hpending : ∀ j ∈ pending, j = id ∨ j ∈ pending') :
    (b.orKeep ((b.commit name).map Prod.snd)).Coherent pending' := by
  rw [commit_of_resolve hresolve]
  exact Sheet.Coherent.commit h hpending

theorem coherent_commit (h : b.Coherent pending) (name : String) :
    (b.perform (.commit name)).Coherent (b.stillPending pending (.commit name)) := by
  rw [perform, stillPending]
  cases hresolve : b.sheet.resolve name with
  | error err =>
    rw [commit_of_resolve_error hresolve]
    exact h
  | ok id =>
    refine coherent_commit_of_resolve h hresolve fun j hj => ?_
    by_cases heq : j = id
    · exact .inl heq
    · exact .inr (List.mem_filter.mpr ⟨hj, by simpa using heq⟩)

theorem coherent_edit (h : b.Coherent pending) (name text : String) :
    (b.perform (.edit name text)).Coherent (b.stillPending pending (.edit name text)) := by
  rw [perform, stillPending, edit]
  cases hresolve : b.sheet.resolve name with
  | error err =>
    rw [setText_of_resolve_error hresolve]
    exact h
  | ok id =>
    obtain ⟨t, ht⟩ := exists_setText h.consistent hresolve text
    rw [setText_of_resolve hresolve ht]
    have hentered : Coherent { b with sheet := t, dirty := true } (id :: pending) :=
      Sheet.Coherent.setText ht h
    have hresolve' : t.resolve name = .ok id := (resolve_setText ht name).trans hresolve
    have hcommit := commit_of_resolve (b := { b with sheet := t, dirty := true }) hresolve'
    show (b.orKeep ((commit { b with sheet := t, dirty := true } name).map Prod.snd)).Coherent _
    rw [hcommit]
    refine Sheet.Coherent.commit hentered fun j hj => ?_
    by_cases heq : j = id
    · exact .inl heq
    · exact .inr (List.mem_filter.mpr ⟨(List.mem_cons.mp hj).resolve_left heq, by simpa using heq⟩)

/-- **A workbook whose cells have all been evaluated has nothing pending.** -/
theorem coherent_recalculate (hs : b.sheet.Consistent) : b.recalculate.2.Coherent [] :=
  Sheet.coherent_recalculate hs b.config

/-- An edit of the structure leaves nothing pending, if it succeeds. -/
theorem coherent_resize (h : b.Coherent pending) {edited : Except SheetError Sheet}
    (hedited : ∀ t, edited = .ok t → t.Consistent) :
    (b.orKeep ((edited.map b.resize).map Prod.snd)).Coherent
      (if (edited.map b.resize).isOk then [] else pending) := by
  cases edited with
  | error err => exact h
  | ok t => exact Sheet.coherent_recalculate (hedited t rfl) b.config

/-- **Every request keeps the sheet coherent with the pending cells.** -/
theorem coherent_perform (h : b.Coherent pending) (request : Request) :
    (b.perform request).Coherent (b.stillPending pending request) := by
  cases request with
  | setText name text => exact coherent_setText h name text
  | commit name => exact coherent_commit h name
  | edit name text => exact coherent_edit h name text
  | recalculate => exact coherent_recalculate h.consistent
  | addRow => exact coherent_resize h fun t ht => h.consistent.insertRow ht
  | addColumn => exact coherent_resize h fun t ht => h.consistent.insertColumn ht
  | deleteRow => exact coherent_resize h fun t ht => h.consistent.deleteRow ht
  | deleteColumn => exact coherent_resize h fun t ht => h.consistent.deleteColumn ht
  | newSheet => exact Sheet.coherent_blank b.config.rows b.config.cols b.config
  | replaceSheet sheet filename => exact Sheet.coherent_recalculate sheet.2 b.config

/-! ## Histories -/

section

variable {name text : String} {b' : Workbook}

/-- What a text entered in a workbook does, if it is entered. -/
theorem setText_eq_ok_iff : b.setText name text = .ok b' ↔ ∃ id t, b.sheet.resolve name = .ok id
    ∧ b.sheet.setText id text = .ok t ∧ b' = { b with sheet := t, dirty := true } := by
  rw [setText]
  cases hresolve : b.sheet.resolve name with
  | error err => exact ⟨fun h => (nomatch h), fun ⟨_, _, h, _⟩ => (nomatch h)⟩
  | ok id =>
    change (b.sheet.setText id text >>= _) = _ ↔ _
    cases ht : b.sheet.setText id text with
    | error err =>
      refine ⟨fun h => (nomatch h), ?_⟩
      rintro ⟨_, _, hid, ht', -⟩
      cases hid
      cases ht.symm.trans ht'
    | ok t =>
      constructor
      · rintro ⟨⟩
        exact ⟨id, t, rfl, ht, rfl⟩
      · rintro ⟨_, _, hid, ht', rfl⟩
        cases hid
        cases ht.symm.trans ht'
        rfl

/-- What a commit in a workbook does, if its name leads to a cell. -/
theorem commit_eq_ok_iff {report : CommitReport} : b.commit name = .ok (report, b') ↔
    ∃ id, b.sheet.resolve name = .ok id ∧ report = (b.sheet.commit b.config id).1
      ∧ b' = { b with sheet := (b.sheet.commit b.config id).2
                      status := (b.sheet.commit b.config id).1.message } := by
  cases hresolve : b.sheet.resolve name with
  | error err =>
    rw [commit_of_resolve_error hresolve]
    exact ⟨fun h => (nomatch h), fun ⟨_, h, _⟩ => (nomatch h)⟩
  | ok id =>
    rw [commit_of_resolve hresolve]
    constructor
    · rintro ⟨⟩
      exact ⟨id, rfl, rfl, rfl⟩
    · rintro ⟨_, hid, rfl, rfl⟩
      cases hid
      rfl

theorem config_setText (h : b.setText name text = .ok b') : b'.config = b.config := by
  obtain ⟨_, _, -, -, rfl⟩ := setText_eq_ok_iff.mp h
  rfl

theorem config_commit {report : CommitReport} (h : b.commit name = .ok (report, b')) :
    b'.config = b.config := by
  obtain ⟨_, -, -, rfl⟩ := commit_eq_ok_iff.mp h
  rfl

/-- An edit enters the text and commits the cell. -/
theorem edit_eq_ok_iff {report : CommitReport} : b.edit name text = .ok (report, b') ↔
    ∃ entered, b.setText name text = .ok entered ∧ entered.commit name = .ok (report, b') := by
  rw [edit]
  cases hset : b.setText name text with
  | error err => exact ⟨fun h => (nomatch h), fun ⟨_, h, _⟩ => (nomatch h)⟩
  | ok entered => exact ⟨fun h => ⟨entered, rfl, h⟩, fun ⟨_, heq, h⟩ => by cases heq; exact h⟩

theorem config_edit {report : CommitReport} (h : b.edit name text = .ok (report, b')) :
    b'.config = b.config := by
  obtain ⟨entered, hset, hcommit⟩ := edit_eq_ok_iff.mp h
  exact (config_commit hcommit).trans (config_setText hset)

end

section

variable {motive : Workbook → Prop}

/-- What holds of a workbook, and of what an operation yields if it succeeds, holds after it. -/
theorem of_orKeep {result : Except SheetError Workbook} (h : motive b)
    (hok : ∀ b', result = .ok b' → motive b') : motive (b.orKeep result) := by
  cases result with
  | error err => exact h
  | ok b' => exact hok b' rfl

theorem of_orKeep_commit {result : Except SheetError (CommitReport × Workbook)} (h : motive b)
    (hok : ∀ report b', result = .ok (report, b') → motive b') :
    motive (b.orKeep (result.map Prod.snd)) := by
  cases result with
  | error err => exact h
  | ok r => exact hok r.1 r.2 rfl

theorem of_orKeep_resize {edited : Except SheetError Sheet} (h : motive b)
    (hok : ∀ t, edited = .ok t → motive (b.resize t).2) :
    motive (b.orKeep ((edited.map b.resize).map Prod.snd)) := by
  cases edited with
  | error err => exact h
  | ok t => exact hok t rfl

end

/-- No request changes the configuration. -/
theorem config_perform (b : Workbook) (request : Request) :
    (b.perform request).config = b.config := by
  cases request with
  | setText name text =>
    exact of_orKeep (motive := (·.config = b.config)) rfl fun _ h => config_setText h
  | commit name =>
    exact of_orKeep_commit (motive := (·.config = b.config)) rfl fun _ _ h => config_commit h
  | edit name text =>
    exact of_orKeep_commit (motive := (·.config = b.config)) rfl fun _ _ h => config_edit h
  | recalculate | newSheet | replaceSheet => rfl
  | addRow | addColumn | deleteRow | deleteColumn =>
    exact of_orKeep_resize (motive := (·.config = b.config)) rfl fun _ _ => rfl

theorem config_run (requests : List Request) :
    ∀ b : Workbook, (b.run requests).config = b.config := by
  induction requests with
  | nil => exact fun _ => rfl
  | cons request requests ih => exact fun b => (ih _).trans (config_perform b request)

/-- **Every history keeps the sheet coherent with the pending cells.** -/
theorem coherent_run (requests : List Request) : ∀ {b : Workbook} {pending : List CellId},
    b.Coherent pending → (b.run requests).Coherent (b.pendingAfter pending requests) := by
  induction requests with
  | nil => exact fun h => h
  | cons request requests ih => exact fun h => ih (coherent_perform h request)

theorem coherent_new (config : Config) : (new config).Coherent [] :=
  Sheet.coherent_blank config.rows config.cols config

/-- A history of a new workbook after which nothing is pending. -/
def Settles (config : Config) (requests : List Request) : Prop :=
  (new config).pendingAfter [] requests = []

theorem Settles.coherent {config : Config} {requests : List Request} (h : Settles config requests) :
    ((new config).run requests).sheet.Coherent config [] := by
  have hrun := coherent_run requests (coherent_new config)
  rw [h, Coherent, config_run] at hrun
  exact hrun

/-- **What a workbook shows does not depend on its history** — when nothing is pending, a
recalculation changes no value, and histories that lead to the same texts lead to the same
values. -/
theorem valueOf_run_of_settles {config : Config} {requests : List Request}
    (h : Settles config requests) :
    (∀ id, ((new config).run requests).recalculate.2.sheet.valueOf id
        = ((new config).run requests).sheet.valueOf id)
      ∧ ∀ requests', Settles config requests' →
        ((new config).run requests').sheet.bare = ((new config).run requests).sheet.bare →
        ∀ id, ((new config).run requests').sheet.valueOf id
          = ((new config).run requests).sheet.valueOf id := by
  refine ⟨fun id => ?_, fun requests' h' hbare => h'.coherent.valueOf_eq h.coherent hbare⟩
  have hs := h.coherent.consistent
  have hrecalculated : ((new config).run requests).recalculate.2.sheet
      = (((new config).run requests).sheet.recalculate config).2 := by
    show (((new config).run requests).sheet.recalculate ((new config).run requests).config).2 = _
    rw [config_run]
    rfl
  rw [hrecalculated]
  exact (Sheet.coherent_recalculate hs config).valueOf_eq h.coherent
    (Sheet.bare_recalculateIn hs config _) id

/-- A sum that is entered and committed shows what a recalculation shows. -/
theorem valueOf_run_committed_sum :
    let requests := [.setText "A1" "B1 + 1", .commit "A1"]
    Settles {} requests ∧ ∀ id, ((new {}).run requests).recalculate.2.sheet.valueOf id
      = ((new {}).run requests).sheet.valueOf id := by
  intro requests
  have h : Settles {} requests := by
    rw [Settles]
    decide +kernel
  exact ⟨h, (valueOf_run_of_settles h).1⟩

end Workbook

end Spreadsheet
