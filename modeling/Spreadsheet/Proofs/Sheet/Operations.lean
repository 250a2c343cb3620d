import Spreadsheet.Proofs.Recalculation.Dependents
import Spreadsheet.Proofs.Sheet.Indices
import Spreadsheet.Proofs.Sheet.Lines

/-!
# Proofs/Sheet/Operations — what an operation does to cells, ids and dependents

An operation on a sheet changes what is stored in cells, evaluates them, or edits the lines.  What
each kind can do to the cells there are, to the ids and to the lists of dependents is one statement
(`keeps_perform`).
-/

namespace Spreadsheet

namespace Sheet

variable {s t u : Sheet} {id source : CellId}

/-! ## Operations -/

/-- An operation on a sheet. -/
inductive Operation where
  | setText (id : CellId) (text : String)
  | setValue (id : CellId) (value : String)
  | addDependent (source dependent : CellId)
  | removeDependent (dependent : CellId)
  | insertRow (row : Nat)
  | insertColumn (col : Nat)
  | deleteRow (row : Nat)
  | deleteColumn (col : Nat)
  | evaluate (id : CellId)
  | refresh (config : Config) (id : CellId)
  | commit (config : Config) (id : CellId)
  | recalculate (config : Config)

/-- The sheet an edit yields; one that fails leaves the sheet as it is. -/
def orKeep (s : Sheet) : Except SheetError Sheet → Sheet
  | .ok t => t
  | .error _ => s

/-- The sheet after an operation. -/
def perform (s : Sheet) : Operation → Sheet
  | .setText id text => s.orKeep (s.setText id text)
  | .setValue id value => s.setValue id value
  | .addDependent source dependent => s.addDependent source dependent
  | .removeDependent dependent => s.removeDependent dependent
  | .insertRow row => s.orKeep (s.insertRow row)
  | .insertColumn col => s.orKeep (s.insertColumn col)
  | .deleteRow row => s.orKeep (s.deleteRow row)
  | .deleteColumn col => s.orKeep (s.deleteColumn col)
  | .evaluate id => (s.evaluate id).2
  | .refresh config id => (s.refresh config id).2
  | .commit config id => (s.commit config id).2
  | .recalculate config => (s.recalculate config).2

/-- The sheet after a list of operations. -/
def run (s : Sheet) (operations : List Operation) : Sheet := operations.foldl perform s

/-! ## What one operation can do -/

/-- What an operation does to the cells there are and to the lists of dependents. -/
structure Keeps (s : Sheet) (operation : Operation) (t : Sheet) : Prop where
  /-- New cells have ids that were not issued before. -/
  isLive_or_le : ∀ id, t.isLive id = true → s.isLive id = true ∨ s.slots.size ≤ id.index
  size_le : s.slots.size ≤ t.slots.size
  /-- A dependent is a cell, or was listed before without being one, or the operation lists it. -/
  dependents : ∀ source id, id ∈ t.dependentsOf source → t.isLive id = true
    ∨ s.isLive id = false
      ∧ (id ∈ s.dependentsOf source ∨ operation = .addDependent source id)

variable {operation : Operation}

/-- An operation that leaves the cells where they are, and lists no dependents but cells. -/
theorem Keeps.of_isLive_eq (hlive : ∀ id, t.isLive id = s.isLive id)
    (hsize : t.slots.size = s.slots.size)
    (hdep : ∀ source id, id ∈ t.dependentsOf source → id ∈ s.dependentsOf source
      ∨ s.isLive id = true ∨ operation = .addDependent source id) : s.Keeps operation t where
  isLive_or_le id hid := .inl (hlive id ▸ hid)
  size_le := Nat.le_of_eq hsize.symm
  dependents source id hid := by
    rw [hlive]
    cases hid' : s.isLive id with
    | true => exact .inl rfl
    | false =>
      exact .inr ⟨rfl, (hdep source id hid).imp_right fun h => h.resolve_left (by simp [hid'])⟩

theorem Keeps.refl (s : Sheet) (operation : Operation) : s.Keeps operation s :=
  .of_isLive_eq (fun _ => rfl) rfl fun _ _ => .inl

theorem Amends.keeps (h : s.Amends t) : s.Keeps operation t :=
  .of_isLive_eq (isLive_of_bare_eq h.bare) (size_slots_of_bare_eq h.bare) fun source id hid =>
    (h.origin source id hid).imp_right fun ⟨_, _, he, _⟩ => .inl (isLive_of_formula? he)

theorem keeps_setText (id : CellId) (text : String) :
    s.Keeps operation (s.orKeep (s.setText id text)) := by
  cases ht : s.setText id text with
  | error err => exact .refl s operation
  | ok t =>
    obtain ⟨-, rfl⟩ := setText_eq_ok_iff.mp ht
    exact .of_isLive_eq (fun j => isLive_modifyCell s id _ j) (size_slots_modifyCell s id _)
      fun source j hj => .inl (dependentsOf_setText ht source ▸ hj)

theorem keeps_addDependent (source dependent : CellId) :
    s.Keeps (.addDependent source dependent) (s.addDependent source dependent) := by
  have hbare := bare_addDependent s source dependent
  refine .of_isLive_eq (isLive_of_bare_eq hbare) (size_slots_of_bare_eq hbare)
    fun source' id hid => ?_
  rcases mem_dependentsOf_addDependent.mp hid with hid | ⟨-, rfl, rfl⟩
  · exact .inl hid
  · exact .inr (.inr rfl)

/-- An edit of the lines. -/
theorem keeps_edit {edited : Except SheetError Sheet} {move : Position → Option Position}
    (hedits : ∀ t, edited = .ok t → s.Edits t move) : s.Keeps operation (s.orKeep edited) := by
  cases edited with
  | error err => exact .refl s operation
  | ok t =>
    have h := hedits t rfl
    refine ⟨fun _ => h.isLive_or_le, h.size_le, fun source id hid => ?_⟩
    cases hlive : s.isLive id with
    | true => exact .inl (h.isLive_of_mem_dependentsOf hid hlive)
    | false => exact .inr ⟨rfl, .inl (h.mem_dependentsOf hid).1⟩

theorem keeps_insert (axis : Axis) (line : Nat) :
    s.Keeps operation (s.orKeep (axis.insert s line)) :=
  keeps_edit fun _ => Axis.edits_insert

theorem keeps_delete (axis : Axis) (line : Nat) :
    s.Keeps operation (s.orKeep (axis.delete s line)) :=
  keeps_edit fun _ => Axis.edits_delete

/-- **What every operation keeps.** -/
theorem keeps_perform (s : Sheet) (operation : Operation) :
    s.Keeps operation (s.perform operation) := by
  cases operation with
  | setText id text => exact keeps_setText id text
  | setValue id value => exact (amends_setValue s id value).keeps
  | addDependent source dependent => exact keeps_addDependent source dependent
  | removeDependent dependent => exact (amends_removeDependent s dependent).keeps
  | insertRow row => exact keeps_insert .row row
  | insertColumn col => exact keeps_insert .column col
  | deleteRow row => exact keeps_delete .row row
  | deleteColumn col => exact keeps_delete .column col
  | evaluate id => exact (amends_evaluate s id).keeps
  | refresh config id => exact (amends_refresh s config id).keeps
  | commit config id => exact (amends_commit s config id).keeps
  | recalculate config =>
    exact ((amends_clearDependents s).trans (amends_recalculate s config)).keeps

end Sheet

end Spreadsheet
