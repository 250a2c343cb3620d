import Spreadsheet.Proofs.Sheet.Operations

/-!
# Proofs/Sheet/Shifts — edits of lines are exact shifts, and deleting undoes inserting

Inserting a line pushes the lines from there on one further and fills the gap with empty cells
(`Axis.Inserts`); deleting one removes its cells, also from the lists of dependents, and pulls the
lines behind it back (`Axis.Deletes`).  A push that is followed by a pull is nothing, and ids that
were never issued stand in no list of dependents, so what an insertion brought in, a deletion takes
out without a trace but the ids it used up (`Axis.Inserts.undone`).
-/

namespace Spreadsheet

namespace Sheet

namespace Axis

variable {axis : Axis} {s t u : Sheet} {line : Nat} {p : Position} {id : CellId}

/-! ## Lines and positions -/

/-- The ids of a line, in order. -/
def idsOf (axis : Axis) (s : Sheet) (line : Nat) : List CellId :=
  (List.range (axis.length s)).filterMap fun place => s.idAt (axis.position line place)

/-- **Exactly the places in the lines have ids.** -/
theorem isSome_idAt_iff (hs : s.Consistent) :
    (s.idAt p).isSome = true ↔ axis.lineOf p < axis.count s ∧ axis.placeOf p < axis.length s := by
  rw [hs.idAt_isSome_iff]
  cases axis
  · exact Iff.rfl
  · exact And.comm

theorem count_pos (hs : s.Consistent) : 0 < axis.count s := by
  cases axis
  · exact hs.rows_pos
  · exact hs.cols_pos

theorem mem_idsOf_iff (hs : s.Consistent) :
    id ∈ axis.idsOf s line ↔ ∃ c, s.cell? id = some c ∧ axis.lineOf c.position = line := by
  simp only [idsOf, List.mem_filterMap, List.mem_range]
  constructor
  · rintro ⟨place, -, hid⟩
    obtain ⟨c, hc, hposition⟩ := (hs.idAt_iff _ id).mp hid
    exact ⟨c, hc, by rw [hposition, lineOf_position]⟩
  · rintro ⟨c, hc, rfl⟩
    have hid : s.idAt c.position = some id := (hs.idAt_iff _ id).mpr ⟨c, hc, rfl⟩
    exact ⟨axis.placeOf c.position, ((isSome_idAt_iff hs).mp (by rw [hid]; rfl)).2,
      by rw [position_lineOf, hid]⟩

/-! ## Inserting and deleting lines -/

/-- The operation that inserts a line. -/
def insertion : Axis → Nat → Operation
  | row => .insertRow
  | column => .insertColumn

/-- The operation that deletes a line. -/
def deletion : Axis → Nat → Operation
  | row => .deleteRow
  | column => .deleteColumn

/-- A sheet with a line inserted: everything is as before, but pushed out of its way, and the line
is empty and has the next ids in order. -/
structure Inserts (axis : Axis) (s : Sheet) (line : Nat) (t : Sheet) : Prop where
  consistent : t.Consistent
  count_eq : axis.count t = axis.count s + 1
  length_eq : axis.length t = axis.length s
  nextId_eq : t.nextId.index = s.nextId.index + axis.length s
  kept : ∀ id c, s.cell? id = some c →
    t.cell? id = some { c with position := axis.push line c.position }
  fresh : ∀ place < axis.length s, t.cell? ⟨s.nextId.index + place⟩
    = some (Cell.blank ⟨s.nextId.index + place⟩ (axis.position line place))
  only : ∀ id, t.isLive id = true →
    s.isLive id = true ∨ ∃ place < axis.length s, id = ⟨s.nextId.index + place⟩

/-- A sheet with a line deleted: its cells are gone, also from the lists of dependents, and the rest
is as before, but pulled into the gap. -/
structure Deletes (axis : Axis) (s : Sheet) (line : Nat) (t : Sheet) : Prop where
  consistent : t.Consistent
  count_eq : axis.count t + 1 = axis.count s
  length_eq : axis.length t = axis.length s
  nextId_eq : t.nextId = s.nextId
  kept : ∀ id c, s.cell? id = some c → axis.lineOf c.position ≠ line →
    t.cell? id = some { c with
      position := axis.pull line c.position
      dependents := c.dependents.filter (· ∉ axis.idsOf s line) }
  gone : ∀ id c, s.cell? id = some c → axis.lineOf c.position = line → t.cell? id = none
  only : ∀ id, s.cell? id = none → t.cell? id = none

/-! ## Requests that succeed -/

/-- **An insertion is an exact shift.** -/
theorem inserts_of_insert (hs : s.Consistent) (h : axis.insert s line = .ok t) :
    axis.Inserts s line t := by
  obtain ⟨ht, hcount, hlength⟩ := consistent_insert hs h
  obtain ⟨-, grid, rfl⟩ := insert_eq_ok h
  have hremoves : ∀ id, s.removes (fun p => some (axis.push line p)) id = false := fun id => by
    simp [removes]
  constructor
  case consistent => exact ht
  case count_eq => exact hcount
  case length_eq => exact hlength
  case nextId_eq => simp [nextId, relocate]
  case kept =>
    intro id c hc
    refine cell?_relocate_line.mpr (.inl ⟨c, hc, ?_⟩)
    simp [relocateCell, hremoves]
  case fresh =>
    exact fun place hplace => cell?_relocate_line.mpr
      (.inr (lineCell?_eq_some_iff.mpr ⟨place, hplace, rfl, rfl⟩))
  case only =>
    intro id hid
    obtain ⟨c, hc⟩ := isLive_iff.mp hid
    rcases cell?_relocate_line.mp hc with ⟨c', hc', -⟩ | hline
    · exact .inl (isLive_iff.mpr ⟨c', hc'⟩)
    · obtain ⟨place, hplace, hid, -⟩ := lineCell?_eq_some_iff.mp hline
      exact .inr ⟨place, hplace, hid⟩

/-- **A deletion is an exact shift.** -/
theorem deletes_of_delete (hs : s.Consistent) (h : axis.delete s line = .ok t) :
    axis.Deletes s line t := by
  obtain ⟨ht, hcount, hlength⟩ := consistent_delete hs h
  obtain ⟨htwo, -, grid, rfl⟩ := delete_eq_ok h
  have hremoves : ∀ id, s.removes (axis.drop line) id = decide (id ∈ axis.idsOf s line) := by
    intro id
    rw [Bool.eq_iff_iff, decide_eq_true_iff, mem_idsOf_iff hs, removes, Option.any_eq_true]
    refine exists_congr fun c => and_congr_right fun _ => ?_
    rw [drop]
    split <;> simp_all
  constructor
  case consistent => exact ht
  case count_eq => omega
  case length_eq => exact hlength
  case nextId_eq => simp [nextId, relocate]
  case kept =>
    intro id c hc hline
    rw [cell?_relocate, hc]
    simp [relocateCell, drop, hline, hremoves]
  case gone =>
    intro id c hc hline
    rw [cell?_relocate, hc]
    simp [relocateCell, drop, hline]
  case only =>
    intro id hid
    rw [cell?_relocate, hid]
    rfl

/-! ## Deleting what was inserted -/

/-- The ids of an inserted line were issued for it. -/
theorem Inserts.le_of_mem_idsOf (h : axis.Inserts s line t) (hid : id ∈ axis.idsOf t line) :
    s.nextId.index ≤ id.index := by
  obtain ⟨c, hc, hline⟩ := (mem_idsOf_iff h.consistent).mp hid
  rcases h.only id (isLive_iff.mpr ⟨c, hc⟩) with hold | ⟨place, -, rfl⟩
  · -- A cell from before stands beside the gap.
    obtain ⟨c', hc'⟩ := isLive_iff.mp hold
    obtain rfl := Option.some.inj (hc.symm.trans (h.kept id c' hc'))
    exact absurd hline lineOf_push_ne
  · exact Nat.le_add_right _ _

/-- **Deleting an inserted line gives back every cell**, as no list of dependents mentions the ids
that were issued for the line. -/
theorem Inserts.cell?_undone
    (hissued : ∀ source, ∀ id ∈ s.dependentsOf source, id.index < s.nextId.index)
    (h : axis.Inserts s line t) (h' : axis.Deletes t line u) (id : CellId) :
    u.cell? id = s.cell? id := by
  cases hc : s.cell? id with
  | some c =>
    have hdependents : c.dependents.filter (· ∉ axis.idsOf t line) = c.dependents := by
      refine List.filter_eq_self.mpr fun j hj => decide_eq_true fun hmem => ?_
      have hlt := hissued id j (by rwa [dependentsOf, hc])
      exact Nat.not_le_of_gt hlt (h.le_of_mem_idsOf hmem)
    rw [h'.kept id _ (h.kept id c hc) lineOf_push_ne]
    simp only [pull_push, hdependents]
  | none =>
    cases ht : t.cell? id with
    | none => exact h'.only id ht
    | some c =>
      rcases h.only id (isLive_iff.mpr ⟨c, ht⟩) with hold | ⟨place, hplace, rfl⟩
      · simp [isLive, hc] at hold
      · exact h'.gone _ _ (h.fresh place hplace) lineOf_position

/-- **Deleting an inserted line gives back the sheet.** -/
theorem Inserts.undone (hs : s.Consistent)
    (hissued : ∀ source, ∀ id ∈ s.dependentsOf source, id.index < s.nextId.index)
    (h : axis.Inserts s line t) (h' : axis.Deletes t line u) :
    u.grid = s.grid ∧ ∀ id, u.cell? id = s.cell? id := by
  have hcell := h.cell?_undone hissued h'
  have hcount : axis.count u = axis.count s := by
    have := h.count_eq
    have := h'.count_eq
    omega
  have hlength : axis.length u = axis.length s := h'.length_eq.trans h.length_eq
  refine ⟨?_, hcell⟩
  cases axis
  · exact hs.grid_eq h'.consistent hcount hlength hcell
  · exact hs.grid_eq h'.consistent hlength hcount hcell

/-- An insertion that fails leaves the sheet as it is. -/
theorem perform_insertion : s.perform (axis.insertion line) = s.orKeep (axis.insert s line) := by
  cases axis <;> rfl

end Axis

end Sheet

end Spreadsheet
