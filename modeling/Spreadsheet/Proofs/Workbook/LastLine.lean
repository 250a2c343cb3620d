import Spreadsheet.Proofs.Evaluation.Extension
import Spreadsheet.Proofs.Sheet.Shifts
import Spreadsheet.Proofs.Workbook.Contents

/-!
# Proofs/Workbook/LastLine — adding or removing the last line disturbs only missing names

A line behind the last one moves no cell, so the sheet with it extends the sheet without it
(`Edits.extends_of_stays`, `Edits.extends_of_kept`).  Where nothing is pending on either sheet, a
cell of the smaller one shows the same on both, unless its evaluation there misses a name
(`Coherent.keepsValues`) — the values copied along a chain are compared by induction on the chain.
-/

namespace Spreadsheet

namespace Sheet

variable {s t : Sheet} {config : Config} {move : Position → Option Position} {id : CellId}
  {p q : Position}

/-! ## Edits that move no cell -/

/-- A cell that stays where it is keeps its text. -/
theorem Edits.cell?_of_stays (h : s.Edits t move) {c : Cell} (hc : s.cell? id = some c)
    (hmove : move c.position = some c.position) :
    ∃ c', t.cell? id = some c' ∧ c'.position = c.position ∧ c'.text = c.text := by
  have hmoved := h.moved id (index_lt_of_cell? hc)
  rw [hc, Option.bind_some, relocateCell, hmove] at hmoved
  exact ⟨_, hmoved, rfl, rfl⟩

/-- A position whose cell stays has the same cell afterwards. -/
theorem Edits.idAt_of_stays (hs : s.Consistent) (ht : t.Consistent) (h : s.Edits t move)
    (hp : s.idAt p = some id) (hmove : move p = some p) : t.idAt p = some id := by
  obtain ⟨c, hc, rfl⟩ := (hs.idAt_iff p id).mp hp
  obtain ⟨c', hc', hposition, -⟩ := h.cell?_of_stays hc hmove
  exact (ht.idAt_iff _ id).mpr ⟨c', hc', hposition⟩

theorem lookup_of_idAt (h : ∀ p id, s.idAt p = some id → t.idAt p = some id) {name : String}
    (hname : s.lookup name = some id) : t.lookup name = some id := by
  rw [lookup] at *
  split at hname
  · split at hname
    · rename_i hcanonical
      rw [if_pos hcanonical]
      exact h _ _ hname
    · cases hname
  · cases hname

/-- **A sheet is extended by an edit under which all its cells stay.** -/
theorem Edits.extends_of_stays (hs : s.Consistent) (ht : t.Consistent) (h : s.Edits t move)
    (hmove : ∀ p, (s.idAt p).isSome = true → move p = some p) : s.Extends t where
  text id hid := by
    obtain ⟨c, hc⟩ := isLive_iff.mp hid
    have hp : s.idAt c.position = some id := (hs.idAt_iff _ id).mpr ⟨c, hc, rfl⟩
    obtain ⟨c', hc', -, htext⟩ := h.cell?_of_stays hc (hmove _ (by rw [hp]; rfl))
    simp [text?, hc, hc', htext]
  lookup _ _ := lookup_of_idAt fun p id hp => h.idAt_of_stays hs ht hp (hmove p (by rw [hp]; rfl))

/-- **A sheet extends what an edit leaves of it, if the cells left stay and none is new.** -/
theorem Edits.extends_of_kept (hs : s.Consistent) (ht : t.Consistent) (h : s.Edits t move)
    (hsize : t.slots.size = s.slots.size)
    (hmove : ∀ p q, (s.idAt p).isSome = true → move p = some q → q = p) : t.Extends s := by
  have hcell : ∀ id c', t.cell? id = some c' →
      ∃ c, s.cell? id = some c ∧ c.position = c'.position ∧ c.text = c'.text := by
    intro id c' hc'
    have hmoved := h.moved id (hsize ▸ index_lt_of_cell? hc')
    obtain ⟨c, hc, hrelocated⟩ := Option.bind_eq_some_iff.mp (hmoved.symm.trans hc')
    obtain ⟨q, hq, rfl⟩ := relocateCell_eq_some_iff.mp hrelocated
    have hp : s.idAt c.position = some id := (hs.idAt_iff _ id).mpr ⟨c, hc, rfl⟩
    exact ⟨c, hc, (hmove _ q (by rw [hp]; rfl) hq).symm, rfl⟩
  constructor
  case text =>
    intro id hid
    obtain ⟨c', hc'⟩ := isLive_iff.mp hid
    obtain ⟨c, hc, -, htext⟩ := hcell id c' hc'
    simp [text?, hc, hc', htext]
  case lookup =>
    intro _ _
    refine lookup_of_idAt fun p id hp => ?_
    obtain ⟨c', hc', rfl⟩ := (ht.idAt_iff p id).mp hp
    obtain ⟨c, hc, hposition, -⟩ := hcell id c' hc'
    exact (hs.idAt_iff _ id).mpr ⟨c, hc, hposition⟩

/-! ## The last line -/

section

variable {axis : Axis} {line : Nat}

theorem Axis.push_of_lt (h : axis.lineOf p < line) : axis.push line p = p :=
  if_neg (Nat.not_le_of_gt h)

theorem Axis.drop_of_lt (h : axis.lineOf p < line) : axis.drop line p = some p :=
  (if_neg (Nat.ne_of_lt h)).trans (congrArg some (if_neg (Nat.not_lt_of_gt h)))

/-- A line behind the last one pushes nothing. -/
theorem Axis.extends_insert (hs : s.Consistent) (h : axis.insert s (axis.count s) = .ok t) :
    s.Extends t :=
  (edits_insert h).extends_of_stays hs (consistent_insert hs h).1 fun _ hp =>
    congrArg some (push_of_lt ((isSome_idAt_iff hs).mp hp).1)

/-- Without the last line, the others stay. -/
theorem Axis.extends_delete (hs : s.Consistent) (h : axis.delete s (axis.count s - 1) = .ok t) :
    t.Extends s := by
  refine (edits_delete h).extends_of_kept hs (consistent_delete hs h).1
    (congrArg CellId.index (deletes_of_delete hs h).nextId_eq) fun p q hp hq => ?_
  have hline : axis.lineOf p < axis.count s := ((isSome_idAt_iff hs).mp hp).1
  by_cases hlast : axis.lineOf p = axis.count s - 1
  · rw [drop, if_pos hlast] at hq
    cases hq
  · exact (Option.some.inj ((drop_of_lt (by omega)).symm.trans hq)).symm

end

/-! ## Values -/

/-- Every cell of the first sheet is a cell of the second and shows the same there, unless on the
first it shows the code of a failure because its evaluation misses a name. -/
def KeepsValues (s t : Sheet) : Prop := ∀ id, s.isLive id = true →
  t.isLive id = true ∧ (t.valueOf id = s.valueOf id
    ∨ s.valueOf id = missingCode ∧ ∃ name, (s.evaluate id).1 = .error (.missing name))

/-- A settled cell shows the same on a larger sheet, unless its evaluation misses a name: what it
copies misses none. -/
theorem Settled.valueOf_of_extends (hs : s.Consistent) (ht : t.Coherent config [])
    (h : s.Extends t) (hid : s.Settled config id) (hlive : s.isLive id = true) :
    t.valueOf id = s.valueOf id ∨ ∃ name, s.plainEvaluate id = .error (.missing name) := by
  induction hid with
  | @intro id hshown _ ih =>
    rcases h.plainEvaluate hs hlive with heval | ⟨_, hfails, name, rfl⟩
    · left
      have hsource := h.source? hs ht.consistent hlive heval
      rw [hshown, (ht.settled (h.isLive hlive)).valueOf_eq_shown]
      refine ht.consistent.shown_congr hs (h.text id hlive) heval hsource fun source heq => ?_
      rw [hsource] at heq
      rcases ih source heq (hs.isLive_source heq) with hsame | ⟨name, hmissing⟩
      · exact hsame
      · obtain ⟨err, herr, hrecoverable⟩ := hs.exists_plainEvaluate_source heq
        cases hmissing.symm.trans herr
        cases hrecoverable
    · exact .inr ⟨name, hfails⟩

/-- **More cells disturb only missing names**, where nothing is pending. -/
theorem Coherent.keepsValues (hs : s.Coherent config []) (ht : t.Coherent config [])
    (h : s.Extends t) : s.KeepsValues t := by
  intro id hid
  have hsettled := hs.settled hid
  refine ⟨h.isLive hid, ?_⟩
  rcases hsettled.valueOf_of_extends hs.consistent ht h hid with hsame | ⟨name, hmissing⟩
  · exact .inl hsame
  · refine .inr ⟨?_, name, by rw [evaluate_fst, hmissing]⟩
    rw [hsettled.valueOf_eq_shown, shown_of_missing hid hmissing]

end Sheet

namespace Workbook

variable {b : Workbook} {t : Sheet}

/-- The values after a line is added. -/
theorem keepsValues_resize (hb : b.Coherent []) (ht : t.Consistent) (h : b.sheet.Extends t) :
    b.sheet.KeepsValues (b.resize t).2.sheet :=
  Sheet.Coherent.keepsValues hb (Sheet.coherent_recalculate ht b.config)
    (h.trans (.of_bare_eq (Sheet.bare_recalculateIn ht b.config t.ids).symm))

/-- The values after a line is deleted. -/
theorem resize_keepsValues (hb : b.Coherent []) (ht : t.Consistent) (h : t.Extends b.sheet) :
    (b.resize t).2.sheet.KeepsValues b.sheet :=
  Sheet.Coherent.keepsValues (Sheet.coherent_recalculate ht b.config) hb
    ((Sheet.Extends.of_bare_eq (Sheet.bare_recalculateIn ht b.config t.ids)).trans h)

/-- What an operation on a line yields, if it succeeds. -/
theorem map_resize_eq_ok_iff {edited : Except SheetError Sheet} {r : Recalculation × Workbook} :
    edited.map b.resize = .ok r ↔ ∃ t, edited = .ok t ∧ r = b.resize t := by
  cases edited <;> simp [Except.map, eq_comm]

/-- A cell that an edit leaves at its position is there when the sheet is taken over. -/
theorem idAt_resize_of_stays {move : Position → Option Position} {p : Position} {id : CellId}
    (hb : b.Coherent []) (ht : t.Consistent) (hedits : b.sheet.Edits t move)
    (hp : b.sheet.idAt p = some id) (hmove : move p = some p) :
    (b.resize t).2.sheet.idAt p = some id := by
  have hgrid : (b.resize t).2.sheet.grid = t.grid :=
    Sheet.grid_of_bare_eq (Sheet.bare_recalculateIn ht b.config t.ids)
  rw [Sheet.idAt, hgrid]
  exact hedits.idAt_of_stays hb.consistent ht hp hmove

/-- A line is added behind the last one. -/
theorem Coherent.addLine (hb : b.Coherent []) (axis : Sheet.Axis) :
    ∃ r, (axis.insert b.sheet (axis.count b.sheet)).map b.resize = .ok r
      ∧ b.sheet.KeepsValues r.2.sheet ∧ ∀ p id, b.sheet.idAt p = some id →
        r.2.sheet.idAt p = some id := by
  obtain ⟨t, ht⟩ := Sheet.Axis.exists_insert (Nat.le_refl (axis.count b.sheet))
  obtain ⟨hs, -⟩ := Sheet.Axis.consistent_insert hb.consistent ht
  refine ⟨_, map_resize_eq_ok_iff.mpr ⟨t, ht, rfl⟩,
    keepsValues_resize hb hs (Sheet.Axis.extends_insert hb.consistent ht), fun p id hid => ?_⟩
  have hline : axis.lineOf p < axis.count b.sheet :=
    ((Sheet.Axis.isSome_idAt_iff hb.consistent).mp (by rw [hid]; rfl)).1
  exact idAt_resize_of_stays hb hs (Sheet.Axis.edits_insert ht) hid
    (congrArg some (Sheet.Axis.push_of_lt hline))

/-- The last line is deleted. -/
theorem Coherent.deleteLine (hb : b.Coherent []) (axis : Sheet.Axis)
    {r : Recalculation × Workbook}
    (h : (axis.delete b.sheet (axis.count b.sheet - 1)).map b.resize = .ok r) :
    r.2.sheet.KeepsValues b.sheet ∧ ∀ p id, axis.lineOf p + 1 < axis.count b.sheet →
      b.sheet.idAt p = some id → r.2.sheet.idAt p = some id := by
  obtain ⟨t, ht, rfl⟩ := map_resize_eq_ok_iff.mp h
  obtain ⟨hs, -⟩ := Sheet.Axis.consistent_delete hb.consistent ht
  refine ⟨resize_keepsValues hb hs (Sheet.Axis.extends_delete hb.consistent ht),
    fun p id hp hid => ?_⟩
  exact idAt_resize_of_stays hb hs (Sheet.Axis.edits_delete ht) hid
    (Sheet.Axis.drop_of_lt (by omega))

/-- **Adding or removing the last line disturbs only missing names.**  In a workbook with nothing
pending a row or a column can be added, and every cell there was stays and shows what it did, unless
it showed the code of a missing name because its evaluation misses one.  When the last row or column
is deleted, the cells before it stay, and every cell that is left shows what it did or now shows that
code. -/
theorem Coherent.keepsValues_last_line (hb : b.Coherent []) :
    (∃ report b', b.addRow = .ok (report, b') ∧ b.sheet.KeepsValues b'.sheet
        ∧ ∀ p id, b.sheet.idAt p = some id → b'.sheet.idAt p = some id)
      ∧ (∃ report b', b.addColumn = .ok (report, b') ∧ b.sheet.KeepsValues b'.sheet
        ∧ ∀ p id, b.sheet.idAt p = some id → b'.sheet.idAt p = some id)
      ∧ (∀ report b', b.deleteRow = .ok (report, b') → b'.sheet.KeepsValues b.sheet
        ∧ ∀ p id, p.row + 1 < b.sheet.rows → b.sheet.idAt p = some id → b'.sheet.idAt p = some id)
      ∧ ∀ report b', b.deleteColumn = .ok (report, b') → b'.sheet.KeepsValues b.sheet
        ∧ ∀ p id, p.col + 1 < b.sheet.cols → b.sheet.idAt p = some id →
          b'.sheet.idAt p = some id := by
  refine ⟨?_, ?_, fun report b' => hb.deleteLine .row, fun report b' => hb.deleteLine .column⟩
  · obtain ⟨r, h⟩ := hb.addLine .row
    exact ⟨r.1, r.2, h⟩
  · obtain ⟨r, h⟩ := hb.addLine .column
    exact ⟨r.1, r.2, h⟩

end Workbook

end Spreadsheet
