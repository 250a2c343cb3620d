import Spreadsheet.Proofs.Evaluation.Decided
import Spreadsheet.Proofs.Registry.Requests
import Spreadsheet.Proofs.Registry.Shifts
import Spreadsheet.Proofs.Workbook.LastLine

/-!
# Proofs/Registry/LastLine — adding or removing the last line, and the counter of ids

As long as there are ids for the new cells, a ledger follows its workbook, in which adding or
removing the last line disturbs only missing names (`valueOf_last_line`).  Ids that were issued
to cells since deleted are not issued again before the counter has run through; a ledger that goes
on adding and deleting rows comes to that point (`Represents.cycle`), and then a new cell takes the
place of an old one (`overwritten_worn`).
-/

namespace Spreadsheet

namespace Registry

variable {r t : Registry} {s s' : Sheet}

/-- Every cell of the first registry is a cell of the second and shows the same there, unless on the
first it shows the code of a failure because its evaluation misses a name. -/
def KeepsValues (r t : Registry) : Prop := ∀ id, r.isLive id = true →
  t.isLive id = true ∧ (t.valueOf id = r.valueOf id
    ∨ r.valueOf id = missingCode ∧ ∃ name, (r.evaluate id).1 = .error (.missing name))

theorem Represents.keepsValues (h : r.Represents s) (ht : t.Represents s')
    (hkeeps : s.KeepsValues s') : r.KeepsValues t := by
  intro id hid
  rw [h.isLive_eq] at hid
  rw [ht.isLive_eq, ht.valueOf_eq, h.valueOf_eq, (h.evaluate id).1]
  exact hkeeps id hid

end Registry

/-- The shape of a sheet is in its bare sheet. -/
theorem Sheet.shape_of_bare_eq {s t : Sheet} (h : s.bare = t.bare) :
    s.rows = t.rows ∧ s.cols = t.cols ∧ s.nextId = t.nextId := by
  have hgrid := grid_of_bare_eq h
  exact ⟨congrArg Array.size hgrid, by rw [cols, cols, hgrid],
    congrArg CellId.mk (size_slots_of_bare_eq h)⟩

namespace Workbook

variable {b : Workbook} {rows cols issued : Nat} {text : String}

/-! ## Rows that come and go -/

/-- A workbook with nothing pending, its shape and how many ids it has issued, and the text of its
first cell. -/
structure Holds (b : Workbook) (rows cols issued : Nat) (text : String) : Prop where
  coherent : b.Coherent []
  rows_eq : b.sheet.rows = rows
  cols_eq : b.sheet.cols = cols
  nextId_eq : b.sheet.nextId.index = issued
  idAt_eq : b.sheet.idAt ⟨0, 0⟩ = some ⟨0⟩
  text_eq : b.sheet.text? ⟨0⟩ = some text

theorem Holds.isLive (h : b.Holds rows cols issued text) : b.sheet.isLive ⟨0⟩ = true :=
  h.coherent.consistent.mem_ids_iff.mp (Sheet.mem_ids_iff.mpr ⟨_, h.idAt_eq⟩)

/-- A text that is no formula shows as it is. -/
theorem Holds.valueOf_eq (h : b.Holds rows cols issued "x") : b.sheet.valueOf ⟨0⟩ = "x" := by
  have hfault : parseFormula "x" = .error ⟨"Unknown identifier: x", 0⟩ := by decide +kernel
  rw [(h.coherent.settled h.isLive).valueOf_eq_shown,
    h.coherent.consistent.shown_of_not_formula h.text_eq (by decide) hfault]
  decide +kernel

/-- A text is entered in the first cell of a new workbook. -/
theorem holds_edit {config : Config} (hfit : max config.rows 1 * max config.cols 1 < UInt32.size)
    (text : String) : ((new config).perform (.edit "A1" text)).Holds (max config.rows 1)
      (max config.cols 1) (max config.rows 1 * max config.cols 1) text := by
  have hs := Sheet.consistent_blank config.rows config.cols
  have hnext : (new config).sheet.nextId.index = max config.rows 1 * max config.cols 1 := by
    simp [new, Sheet.blank, Sheet.nextId]
  have hidAt : (new config).sheet.idAt ⟨0, 0⟩ = some ⟨0⟩ := by
    rw [new, Sheet.idAt_blank, if_pos ⟨Nat.lt_of_lt_of_le Nat.zero_lt_one (Nat.le_max_right _ _),
      Nat.lt_of_lt_of_le Nat.zero_lt_one (Nat.le_max_right _ _)⟩, Nat.zero_mul]
    rfl
  have hresolve : (new config).sheet.resolve "A1" = .ok ⟨0⟩ :=
    Sheet.resolve_eq_ok_iff.mpr ((hs.lookup_eq_some_iff (hnext.trans_lt hfit)).mpr
      ⟨⟨0, 0⟩, hidAt, by decide +kernel⟩)
  obtain ⟨t, ht, hbare⟩ := exists_bare_edit hs hresolve text
  obtain ⟨hrows, hcols, hnextId⟩ := Sheet.shape_of_bare_eq hbare
  obtain ⟨hlive, rfl⟩ := Sheet.setText_eq_ok_iff.mp ht
  constructor
  case coherent =>
    have hedited := coherent_perform (coherent_new config) (.edit "A1" text)
    rwa [stillPending, hresolve] at hedited
  case rows_eq => exact hrows.trans (Sheet.rows_blank _ _)
  case cols_eq => exact hcols.trans (Sheet.cols_blank _ _)
  case nextId_eq =>
    rw [hnextId, ← hnext]
    exact Sheet.size_slots_modifyCell _ _ _
  case idAt_eq =>
    rw [Sheet.idAt, Sheet.grid_of_bare_eq hbare]
    exact hidAt
  case text_eq =>
    obtain ⟨c, hc⟩ := Sheet.isLive_iff.mp hlive
    rw [Sheet.text?_of_bare_eq hbare, Sheet.text?, Sheet.cell?_modifyCell, if_pos rfl, hc]
    rfl

/-- What a sheet of another size holds is kept when it is taken over. -/
theorem holds_resize {t : Sheet} (ht : t.Consistent) (hrows : t.rows = rows) (hcols : t.cols = cols)
    (hnext : t.nextId.index = issued) (hid : t.idAt ⟨0, 0⟩ = some ⟨0⟩)
    (htext : t.text? ⟨0⟩ = some text) : (b.resize t).2.Holds rows cols issued text := by
  have hbare : (b.resize t).2.sheet.bare = t.bare := Sheet.bare_recalculateIn ht b.config t.ids
  obtain ⟨hrows', hcols', hnext'⟩ := Sheet.shape_of_bare_eq hbare
  constructor
  case coherent => exact Sheet.coherent_recalculate ht b.config
  case rows_eq => exact hrows'.trans hrows
  case cols_eq => exact hcols'.trans hcols
  case nextId_eq => exact (congrArg CellId.index hnext').trans hnext
  case idAt_eq => rw [Sheet.idAt, Sheet.grid_of_bare_eq hbare, ← Sheet.idAt, hid]
  case text_eq => rw [Sheet.text?_of_bare_eq hbare, htext]

/-- A row that is added takes ids, and moves nothing. -/
theorem Holds.addRow (h : b.Holds rows cols issued text) :
    (b.perform .addRow).Holds (rows + 1) cols (issued + cols) text := by
  have hs := h.coherent.consistent
  obtain ⟨t, ht⟩ := Sheet.Axis.exists_insert (Nat.le_refl (Sheet.Axis.row.count b.sheet))
  have hinserts := Sheet.Axis.inserts_of_insert hs ht
  have hperform : b.perform .addRow = (b.resize t).2 :=
    congrArg (fun x : Except SheetError Sheet => b.orKeep ((x.map b.resize).map Prod.snd)) ht
  have hline : Sheet.Axis.row.lineOf ⟨0, 0⟩ < Sheet.Axis.row.count b.sheet :=
    ((Sheet.Axis.isSome_idAt_iff hs).mp (by rw [h.idAt_eq]; rfl)).1
  rw [hperform]
  refine holds_resize hinserts.consistent (hinserts.count_eq.trans (congrArg (· + 1) h.rows_eq))
    (hinserts.length_eq.trans h.cols_eq) (hinserts.nextId_eq.trans ?_)
    ((Sheet.Axis.edits_insert ht).idAt_of_stays hs hinserts.consistent h.idAt_eq
      (congrArg some (Sheet.Axis.push_of_lt hline)))
    (((Sheet.Axis.extends_insert hs ht).text _ h.isLive).trans h.text_eq)
  rw [h.nextId_eq]
  exact congrArg (issued + ·) h.cols_eq

/-- The last row is deleted, and its ids stay used up. -/
theorem Holds.deleteRow (h : b.Holds (rows + 1) cols issued text) (hrows : 0 < rows) :
    (b.perform .deleteRow).Holds rows cols issued text := by
  have hs := h.coherent.consistent
  have hcount : Sheet.Axis.row.count b.sheet = rows + 1 := h.rows_eq
  obtain ⟨t, ht⟩ : ∃ t, Sheet.Axis.row.delete b.sheet (Sheet.Axis.row.count b.sheet - 1) = .ok t :=
    Sheet.Axis.exists_delete (by omega) (by omega)
  have hdeletes := Sheet.Axis.deletes_of_delete hs ht
  have hfewer := hdeletes.count_eq
  have hperform : b.perform .deleteRow = (b.resize t).2 :=
    congrArg (fun x : Except SheetError Sheet => b.orKeep ((x.map b.resize).map Prod.snd)) ht
  have hidAt : t.idAt ⟨0, 0⟩ = some ⟨0⟩ :=
    (Sheet.Axis.edits_delete ht).idAt_of_stays hs hdeletes.consistent h.idAt_eq
      (Sheet.Axis.drop_of_lt (show 0 < Sheet.Axis.row.count b.sheet - 1 by omega))
  have hlive : t.isLive ⟨0⟩ = true :=
    hdeletes.consistent.mem_ids_iff.mp (Sheet.mem_ids_iff.mpr ⟨_, hidAt⟩)
  rw [hperform]
  exact holds_resize hdeletes.consistent (show Sheet.Axis.row.count t = rows by omega)
    (hdeletes.length_eq.trans h.cols_eq) ((congrArg CellId.index hdeletes.nextId_eq).trans
      h.nextId_eq) hidAt
    (((Sheet.Axis.extends_delete hs ht).text _ hlive).symm.trans h.text_eq)

end Workbook

namespace Ledger

open Registry (mixedOrders)

variable {l l' : Ledger} {b b' : Workbook} {orders : Orders}

/-! ## The last line -/

theorem Represents.keepsValues (h : l.Represents b) (h' : l'.Represents b')
    (hkeeps : b.sheet.KeepsValues b'.sheet) : l.registry.KeepsValues l'.registry :=
  h.registry.keepsValues h'.registry hkeeps

/-- What is added to the workbook is added to the ledger. -/
theorem Represents.added (h : l.Represents b) {x : Except SheetError (Recalculation × Ledger)}
    {y : Except SheetError (Recalculation × Workbook)} (hxy : Matches Reports x y)
    (hy : ∃ report b', y = .ok (report, b') ∧ b.sheet.KeepsValues b'.sheet
      ∧ ∀ p id, b.sheet.idAt p = some id → b'.sheet.idAt p = some id) :
    ∃ report l', x = .ok (report, l') ∧ l.registry.KeepsValues l'.registry
      ∧ ∀ p id, l.registry.idAt p = some id → l'.registry.idAt p = some id := by
  obtain ⟨report, b', rfl, hkeeps, hstays⟩ := hy
  obtain ⟨⟨report', l'⟩, rfl, -, h'⟩ := hxy.exists_ok
  refine ⟨report', l', rfl, h.keepsValues h' hkeeps, fun p id hid => ?_⟩
  rw [h'.registry.idAt_eq]
  exact hstays p id (h.registry.idAt_eq p ▸ hid)

/-- What is deleted from the ledger is deleted from the workbook. -/
theorem Represents.deleted (h : l.Represents b) {x : Except SheetError (Recalculation × Ledger)}
    {y : Except SheetError (Recalculation × Workbook)} (hxy : Matches Reports x y)
    {report : Recalculation} (hx : x = .ok (report, l')) {before : Position → Prop}
    (hy : ∀ report b', y = .ok (report, b') → b'.sheet.KeepsValues b.sheet
      ∧ ∀ p id, before p → b.sheet.idAt p = some id → b'.sheet.idAt p = some id) :
    l'.registry.KeepsValues l.registry
      ∧ ∀ p id, before p → l.registry.idAt p = some id → l'.registry.idAt p = some id := by
  subst hx
  obtain ⟨⟨report', b'⟩, rfl, -, h'⟩ := hxy.exists_ok'
  obtain ⟨hkeeps, hstays⟩ := hy report' b' rfl
  refine ⟨h'.keepsValues h hkeeps, fun p id hp hid => ?_⟩
  rw [h'.registry.idAt_eq]
  exact hstays p id hp (h.registry.idAt_eq p ▸ hid)

/-- A history that settles leaves a workbook with nothing pending, if it does not make the counter
of ids start over. -/
theorem Settles.exists_coherent {config : Config} {steps : List (Orders × Request)}
    (h : Settles config steps) (hsize : max config.rows 1 * max config.cols 1 < UInt32.size)
    (hfits : (new config).Fits steps) :
    ∃ b, ((new config).run steps).Represents b ∧ b.Coherent [] := by
  obtain ⟨hrun, hpending⟩ := (represents_new hsize).run steps hfits
  refine ⟨_, hrun, ?_⟩
  have hb := Workbook.coherent_run (steps.map (·.2.toWorkbook)) (Workbook.coherent_new config)
  rwa [← hpending, show (new config).pendingAfter [] steps = [] from h] at hb

/-- **Adding or removing the last line disturbs only missing names**, as long as the counter of ids
does not start over.  After a history that leaves nothing pending a row or a column can be added,
and every cell there was stays and shows what it did, unless it showed the code of a missing name
because its evaluation misses one.  When the last row or column is deleted, the cells before it
stay, and every cell that is left shows what it did or now shows that code. -/
theorem valueOf_last_line {config : Config} {steps : List (Orders × Request)}
    (h : Settles config steps) (hsize : max config.rows 1 * max config.cols 1 < UInt32.size)
    (hfits : (new config).Fits steps) (orders : Orders) :
    let l := (new config).run steps
    (l.HasRoom .addRow → ∃ report l', l.addRow orders = .ok (report, l')
        ∧ (∀ p id, l.registry.idAt p = some id → l'.registry.idAt p = some id)
        ∧ ∀ id, l.registry.isLive id = true → l'.registry.isLive id = true
          ∧ (l'.registry.valueOf id = l.registry.valueOf id
            ∨ l.registry.valueOf id = missingCode
              ∧ ∃ name, (l.registry.evaluate id).1 = .error (.missing name)))
      ∧ (l.HasRoom .addColumn → ∃ report l', l.addColumn orders = .ok (report, l')
        ∧ (∀ p id, l.registry.idAt p = some id → l'.registry.idAt p = some id)
        ∧ ∀ id, l.registry.isLive id = true → l'.registry.isLive id = true
          ∧ (l'.registry.valueOf id = l.registry.valueOf id
            ∨ l.registry.valueOf id = missingCode
              ∧ ∃ name, (l.registry.evaluate id).1 = .error (.missing name)))
      ∧ (∀ report l', l.deleteRow orders = .ok (report, l') →
        (∀ p id, p.row + 1 < l.registry.rows → l.registry.idAt p = some id →
          l'.registry.idAt p = some id)
        ∧ ∀ id, l'.registry.isLive id = true → l.registry.isLive id = true
          ∧ (l'.registry.valueOf id = l.registry.valueOf id ∨ l'.registry.valueOf id = missingCode))
      ∧ ∀ report l', l.deleteColumn orders = .ok (report, l') →
        (∀ p id, p.col + 1 < l.registry.cols → l.registry.idAt p = some id →
          l'.registry.idAt p = some id)
        ∧ ∀ id, l'.registry.isLive id = true → l.registry.isLive id = true
          ∧ (l'.registry.valueOf id = l.registry.valueOf id
            ∨ l'.registry.valueOf id = missingCode) := by
  intro l
  obtain ⟨b, hl, hb⟩ := h.exists_coherent hsize hfits
  obtain ⟨haddRow, haddColumn, hdeleteRow, hdeleteColumn⟩ :=
    Workbook.Coherent.keepsValues_last_line hb
  have hkept : ∀ {r t : Registry}, t.KeepsValues r → ∀ id, t.isLive id = true →
      r.isLive id = true ∧ (t.valueOf id = r.valueOf id ∨ t.valueOf id = missingCode) :=
    fun hkeeps id hid => (hkeeps id hid).imp_right fun h => h.imp Eq.symm And.left
  refine ⟨fun hroom => ?_, fun hroom => ?_, fun report l' hdelete => ?_,
    fun report l' hdelete => ?_⟩
  · obtain ⟨report, l', hadd, hkeeps, hstays⟩ := hl.added (hl.addRow orders hroom) haddRow
    exact ⟨report, l', hadd, hstays, hkeeps⟩
  · obtain ⟨report, l', hadd, hkeeps, hstays⟩ := hl.added (hl.addColumn orders hroom) haddColumn
    exact ⟨report, l', hadd, hstays, hkeeps⟩
  · rw [← hl.registry.rows_eq] at hdeleteRow
    obtain ⟨hkeeps, hstays⟩ := hl.deleted (hl.deleteRow orders) hdelete hdeleteRow
    exact ⟨hstays, hkept hkeeps⟩
  · rw [← hl.registry.cols_eq] at hdeleteColumn
    obtain ⟨hkeeps, hstays⟩ := hl.deleted (hl.deleteColumn orders) hdelete hdeleteColumn
    exact ⟨hstays, hkept hkeeps⟩

/-! ## Histories without bare texts -/

theorem stillPending_nil {request : Request} (h : ∀ name text, request ≠ .setText name text) :
    l.stillPending orders [] request = [] := by
  cases request with
  | setText name text => exact absurd rfl (h name text)
  | commit name | edit name text =>
    rw [stillPending]
    split <;> rfl
  | addRow | addColumn | deleteRow | deleteColumn => exact ite_self _
  | recalculate | newSheet | replaceSheet => rfl

/-- A history that enters texts by edits alone leaves nothing pending. -/
theorem pendingAfter_nil : ∀ {steps : List (Orders × Request)} {l : Ledger},
    (∀ step ∈ steps, ∀ name text, step.2 ≠ .setText name text) → l.pendingAfter [] steps = []
  | [], _, _ => rfl
  | step :: steps, l, h => by
      rw [pendingAfter, stillPending_nil (h step List.mem_cons_self)]
      exact pendingAfter_nil fun step' hstep' => h step' (List.mem_cons_of_mem _ hstep')

/-- Two rows, the first of which names the second and a third one: the third can be added, and the
second can be deleted. -/
theorem valueOf_last_line_missing_row :
    let config : Config := { rows := 2, cols := 1 }
    let steps := [(mixedOrders, .edit "A1" "A2 + A3")]
    let l := (new config).run steps
    Settles config steps ∧ max config.rows 1 * max config.cols 1 < UInt32.size
      ∧ (new config).Fits steps ∧ l.HasRoom .addRow
      ∧ (∃ report l', l.addRow mixedOrders = .ok (report, l')
        ∧ ∀ id, l.registry.isLive id = true → l'.registry.isLive id = true
          ∧ (l'.registry.valueOf id = l.registry.valueOf id
            ∨ l.registry.valueOf id = missingCode
              ∧ ∃ name, (l.registry.evaluate id).1 = .error (.missing name)))
      ∧ ∃ report l', l.deleteRow mixedOrders = .ok (report, l')
        ∧ ∀ id, l'.registry.isLive id = true → l.registry.isLive id = true
          ∧ (l'.registry.valueOf id = l.registry.valueOf id
            ∨ l'.registry.valueOf id = missingCode) := by
  intro config steps l
  have hsize : max config.rows 1 * max config.cols 1 < UInt32.size := by decide
  have hfits : (new config).Fits steps := ⟨trivial, trivial⟩
  have h : Settles config steps := pendingAfter_nil (by simp [steps])
  obtain ⟨hrun, -⟩ := (represents_new hsize).run steps hfits
  have hb := Workbook.holds_edit hsize "A2 + A3"
  have hroom : l.HasRoom .addRow := by
    show l.registry.nextId.toNat + l.registry.cols < _
    rw [hrun.registry.nextId_eq, hrun.registry.cols_eq]
    exact lt_of_eq_of_lt (congrArg₂ (· + ·) hb.nextId_eq hb.cols_eq) (by decide)
  have hrows : l.registry.rows = 2 := hrun.registry.rows_eq.trans hb.rows_eq
  obtain ⟨⟨report, l'⟩, hdelete⟩ : ∃ x, l.deleteRow mixedOrders = .ok x := by
    rw [deleteRow, Registry.deleteRow, if_neg (by omega), if_neg (by omega)]
    exact ⟨_, rfl⟩
  obtain ⟨hadded, -, hdeleted, -⟩ := valueOf_last_line h hsize hfits mixedOrders
  obtain ⟨report', l'', hadd, -, hadded⟩ := hadded hroom
  exact ⟨h, hsize, hfits, hroom, ⟨report', l'', hadd, hadded⟩, report, l', hdelete,
    (hdeleted report l' hdelete).2⟩

/-! ## When the counter starts over -/

/-- A cell of an added row shows nothing, also where its id was that of another cell. -/
theorem valueOf_addRow {report : Recalculation} (h : l.addRow orders = .ok (report, l'))
    (hcols : l.registry.cols ≤ UInt32.size) {place : Nat} (hplace : place < l.registry.cols) :
    l'.registry.valueOf (l.registry.idAfter place) = "" := by
  rw [addRow] at h
  cases hinsert : l.registry.insertRow orders l.registry.rows with
  | error err =>
    rw [hinsert] at h
    cases h
  | ok t =>
    rw [hinsert] at h
    obtain rfl : l' = (l.resize t).2 := (congrArg Prod.snd (Except.ok.inj h)).symm
    have hinserted : l.registry.insertLine orders .row l.registry.rows = .ok t := hinsert
    obtain ⟨-, hcell⟩ := Registry.insertLine_overwrites hinserted hcols hplace
    have htext : t.sheet.text? (l.registry.idAfter place) = some "" := by
      rw [Sheet.text?, Registry.cell?_sheet, hcell]
      rfl
    have hvalue : t.sheet.valueOf (l.registry.idAfter place) = "" := by
      rw [Sheet.valueOf, Registry.cell?_sheet, hcell]
      rfl
    show (t.adopt (t.sheet.recalculate l.config).2).valueOf _ = ""
    rw [Registry.valueOf, Registry.cell?, Registry.adopt, Registry.mapCells]
    dsimp only
    rw [Std.HashMap.getElem?_map, ← Registry.cell?, hcell]
    exact Sheet.valueOf_recalculateIn_of_text?_empty htext hvalue l.config t.sheet.ids

/-- A row is added and deleted again, so many times. -/
def cycles (rounds : Nat) : List (Orders × Request) :=
  (List.replicate rounds [(mixedOrders, .addRow), (mixedOrders, .deleteRow)]).flatten

theorem ne_setText_of_mem_cycles {rounds : Nat} {step : Orders × Request}
    (h : step ∈ cycles rounds) (name text : String) : step.2 ≠ .setText name text := by
  obtain ⟨round, hround, hstep⟩ := List.mem_flatten.mp h
  rw [List.eq_of_mem_replicate hround] at hstep
  rcases List.mem_cons.mp hstep with rfl | hstep
  · simp
  · rw [List.mem_singleton.mp hstep]
    simp

/-- **Rows that come and go use up the ids**, and change nothing before there are none left. -/
theorem Represents.cycle {cols : Nat} {text : String} :
    ∀ (rounds : Nat) {issued : Nat} {l : Ledger} {b : Workbook}, l.Represents b →
      b.Holds 1 cols issued text → issued + rounds * cols < UInt32.size →
      l.Fits (cycles rounds) ∧ ∃ b', (l.run (cycles rounds)).Represents b'
        ∧ b'.Holds 1 cols (issued + rounds * cols) text
  | 0, issued, l, b, h, hb, _ => ⟨trivial, b, h, by rwa [Nat.zero_mul]⟩
  | rounds + 1, issued, l, b, h, hb, hfit => by
      have hroom : l.HasRoom .addRow := by
        show l.registry.nextId.toNat + l.registry.cols < _
        rw [h.registry.nextId_eq, h.registry.cols_eq, hb.nextId_eq, hb.cols_eq]
        rw [Nat.succ_mul] at hfit
        omega
      have hadded := h.perform mixedOrders .addRow hroom
      have hdeleted := hadded.perform mixedOrders .deleteRow trivial
      obtain ⟨hfits, b', hrun, hb'⟩ := Represents.cycle rounds hdeleted
        (hb.addRow.deleteRow Nat.zero_lt_one) (by rw [Nat.succ_mul] at hfit; omega)
      refine ⟨⟨hroom, trivial, hfits⟩, b', hrun, ?_⟩
      rwa [Nat.succ_mul, Nat.add_comm (rounds * cols), ← Nat.add_assoc]

/-- **A text is lost when the counter starts over.**  It stands in a single row, and rows are added
and deleted until there are not enough ids for another one; the next row that is added takes the
place of the text in the tables, and its cell shows nothing. -/
theorem exists_overwritten {cols rounds : Nat} (hcols : 0 < cols)
    (hfit : cols + rounds * cols < UInt32.size)
    (hover : UInt32.size < cols + rounds * cols + cols) :
    let config : Config := { rows := 1, cols }
    let steps := (mixedOrders, .edit "A1" "x") :: cycles rounds
    let l := (new config).run steps
    Settles config steps ∧ max config.rows 1 * max config.cols 1 < UInt32.size
      ∧ (new config).Fits steps
      ∧ l.registry.idAt ⟨0, 0⟩ = some ⟨0⟩ ∧ l.registry.valueOf ⟨0⟩ = "x"
      ∧ ∃ report l', l.addRow mixedOrders = .ok (report, l') ∧ l'.registry.valueOf ⟨0⟩ = ""
        ∧ ¬ l.registry.KeepsValues l'.registry := by
  intro config steps l
  have hcells : max config.rows 1 * max config.cols 1 = cols := by
    rw [Nat.max_self, Nat.one_mul]
    exact Nat.max_eq_left hcols
  have hsize : max config.rows 1 * max config.cols 1 < UInt32.size := by omega
  have hedited := (represents_new hsize).perform mixedOrders (.edit "A1" "x") trivial
  have hentered := Workbook.holds_edit hsize "x"
  rw [hcells, Nat.max_eq_left hcols] at hentered
  obtain ⟨hfits, b, hl, hb⟩ := hedited.cycle rounds hentered hfit
  have hsettles : Settles config steps := by
    refine pendingAfter_nil fun step hstep => ?_
    rcases List.mem_cons.mp hstep with rfl | hstep
    · simp
    · exact ne_setText_of_mem_cycles hstep
  have hidAt : l.registry.idAt ⟨0, 0⟩ = some ⟨0⟩ := (hl.registry.idAt_eq _).trans hb.idAt_eq
  have hshown : l.registry.valueOf ⟨0⟩ = "x" := (hl.registry.valueOf_eq _).trans hb.valueOf_eq
  have hwidth : l.registry.cols = cols := hl.registry.cols_eq.trans hb.cols_eq
  have hnext : l.registry.nextId.toNat = cols + rounds * cols :=
    hl.registry.nextId_eq.trans hb.nextId_eq
  -- The first id comes up again behind the ids that are left.
  have hreissued : l.registry.idAfter (UInt32.size - (cols + rounds * cols)) = ⟨0⟩ := by
    rw [Registry.idAfter_eq, hnext, Nat.add_sub_cancel' (Nat.le_of_lt hfit), Nat.mod_self]
  obtain ⟨⟨report, l'⟩, hadd⟩ : ∃ x, l.addRow mixedOrders = .ok x := by
    rw [addRow, Registry.insertRow, if_neg (Nat.lt_irrefl _)]
    exact ⟨_, rfl⟩
  have hlost := valueOf_addRow hadd (by omega)
    (show UInt32.size - (cols + rounds * cols) < l.registry.cols by omega)
  rw [hreissued] at hlost
  refine ⟨hsettles, hsize, ⟨trivial, hfits⟩, hidAt, hshown, report, l', hadd, hlost,
    fun hkeeps => ?_⟩
  obtain ⟨-, hsame | ⟨hcode, -⟩⟩ := hkeeps ⟨0⟩ ((hl.registry.isLive_eq _).trans hb.isLive)
  · rw [hlost, hshown] at hsame
    exact absurd hsame (by decide)
  · rw [hshown] at hcode
    exact absurd hcode (by decide)

/-- A row of a million cells, after 4293 other rows that were deleted again. -/
theorem overwritten_worn :
    let config : Config := { rows := 1, cols := 1000000 }
    let steps := (mixedOrders, .edit "A1" "x") :: cycles 4293
    let l := (new config).run steps
    Settles config steps ∧ max config.rows 1 * max config.cols 1 < UInt32.size
      ∧ (new config).Fits steps
      ∧ l.registry.idAt ⟨0, 0⟩ = some ⟨0⟩ ∧ l.registry.valueOf ⟨0⟩ = "x"
      ∧ ∃ report l', l.addRow mixedOrders = .ok (report, l') ∧ l'.registry.valueOf ⟨0⟩ = ""
        ∧ ¬ l.registry.KeepsValues l'.registry :=
  exists_overwritten (by decide) (by decide) (by decide)

end Ledger

end Spreadsheet
