import Spreadsheet.Proofs.Registry.Operations

/-!
# Proofs/Registry/Shifts — edits of lines are exact shifts of the tables

Inserting a line pushes the lines from there on one further and fills the gap with empty cells
(`Inserts`); deleting one removes its cells, also from the lists of dependents, and pulls the lines
behind it back (`Deletes`).  A deletion takes out again what an insertion brought in
(`Represents.sameTables`).  All this needs fresh ids for the cells of an inserted line: when the counter
starts over among them, a new cell takes the place of an old one (`overwritten_brimming`).
-/

namespace Spreadsheet

namespace Registry

open Sheet (Axis Operation)

variable {r t u : Registry} {s s' s'' : Sheet} {axis : Axis} {line : Nat} {id : CellId}
  {p : Position} {e : Entry}

/-! ## What an edit does to the tables -/

/-- The ids of a line, in order. -/
def idsOf (axis : Axis) (r : Registry) (line : Nat) : List CellId :=
  (List.range (r.length axis)).filterMap fun place => r.idAt (axis.position line place)

/-- A registry with a line inserted: every cell keeps what it holds but is pushed out of the way and
named after its new position, and the line is filled with empty cells under the ids that come
next. -/
structure Inserts (axis : Axis) (r : Registry) (line : Nat) (t : Registry) : Prop where
  indexed : t.Indexed
  count_eq : t.count axis = r.count axis + 1
  length_eq : t.length axis = r.length axis
  nextId_eq : t.nextId.toNat = r.nextId.toNat + r.length axis
  kept : ∀ p id e, r.idAt p = some id → r.cell? id = some e →
    t.idAt (axis.push line p) = some id
      ∧ t.cell? id = some { e with name := (axis.push line p).name }
  fresh : ∀ place < r.length axis, r.isLive ⟨r.nextId.toNat + place⟩ = false
    ∧ t.idAt (axis.position line place) = some ⟨r.nextId.toNat + place⟩
    ∧ t.cell? ⟨r.nextId.toNat + place⟩
      = some (.blank ⟨r.nextId.toNat + place⟩ (axis.position line place).name)
  only : ∀ id, t.isLive id = true →
    r.isLive id = true ∨ ∃ place < r.length axis, id = ⟨r.nextId.toNat + place⟩

/-- A registry with a line deleted: its cells are gone, also from the lists of dependents, and every
other cell keeps the rest of what it holds but is pulled into the gap and named after its new
position. -/
structure Deletes (axis : Axis) (r : Registry) (line : Nat) (t : Registry) : Prop where
  indexed : t.Indexed
  count_eq : t.count axis + 1 = r.count axis
  length_eq : t.length axis = r.length axis
  nextId_eq : t.nextId = r.nextId
  kept : ∀ p id e, r.idAt p = some id → r.cell? id = some e → axis.lineOf p ≠ line →
    t.idAt (axis.pull line p) = some id
      ∧ t.cell? id = some { e with
        name := (axis.pull line p).name
        dependents := e.dependents.filter (· ∉ idsOf axis r line) }
  gone : ∀ p id, r.idAt p = some id → axis.lineOf p = line → t.isLive id = false
  only : ∀ id, t.isLive id = true → r.isLive id = true

/-- The same tables; the counters may differ. -/
structure SameTables (r t : Registry) : Prop where
  cells : r.cells.Equiv t.cells
  positions : r.positions.Equiv t.positions
  names : r.names.Equiv t.names
  rows_eq : r.rows = t.rows
  cols_eq : r.cols = t.cols

/-! ## Edits seen from the sheet -/

section

variable (h : r.Represents s)

include h

theorem Represents.idsOf_eq (axis : Axis) (line : Nat) :
    idsOf axis r line = axis.idsOf s line := by
  rw [idsOf, Axis.idsOf, h.length_eq]
  simp only [h.idAt_eq]

/-- The cell that is stored for a position. -/
theorem Represents.exists_cell (hid : r.idAt p = some id) (he : r.cell? id = some e) :
    ∃ c, s.cell? id = some c ∧ c.position = p ∧ Entry.ofCell c = e := by
  obtain ⟨c, hc, hp⟩ := (h.consistent.idAt_iff p id).mp (h.idAt_eq p ▸ hid)
  refine ⟨c, hc, hp, Option.some.inj ?_⟩
  rw [← he, h.cell?_eq, hc, Option.map_some]

/-- A cell of the sheet is stored under its id, and its id under its position. -/
theorem Represents.idAt_and_cell? {c : Cell} (hc : s.cell? id = some c) :
    r.idAt c.position = some id ∧ r.cell? id = some (.ofCell c) := by
  refine ⟨?_, by rw [h.cell?_eq, hc, Option.map_some]⟩
  rw [h.idAt_eq, h.consistent.idAt_iff]
  exact ⟨c, hc, rfl⟩

/-- **An insertion into the sheet is one into the tables.** -/
theorem Represents.inserts (ht : t.Represents s') (hst : axis.Inserts s line s') :
    Inserts axis r line t where
  indexed := ht.indexed
  count_eq := by rw [ht.count_eq, h.count_eq, hst.count_eq]
  length_eq := by rw [ht.length_eq, h.length_eq, hst.length_eq]
  nextId_eq := by rw [ht.nextId_eq, h.nextId_eq, h.length_eq, hst.nextId_eq]
  kept p id e hid he := by
    obtain ⟨c, hc, rfl, rfl⟩ := h.exists_cell hid he
    exact ht.idAt_and_cell? (hst.kept id c hc)
  fresh place hplace := by
    rw [h.length_eq] at hplace
    rw [h.nextId_eq]
    refine ⟨?_, ht.idAt_and_cell? (hst.fresh place hplace)⟩
    refine Bool.eq_false_iff.mpr fun hlive => ?_
    rw [h.isLive_eq] at hlive
    exact absurd (Sheet.index_lt_of_isLive hlive) (Nat.not_lt_of_le (Nat.le_add_right _ _))
  only id hid := by
    rw [h.isLive_eq, h.length_eq, h.nextId_eq]
    exact hst.only id (ht.isLive_eq id ▸ hid)

/-- **A deletion from the sheet is one from the tables.** -/
theorem Represents.deletes (ht : t.Represents s') (hst : axis.Deletes s line s') :
    Deletes axis r line t where
  indexed := ht.indexed
  count_eq := by rw [ht.count_eq, h.count_eq, hst.count_eq]
  length_eq := by rw [ht.length_eq, h.length_eq, hst.length_eq]
  nextId_eq := UInt32.toNat_inj.mp (by rw [ht.nextId_eq, h.nextId_eq, hst.nextId_eq])
  kept p id e hid he hline := by
    obtain ⟨c, hc, rfl, rfl⟩ := h.exists_cell hid he
    rw [h.idsOf_eq]
    exact ht.idAt_and_cell? (hst.kept id c hc hline)
  gone p id hid hline := by
    obtain ⟨c, hc, rfl⟩ := (h.consistent.idAt_iff p id).mp (h.idAt_eq p ▸ hid)
    rw [ht.isLive_eq, Sheet.isLive, hst.gone id c hc hline]
    rfl
  only id hid := by
    rw [ht.isLive_eq] at hid
    rw [h.isLive_eq]
    by_contra hdead
    rw [Sheet.isLive, hst.only id (Option.not_isSome_iff_eq_none.mp hdead)] at hid
    cases hid

/-- The tables of one sheet are the same. -/
theorem Represents.sameTables (ht : t.Represents s') (hcell : ∀ id, s.cell? id = s'.cell? id)
    (hgrid : s.grid = s'.grid) : r.SameTables t := by
  have hidAt : ∀ p, r.idAt p = t.idAt p := fun p => by
    rw [h.idAt_eq, ht.idAt_eq, Sheet.idAt, Sheet.idAt, hgrid]
  constructor
  case cells =>
    refine .of_forall_getElem?_eq fun id => ?_
    exact (h.cell?_eq id).trans ((congrArg _ (hcell id)).trans (ht.cell?_eq id).symm)
  case positions => exact .of_forall_getElem?_eq hidAt
  case names =>
    refine .of_forall_getElem?_eq fun name => Option.ext fun id => ?_
    rw [h.names_follow, ht.names_follow]
    simp only [hidAt]
  case rows_eq => rw [h.rows_eq, ht.rows_eq, Sheet.rows, Sheet.rows, hgrid]
  case cols_eq => rw [h.cols_eq, ht.cols_eq, Sheet.cols, Sheet.cols, hgrid]

end

/-! ## Requests -/

theorem perform_insertion (orders : Orders) : r.perform orders (axis.insertion line)
    = r.orKeep (r.insertLine orders axis line) := by
  cases axis <;> rfl

theorem perform_deletion (orders : Orders) : r.perform orders (axis.deletion line)
    = r.orKeep (r.deleteLine orders axis line) := by
  cases axis <;> rfl

section

variable (orders : Orders)

theorem insertLine_of_lt (h : r.count axis < line) :
    r.insertLine orders axis line = .error (axis.outOfRange line) := by
  rw [insertLine_eq, if_pos h]

theorem deleteLine_of_le_one (h : r.count axis ≤ 1) :
    r.deleteLine orders axis line = .error axis.lastLine := by
  rw [deleteLine_eq, if_pos h]

theorem deleteLine_of_le (htwo : 1 < r.count axis) (h : r.count axis ≤ line) :
    r.deleteLine orders axis line = .error (axis.outOfRange line) := by
  rw [deleteLine_eq, if_neg (Nat.not_le_of_gt htwo), if_pos h]

end

/-- **Inserting and deleting lines are exact shifts of the tables, and deleting undoes inserting** —
rows and columns alike, first, last and in between, in whatever orders the indices are read — as
long as the ids for an inserted line do not use up the counter.  A request that is refused leaves
the registry as it is. -/
theorem shifts_tables (r : Registry) (hr : r.Indexed)
    (hissued : ∀ source, ∀ id ∈ r.dependentsOf source, id.index < r.nextId.toNat)
    (orders : Orders) (axis : Axis) (line : Nat) :
    (line ≤ r.count axis → r.nextId.toNat + r.length axis < UInt32.size →
      ∃ t, r.insertLine orders axis line = .ok t ∧ Inserts axis r line t
        ∧ ∀ orders', ∃ u, t.deleteLine orders' axis line = .ok u ∧ u.SameTables r)
    ∧ (r.count axis < line → r.insertLine orders axis line = .error (axis.outOfRange line)
      ∧ r.perform orders (axis.insertion line) = r)
    ∧ (1 < r.count axis → line < r.count axis →
      ∃ t, r.deleteLine orders axis line = .ok t ∧ Deletes axis r line t)
    ∧ (1 < r.count axis → r.count axis ≤ line →
      r.deleteLine orders axis line = .error (axis.outOfRange line)
        ∧ r.perform orders (axis.deletion line) = r)
    ∧ (r.count axis ≤ 1 → r.deleteLine orders axis line = .error axis.lastLine
      ∧ r.perform orders (axis.deletion line) = r) := by
  have h := hr.represents
  refine ⟨fun hline hfit => ?_, fun hline => ?_, fun htwo hline => ?_, fun htwo hline => ?_,
    fun hlast => ?_⟩
  · obtain ⟨s', hs'⟩ := Axis.exists_insert (h.count_eq axis ▸ hline)
    have hinserts := Axis.inserts_of_insert h.consistent hs'
    obtain ⟨t, hok, ht⟩ := (hs' ▸ h.insertLine orders axis line fun _ => hfit).exists_ok
    refine ⟨t, hok, h.inserts ht hinserts, fun orders' => ?_⟩
    have hcount := hinserts.count_eq
    have hpos : 0 < axis.count r.sheet := Axis.count_pos h.consistent
    obtain ⟨s'', hs''⟩ : ∃ s'', axis.delete s' line = .ok s'' := by
      rw [h.count_eq] at hline
      exact Axis.exists_delete (by omega) (by omega)
    obtain ⟨u, hok', hu⟩ := (hs'' ▸ ht.deleteLine orders' axis line).exists_ok
    have hissued' : ∀ source, ∀ id ∈ r.sheet.dependentsOf source,
        id.index < r.sheet.nextId.index := fun source id hid => by
      rw [← h.dependentsOf_eq] at hid
      exact h.nextId_eq ▸ hissued source id hid
    obtain ⟨hgrid, hcell⟩ := hinserts.undone h.consistent hissued'
      (Axis.deletes_of_delete hinserts.consistent hs'')
    exact ⟨u, hok', hu.sameTables h hcell hgrid⟩
  · have hrefused := insertLine_of_lt orders hline
    exact ⟨hrefused, by rw [perform_insertion, hrefused, orKeep]⟩
  · obtain ⟨s', hs'⟩ := Axis.exists_delete (h.count_eq axis ▸ htwo) (h.count_eq axis ▸ hline)
    obtain ⟨t, hok, ht⟩ := (hs' ▸ h.deleteLine orders axis line).exists_ok
    exact ⟨t, hok, h.deletes ht (Axis.deletes_of_delete h.consistent hs')⟩
  · have hrefused := deleteLine_of_le orders htwo hline
    exact ⟨hrefused, by rw [perform_deletion, hrefused, orKeep]⟩
  · have hrefused : r.deleteLine orders axis line = .error axis.lastLine :=
      deleteLine_of_le_one orders hlast
    exact ⟨hrefused, by rw [perform_deletion, hrefused, orKeep]⟩

/-- Two rows of two cells, the first and the last listed as dependents of each other. -/
def linked : Registry := ((blank 2 2).addDependent ⟨0⟩ ⟨3⟩).addDependent ⟨3⟩ ⟨0⟩

/-- A row is inserted between the two and deleted again; the second column is deleted. -/
theorem shifts_tables_linked :
    linked.Indexed
      ∧ (∀ source, ∀ id ∈ linked.dependentsOf source, id.index < linked.nextId.toNat)
      ∧ linked.nextId.toNat + linked.length .row < UInt32.size
      ∧ (∃ t, linked.insertLine mixedOrders .row 1 = .ok t ∧ Inserts .row linked 1 t
        ∧ ∀ orders', ∃ u, t.deleteLine orders' .row 1 = .ok u ∧ u.SameTables linked)
      ∧ ∃ t, linked.deleteLine mixedOrders .column 1 = .ok t ∧ Deletes .column linked 1 t := by
  have h : linked.Represents (((Sheet.blank 2 2).addDependent ⟨0⟩ ⟨3⟩).addDependent ⟨3⟩ ⟨0⟩) :=
    ((represents_blank (by decide)).addDependent _ _).addDependent _ _
  have hnext : linked.nextId.toNat = 4 := by decide +kernel
  have hissued : ∀ source, ∀ id ∈ linked.dependentsOf source, id.index < linked.nextId.toNat := by
    intro source id hid
    rw [h.dependentsOf_eq] at hid
    rw [hnext]
    rcases Sheet.mem_dependentsOf_addDependent.mp hid with hid | ⟨-, -, rfl⟩
    · rcases Sheet.mem_dependentsOf_addDependent.mp hid with hid | ⟨-, -, rfl⟩
      · rw [Sheet.dependentsOf_blank] at hid
        cases hid
      · decide
    · decide
  have hfit : linked.nextId.toNat + linked.length .row < UInt32.size := by decide +kernel
  obtain ⟨hinsert, -⟩ := shifts_tables linked h.indexed hissued mixedOrders .row 1
  obtain ⟨-, -, hdelete, -⟩ := shifts_tables linked h.indexed hissued mixedOrders .column 1
  exact ⟨h.indexed, hissued, hfit, hinsert (by decide +kernel) hfit,
    hdelete (by decide +kernel) (by decide +kernel)⟩

/-! ## When the counter starts over -/

/-- **The cells of an inserted line are empty and take the next ids**, also where the counter has
started over and there are cells with these ids already. -/
theorem insertLine_overwrites {orders : Orders} (h : r.insertLine orders axis line = .ok t)
    (hlength : r.length axis ≤ UInt32.size) {place : Nat} (hplace : place < r.length axis) :
    t.idAt (axis.position line place) = some (r.idAfter place)
      ∧ t.cell? (r.idAfter place) = some (.blank (r.idAfter place) (axis.position line place).name)
      := by
  rw [insertLine_eq] at h
  split at h
  · cases h
  · cases h
    have hid : ((r.remap orders fun p => some (axis.push line p)).withCount axis
        (r.count axis + 1)).idAfter place = r.idAfter place := by
      rw [idAfter, idAfter, nextId_withCount, nextId_remap]
    rw [← hid]
    exact ⟨idAt_materializeAll_map (fun j k hjk => by simpa using congrArg axis.placeOf hjk) hplace,
      cell?_materializeAll_map hlength hplace⟩

/-- The tables agree under any counter that is ahead of the ids. -/
theorem Indexed.of_le_nextId (h : r.Indexed) {nextId : UInt32}
    (hle : r.nextId.toNat ≤ nextId.toNat) : { r with nextId }.Indexed where
  one_le_rows := h.one_le_rows
  one_le_cols := h.one_le_cols
  idAt_isSome := h.idAt_isSome
  idAt_injective := h.idAt_injective
  isLive_iff := h.isLive_iff
  cell_at := h.cell_at
  names_follow := h.names_follow
  size_eq := h.size_eq
  index_lt id hid := Nat.lt_of_lt_of_le (h.index_lt id hid) hle
  map_some_ids := h.map_some_ids
  nodup_ids := h.nodup_ids
  mem_ids_iff := h.mem_ids_iff

/-- A row of two cells, the first with a text, after so many insertions and deletions that one id is
left before the counter starts over. -/
def brimming : Registry :=
  { (blank 1 2).modifyCell ⟨0⟩ fun e => { e with text := "x" } with nextId := 4294967295 }

/-- The second cell of a row that is inserted gets the id of the first cell there is, and its text is
lost. -/
theorem overwritten_brimming :
    brimming.Indexed
      ∧ (∀ source, ∀ id ∈ brimming.dependentsOf source, id.index < brimming.nextId.toNat)
      ∧ brimming.idAt ⟨0, 0⟩ = some ⟨0⟩
      ∧ brimming.cell? ⟨0⟩ = some ⟨⟨0⟩, "A1", "x", "", []⟩
      ∧ ∃ t, brimming.insertLine mixedOrders .row 1 = .ok t
        ∧ t.idAt ⟨1, 1⟩ = some ⟨0⟩ ∧ t.cell? ⟨0⟩ = some ⟨⟨0⟩, "B2", "", "", []⟩
        ∧ ¬ Inserts .row brimming 1 t := by
  have h : ((blank 1 2).modifyCell ⟨0⟩ fun e => { e with text := "x" }).Represents
      ((Sheet.blank 1 2).modifyCell ⟨0⟩ fun c => { c with text := "x" }) :=
    (represents_blank (by decide)).modifyCell ⟨0⟩ (fun _ => rfl) fun _ => ⟨rfl, rfl⟩
  have hindexed : brimming.Indexed := h.indexed.of_le_nextId (by decide +kernel)
  have hidAt : brimming.idAt ⟨0, 0⟩ = some ⟨0⟩ := (h.idAt_eq _).trans (by decide +kernel)
  have hcell : brimming.cell? ⟨0⟩ = some ⟨⟨0⟩, "A1", "x", "", []⟩ :=
    (h.cell?_eq _).trans (by decide +kernel)
  have hissued : ∀ source, ∀ id ∈ brimming.dependentsOf source,
      id.index < brimming.nextId.toNat := by
    intro source id hid
    have hnone : brimming.dependentsOf source = [] := by
      refine (h.dependentsOf_eq source).trans ?_
      rw [Sheet.dependentsOf, Sheet.cell?_modifyCell, Sheet.cell?_blank]
      split_ifs <;> rfl
    rw [hnone] at hid
    cases hid
  obtain ⟨t, ht⟩ : ∃ t, brimming.insertLine mixedOrders .row 1 = .ok t := by
    rw [insertLine_eq, if_neg (by decide +kernel)]
    exact ⟨_, rfl⟩
  have hreissued : brimming.idAfter 1 = ⟨0⟩ := by decide +kernel
  obtain ⟨hnew, hblank⟩ := insertLine_overwrites ht (by decide +kernel)
    (show 1 < brimming.length .row by decide +kernel)
  rw [hreissued] at hnew hblank
  have hname : (Axis.row.position 1 1).name = "B2" := by decide +kernel
  refine ⟨hindexed, hissued, hidAt, hcell, t, ht, hnew, hname ▸ hblank, fun hinserts => ?_⟩
  obtain ⟨-, hkept⟩ := hinserts.kept _ _ _ hidAt hcell
  have htext : "" = "x" := congrArg Entry.text (Option.some.inj (hblank.symm.trans hkept))
  exact absurd htext (by decide)

end Registry

end Spreadsheet
