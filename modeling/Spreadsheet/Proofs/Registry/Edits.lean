import Spreadsheet.Proofs.Registry.Loops
import Spreadsheet.Proofs.Sheet.Lines

/-!
# Proofs/Registry/Edits — the tables follow the sheet through every change

A change to the cells of a registry is one to the cells of the sheet it stores
(`Represents.modifyCell`, `Represents.adopt`).  Cells that are created join those that were there
(`represents_materializeAll`), so a new registry stores a new sheet (`represents_blank`), and when a
line is inserted or deleted the loops leave the tables of the edited sheet, in whatever order they
read the indices (`Represents.of_relocate`).  Only an insertion issues ids, and it needs enough of
them before the counter starts over (`Represents.insertLine`, `Represents.deleteLine`).
-/

namespace Spreadsheet

namespace Sheet

/-- The positions, counted row by row. -/
theorem positions_eq {cols : Nat} (hcols : 0 < cols) (rows : Nat) :
    positions rows cols = (List.range (rows * cols)).map fun k => ⟨k / cols, k % cols⟩ := by
  induction rows with
  | zero => simp [positions]
  | succ rows ih =>
    rw [positions, List.range_succ, List.flatMap_append, ← positions, ih, Nat.succ_mul,
      List.range_add, List.map_append, List.flatMap_singleton, List.map_map]
    refine congrArg (_ ++ ·) (List.map_congr_left fun col hcol => ?_)
    have hlt := List.mem_range.mp hcol
    simp only [Function.comp, Position.mk.injEq]
    exact ⟨
      by rw [Nat.add_comm, Nat.add_mul_div_right _ _ hcols, Nat.div_eq_of_lt hlt, Nat.zero_add],
      by rw [Nat.add_comm, Nat.add_mul_mod_self_right, Nat.mod_eq_of_lt hlt]⟩

end Sheet

/-- Both fail for the same reason, or both succeed and their results are related. -/
inductive Matches {ε α β : Type} (R : α → β → Prop) : Except ε α → Except ε β → Prop
  | ok {a : α} {b : β} (h : R a b) : Matches R (.ok a) (.ok b)
  | error (err : ε) : Matches R (.error err) (.error err)

namespace Matches

variable {ε α β α' β' : Type} {R : α → β → Prop} {R' : α' → β' → Prop} {x : Except ε α}
  {y : Except ε β}

/-- What succeeds on the right succeeds on the left. -/
theorem exists_ok {b : β} (h : Matches R x (.ok b)) : ∃ a, x = .ok a ∧ R a b := by
  cases h with
  | ok h => exact ⟨_, rfl, h⟩

/-- What succeeds on the left succeeds on the right. -/
theorem exists_ok' {a : α} (h : Matches R (.ok a) y) : ∃ b, y = .ok b ∧ R a b := by
  cases h with
  | ok h => exact ⟨_, rfl, h⟩

theorem isOk_eq (h : Matches R x y) : x.isOk = y.isOk := by
  cases h <;> rfl

theorem bind (h : Matches R x y) {f : α → Except ε α'} {g : β → Except ε β'}
    (hfg : ∀ a b, R a b → Matches R' (f a) (g b)) : Matches R' (x >>= f) (y >>= g) := by
  cases h with
  | ok h => exact hfg _ _ h
  | error err => exact .error err

theorem map (h : Matches R x y) {f : α → α'} {g : β → β'} (hfg : ∀ a b, R a b → R' (f a) (g b)) :
    Matches R' (x.map f) (y.map g) := by
  cases h with
  | ok h => exact .ok (hfg _ _ h)
  | error err => exact .error err

end Matches

namespace Registry

open Sheet (Axis relocateCell)

variable {r : Registry} {s t : Sheet} {id : CellId} {p q : Position} {orders : Orders}

/-! ## Changes to cells -/

section

variable (h : r.Represents s)

include h

theorem Represents.modifyCell (id : CellId) {f : Entry → Entry} {g : Cell → Cell}
    (hfg : ∀ c, Entry.ofCell (g c) = f (Entry.ofCell c))
    (hg : ∀ c, (g c).id = c.id ∧ (g c).position = c.position) :
    (r.modifyCell id f).Represents (s.modifyCell id g) where
  consistent := h.consistent.modifyCell id hg
  rows_eq := h.rows_eq
  cols_eq := h.cols_eq
  nextId_eq := h.nextId_eq.trans (Sheet.size_slots_modifyCell s id g).symm
  cell?_eq j := by
    rw [Sheet.cell?_modifyCell, cell?, Registry.modifyCell]
    dsimp only
    rw [Std.HashMap.getElem?_modify]
    by_cases hj : j = id
    · subst hj
      rw [if_pos (beq_self_eq_true _), if_pos rfl, ← cell?, h.cell?_eq]
      cases s.cell? j <;> simp [hfg]
    · rw [if_neg (by simpa using Ne.symm hj), if_neg hj]
      exact h.cell?_eq j
  idAt_eq := h.idAt_eq
  names_follow := h.names_follow

theorem Represents.mapCells {f : CellId → Entry → Entry} {g : Cell → Cell}
    (hfg : ∀ id c, Entry.ofCell (g c) = f id (Entry.ofCell c))
    (hg : ∀ c, (g c).id = c.id ∧ (g c).position = c.position) :
    (r.mapCells f).Represents (s.mapCells g) where
  consistent := h.consistent.mapCells hg
  rows_eq := h.rows_eq
  cols_eq := h.cols_eq
  nextId_eq := h.nextId_eq.trans (Sheet.size_slots_mapCells s g).symm
  cell?_eq j := by
    rw [Sheet.cell?_mapCells, cell?, Registry.mapCells]
    dsimp only
    rw [Std.HashMap.getElem?_map, ← cell?, h.cell?_eq]
    cases s.cell? j <;> simp [hfg j]
  idAt_eq := h.idAt_eq
  names_follow := h.names_follow

/-- **What evaluation stores in the sheet is written back to the cells.** -/
theorem Represents.adopt (hbare : t.bare = s.bare) : (r.adopt t).Represents t where
  consistent := h.consistent.of_bare_eq hbare.symm
  rows_eq := h.rows_eq.trans (congrArg Array.size (Sheet.grid_of_bare_eq hbare.symm))
  cols_eq := h.cols_eq.trans (by rw [Sheet.cols, Sheet.cols, Sheet.grid_of_bare_eq hbare])
  nextId_eq := h.nextId_eq.trans (Sheet.size_slots_of_bare_eq hbare.symm)
  cell?_eq id := by
    rw [cell?, Registry.adopt, Registry.mapCells]
    dsimp only
    rw [Std.HashMap.getElem?_map, ← cell?, h.cell?_eq]
    have hcell := Sheet.bareCell_of_bare_eq hbare id
    rw [Sheet.valueOf, Sheet.dependentsOf]
    cases hs : s.cell? id with
    | none =>
      rw [hs, Option.map_none, Option.map_eq_none_iff] at hcell
      rw [hcell]
      rfl
    | some c =>
      rw [hs, Option.map_some] at hcell
      obtain ⟨c', hc', hcc'⟩ := Option.map_eq_some_iff.mp hcell
      simp only [Cell.bare, Cell.mk.injEq] at hcc'
      obtain ⟨hid, hposition, htext, -⟩ := hcc'
      simp [hc', Entry.ofCell, Cell.name, hid, hposition, htext]
  idAt_eq p := (h.idAt_eq p).trans (by rw [Sheet.idAt, Sheet.idAt, Sheet.grid_of_bare_eq hbare])
  names_follow := h.names_follow

end

/-! ## Creating cells -/

/-- **Empty cells created at new places join those that the tables stored before.** -/
theorem represents_materializeAll (before : CellId → Option Cell) {length : Nat}
    {place : Nat → Position} (ht : t.Consistent)
    (hcell : ∀ id, r.cell? id = (before id).map Entry.ofCell)
    (hidAt : ∀ p id, r.idAt p = some id ↔ ∃ c, before id = some c ∧ c.position = p)
    (hnames : r.NamesFollow) (hplace : ∀ j k, place j = place k → j = k)
    (hrows : r.rows = t.rows) (hcols : r.cols = t.cols)
    (hsize : r.nextId.toNat + length = t.slots.size) (hfit : t.slots.size < UInt32.size)
    (hcells : ∀ id c, t.cell? id = some c ↔ before id = some c
      ∨ ∃ k < length, id = ⟨r.nextId.toNat + k⟩ ∧ c = Cell.blank id (place k)) :
    (r.materializeAll ((List.range length).map place)).Represents t := by
  have hids : ∀ k < length, r.idAfter k = ⟨r.nextId.toNat + k⟩ := fun k hk =>
    idAfter_of_lt (by omega)
  have hlength : ((List.range length).map place).length = length := by simp
  constructor
  case consistent => exact ht
  case rows_eq => rw [rows_materializeAll, hrows]
  case cols_eq => rw [cols_materializeAll, hcols]
  case nextId_eq =>
    rw [nextId_materializeAll, hlength, hsize]
    exact Nat.mod_eq_of_lt hfit
  case cell?_eq =>
    intro id
    by_cases hid : ∃ k < length, id = ⟨r.nextId.toNat + k⟩
    · obtain ⟨k, hk, rfl⟩ := hid
      rw [← hids k hk, cell?_materializeAll_map (by omega) hk,
        (hcells _ _).mpr (.inr ⟨k, hk, hids k hk, rfl⟩)]
      rfl
    · rw [cell?_materializeAll_of_ne fun k hk heq => ?_, hcell]
      · refine congrArg _ (Option.ext fun c => ?_)
        rw [hcells]
        exact (or_iff_left fun ⟨k, hk, hnew, _⟩ => hid ⟨k, hk, hnew⟩).symm
      · rw [hlength] at hk
        exact hid ⟨k, hk, hids k hk ▸ heq⟩
  case idAt_eq =>
    intro p
    by_cases hp : p ∈ (List.range length).map place
    · obtain ⟨k, hk, rfl⟩ := List.mem_map.mp hp
      have hk := List.mem_range.mp hk
      rw [idAt_materializeAll_map hplace hk, hids k hk]
      exact ((ht.idAt_iff _ _).mpr ⟨_, (hcells _ _).mpr (.inr ⟨k, hk, rfl, rfl⟩), rfl⟩).symm
    · rw [idAt_materializeAll_of_notMem hp]
      refine Option.ext fun id => ?_
      rw [hidAt, ht.idAt_iff]
      refine exists_congr fun c => and_congr_left fun hc => ?_
      rw [hcells]
      refine (or_iff_left ?_).symm
      rintro ⟨k, hk, -, rfl⟩
      exact hp (List.mem_map.mpr ⟨k, List.mem_range.mpr hk, hc⟩)
  case names_follow => exact hnames.materializeAll _

theorem blank_eq (rows cols : Nat) : blank rows cols =
    Registry.materializeAll ⟨∅, ∅, ∅, max rows 1, max cols 1, 0⟩
      (Sheet.positions (max rows 1) (max cols 1)) := by
  rw [materializeAll, Sheet.positions, List.foldl_flatMap]
  rfl

/-- **A new registry stores a new sheet**, if there are ids for all its cells. -/
theorem represents_blank {rows cols : Nat} (hfit : max rows 1 * max cols 1 < UInt32.size) :
    (blank rows cols).Represents (Sheet.blank rows cols) := by
  have hcols : 0 < max cols 1 := Nat.lt_of_lt_of_le Nat.zero_lt_one (Nat.le_max_right _ _)
  have hsize : (Sheet.blank rows cols).slots.size = max rows 1 * max cols 1 := by
    simp [Sheet.blank]
  rw [blank_eq, Sheet.positions_eq hcols]
  refine represents_materializeAll (fun _ => none) (Sheet.consistent_blank rows cols)
    (fun id => ?_) (fun p id => ?_) (fun name id => ?_) (fun j k hjk => ?_)
    (Sheet.rows_blank rows cols).symm (Sheet.cols_blank rows cols).symm
    (hsize ▸ Nat.zero_add _) (hsize ▸ hfit) fun id c => ?_
  · simp [cell?]
  · simp [idAt]
  · simp [idAt]
  · obtain ⟨hrow, hcol⟩ := Position.mk.inj hjk
    rw [← Nat.div_add_mod j (max cols 1), hrow, hcol, Nat.div_add_mod]
  · rw [Sheet.cell?_blank, Option.ite_none_right_eq_some]
    constructor
    · rintro ⟨hid, hc⟩
      exact .inr ⟨id.index, hid, congrArg CellId.mk (Nat.zero_add _).symm,
        (Option.some.inj hc).symm⟩
    · rintro (hc | ⟨k, hk, hid, rfl⟩)
      · cases hc
      · have hindex : id.index = k := (congrArg CellId.index hid).trans (Nat.zero_add k)
        exact ⟨hindex ▸ hk, by rw [hindex]⟩

/-! ## Inserting and deleting lines -/

/-- The number of lines. -/
def count (r : Registry) : Axis → Nat
  | .row => r.rows
  | .column => r.cols

/-- The number of cells in a line. -/
def length (r : Registry) : Axis → Nat
  | .row => r.cols
  | .column => r.rows

/-- The same tables for another number of lines. -/
def withCount (r : Registry) : Axis → Nat → Registry
  | .row, rows => { r with rows }
  | .column, cols => { r with cols }

/-- Inserts an empty line before a line, or behind the last one. -/
def insertLine (orders : Orders) (r : Registry) : Axis → Nat → Except SheetError Registry
  | .row => r.insertRow orders
  | .column => r.insertColumn orders

/-- Deletes a line; the last one stays. -/
def deleteLine (orders : Orders) (r : Registry) : Axis → Nat → Except SheetError Registry
  | .row => r.deleteRow orders
  | .column => r.deleteColumn orders

section

variable (orders : Orders) (r : Registry) (axis : Axis) (line : Nat)

theorem insertLine_eq : r.insertLine orders axis line =
    if r.count axis < line then .error (axis.outOfRange line)
    else .ok (((r.remap orders fun p => some (axis.push line p)).withCount axis
      (r.count axis + 1)).materializeAll
        ((List.range (r.length axis)).map (axis.position line))) := by
  cases axis <;> rfl

theorem deleteLine_eq : r.deleteLine orders axis line =
    if r.count axis ≤ 1 then .error axis.lastLine
    else if r.count axis ≤ line then .error (axis.outOfRange line)
    else .ok ((r.remap orders (axis.drop line)).withCount axis (r.count axis - 1)) := by
  cases axis <;> rfl

variable {n : Nat}

@[simp] theorem cell?_withCount : (r.withCount axis n).cell? id = r.cell? id := by
  cases axis <;> rfl

@[simp] theorem idAt_withCount : (r.withCount axis n).idAt p = r.idAt p := by cases axis <;> rfl

@[simp] theorem nextId_withCount : (r.withCount axis n).nextId = r.nextId := by cases axis <;> rfl

theorem NamesFollow.withCount {r : Registry} (h : r.NamesFollow) :
    (r.withCount axis n).NamesFollow := by cases axis <;> exact h

@[simp] theorem count_withCount : (r.withCount axis n).count axis = n := by cases axis <;> rfl

@[simp] theorem length_withCount : (r.withCount axis n).length axis = r.length axis := by
  cases axis <;> rfl

theorem length_remap (move : Position → Option Position) :
    (r.remap orders move).length axis = r.length axis := by
  cases axis
  · exact cols_remap
  · exact rows_remap

end

section

variable (h : r.Represents s)

include h

theorem Represents.count_eq (axis : Axis) : r.count axis = axis.count s := by
  cases axis
  · exact h.rows_eq
  · exact h.cols_eq

theorem Represents.length_eq (axis : Axis) : r.length axis = axis.length s := by
  cases axis
  · exact h.cols_eq
  · exact h.rows_eq

end

theorem Represents.removes_eq (h : r.Represents s) (orders : Orders)
    (move : Position → Option Position) (id : CellId) :
    s.removes move id = decide (id ∈ r.unplacedIds orders move) := by
  rw [Bool.eq_iff_iff, decide_eq_true_iff, mem_unplacedIds_iff, Sheet.removes, Option.any_eq_true]
  constructor
  · rintro ⟨c, hc, hmove⟩
    exact ⟨c.position, by rw [h.idAt_eq, h.consistent.idAt_iff]; exact ⟨c, hc, rfl⟩,
      Option.isNone_iff_eq_none.mp hmove⟩
  · rintro ⟨p, hid, hmove⟩
    obtain ⟨c, hc, rfl⟩ := (h.consistent.idAt_iff p id).mp (h.idAt_eq p ▸ hid)
    exact ⟨c, hc, Option.isNone_iff_eq_none.mpr hmove⟩

/-- **The loops relocate every cell.** -/
theorem Represents.cell?_remap (h : r.Represents s) {move : Position → Option Position}
    (hmove : ∀ p p' q, move p = some q → move p' = some q → p = p') (id : CellId) :
    (r.remap orders move).cell? id
      = ((s.cell? id).bind (relocateCell move (s.removes move))).map Entry.ofCell := by
  have hidAt : ∀ {p c}, s.cell? id = some c → (r.idAt p = some id ↔ c.position = p) := by
    intro p c hc
    rw [h.idAt_eq, h.consistent.idAt_iff, hc]
    simp
  cases hc : s.cell? id with
  | none =>
    have hnone : ∀ p, r.idAt p ≠ some id := fun p hp => by
      obtain ⟨c, hc', -⟩ := (h.consistent.idAt_iff p id).mp (h.idAt_eq p ▸ hp)
      cases hc.symm.trans hc'
    refine cell?_remap_of_unplaced hmove (fun p hp => absurd hp (hnone p)) fun hlive => ?_
    rw [h.isLive_eq, Sheet.isLive, hc] at hlive
    cases hlive
  | some c =>
    rw [Option.bind_some, relocateCell]
    cases hq : move c.position with
    | none =>
      exact cell?_remap_of_unplaced hmove (fun p hp => (hidAt hc).mp hp ▸ hq)
        fun _ => ⟨c.position, (hidAt hc).mpr rfl⟩
    | some q =>
      rw [cell?_remap_of_moved hmove h.indexed.idAt_injective ((hidAt hc).mpr rfl) hq, h.cell?_eq,
        hc, Option.map_some, Option.map_some, Option.map_some]
      simp [Entry.ofCell, Cell.name, h.removes_eq orders move]

/-- **The loops relocate every position.** -/
theorem Represents.idAt_remap (h : r.Represents s) {move : Position → Option Position}
    (hmove : ∀ p p' q, move p = some q → move p' = some q → p = p') (q : Position) (id : CellId) :
    (r.remap orders move).idAt q = some id ↔
      ∃ c, (s.cell? id).bind (relocateCell move (s.removes move)) = some c ∧ c.position = q := by
  simp only [idAt_remap_iff hmove, h.idAt_eq, h.consistent.idAt_iff, Option.bind_eq_some_iff,
    Sheet.relocateCell_eq_some_iff]
  constructor
  · rintro ⟨_, ⟨c, hc, rfl⟩, hq⟩
    exact ⟨_, ⟨c, hc, q, hq, rfl⟩, rfl⟩
  · rintro ⟨_, ⟨c, hc, q, hq, rfl⟩, rfl⟩
    exact ⟨c.position, ⟨c, hc, rfl⟩, hq⟩

/-- **The tables after an edit are those of the edited sheet** — its cells moved, and a line of
empty cells created under the next ids. -/
theorem Represents.of_relocate (h : r.Represents s) {move : Position → Option Position}
    {place : Nat → Position} {length n : Nat} {axis : Axis} {grid : Array (Array CellId)}
    (hmove : ∀ p p' q, move p = some q → move p' = some q → p = p')
    (hplace : ∀ j k, place j = place k → j = k)
    (hfit : r.nextId.toNat + length < UInt32.size)
    (ht : t = Sheet.mk (s.relocate move ++ (Array.range length).map fun k =>
      some (Cell.blank ⟨s.slots.size + k⟩ (place k))) grid)
    (hconsistent : t.Consistent) (hcount : axis.count t = n)
    (hlength : axis.length t = axis.length s) :
    (((r.remap orders move).withCount axis n).materializeAll
      ((List.range length).map place)).Represents t := by
  have hslots : r.nextId.toNat = s.slots.size := h.nextId_eq
  have hnext : ((r.remap orders move).withCount axis n).nextId.toNat = s.slots.size := by
    rw [nextId_withCount, nextId_remap, hslots]
  have hsize : s.slots.size + length = t.slots.size := by
    rw [ht]
    simp [Sheet.relocate]
  have hlines : ((r.remap orders move).withCount axis n).count axis = axis.count t :=
    (count_withCount _ _).trans hcount.symm
  have hwidth : ((r.remap orders move).withCount axis n).length axis = axis.length t :=
    (length_withCount _ _).trans ((length_remap orders r axis move).trans
      ((h.length_eq axis).trans hlength.symm))
  refine represents_materializeAll
    (fun id => (s.cell? id).bind (relocateCell move (s.removes move))) hconsistent (fun id => ?_)
    (fun p id => ?_) ((namesFollow_remap orders move r).withCount axis) hplace ?_ ?_
    (hnext ▸ hsize) ?_ fun id c => ?_
  · rw [cell?_withCount, h.cell?_remap hmove]
  · rw [idAt_withCount, h.idAt_remap hmove]
  · cases axis
    · exact hlines
    · exact hwidth
  · cases axis
    · exact hwidth
    · exact hlines
  · rwa [← hsize, ← hslots]
  · rw [ht, Sheet.cell?_relocate_line, Sheet.lineCell?_eq_some_iff, Option.bind_eq_some_iff, hnext]

/-- **Inserting a line into the tables inserts it into the sheet**, if there are ids for its
cells. -/
theorem Represents.insertLine (h : r.Represents s) (orders : Orders) (axis : Axis) (line : Nat)
    (hfit : line ≤ r.count axis → r.nextId.toNat + r.length axis < UInt32.size) :
    Matches Represents (r.insertLine orders axis line) (axis.insert s line) := by
  rw [insertLine_eq]
  split
  · rename_i hline
    rw [Axis.insert_of_lt (h.count_eq axis ▸ hline)]
    exact .error _
  · rename_i hline
    have hline := Nat.le_of_not_lt hline
    obtain ⟨t, ht⟩ := Axis.exists_insert (h.count_eq axis ▸ hline)
    obtain ⟨-, grid, heq⟩ := Axis.insert_eq_ok ht
    obtain ⟨hconsistent, hcount, hlength⟩ := Axis.consistent_insert h.consistent ht
    rw [ht]
    refine .ok (h.of_relocate (fun p p' q hp hp' => ?_) (fun j k hjk => ?_) (hfit hline)
      (h.length_eq axis ▸ heq) hconsistent (h.count_eq axis ▸ hcount) hlength)
    · exact Axis.push_injective ((Option.some.inj hp).trans (Option.some.inj hp').symm)
    · simpa using congrArg axis.placeOf hjk

/-- **Deleting a line from the tables deletes it from the sheet.** -/
theorem Represents.deleteLine (h : r.Represents s) (orders : Orders) (axis : Axis) (line : Nat) :
    Matches Represents (r.deleteLine orders axis line) (axis.delete s line) := by
  rw [deleteLine_eq]
  split
  · rename_i hlast
    rw [Axis.delete_of_le_one (h.count_eq axis ▸ hlast)]
    exact .error _
  · rename_i htwo
    have htwo : 1 < axis.count s := h.count_eq axis ▸ Nat.lt_of_not_le htwo
    split
    · rename_i hline
      rw [Axis.delete_of_le htwo (h.count_eq axis ▸ hline)]
      exact .error _
    · rename_i hline
      obtain ⟨t, ht⟩ := Axis.exists_delete htwo (h.count_eq axis ▸ Nat.lt_of_not_le hline)
      obtain ⟨-, -, grid, heq⟩ := Axis.delete_eq_ok ht
      obtain ⟨hconsistent, hcount, hlength⟩ := Axis.consistent_delete h.consistent ht
      have heq : t = Sheet.mk (s.relocate (axis.drop line) ++ (Array.range 0).map fun k =>
          some (Cell.blank ⟨s.slots.size + k⟩ (axis.position line k))) grid := by
        rw [heq, show Array.range 0 = #[] from rfl, Array.map_empty, Array.append_empty]
      rw [ht]
      refine .ok (h.of_relocate (fun p p' q hp hp' => ?_) (fun j k hjk => ?_) r.nextId.toNat_lt
        heq hconsistent (h.count_eq axis ▸ hcount) hlength)
      · rw [← Axis.push_of_drop_eq_some hp, Axis.push_of_drop_eq_some hp']
      · simpa using congrArg axis.placeOf hjk

end Registry

end Spreadsheet
