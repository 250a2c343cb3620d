import Spreadsheet.Proofs.Registry.Edits
import Spreadsheet.Proofs.Sheet.Shifts

/-!
# Proofs/Registry/Operations — every operation keeps the tables of a registry in step

An operation on a registry does to its tables what it does to the sheet stored in them, as long as
it does not use up the ids (`Represents.perform`), and it issues the ids that come next
(`issuedBy_eq`).  So a run of operations on a new registry keeps the tables in agreement, issues no
id twice, and lists no cell that is gone unless it was told to (`tables_agree_run`).
-/

namespace Spreadsheet

namespace Registry

open Sheet (Axis Operation)

variable {r : Registry} {s t : Sheet} {id : CellId} {orders : Orders} {operation : Operation}

/-! ## Operations -/

/-- The registry an edit yields; one that fails leaves the registry as it is. -/
def orKeep (r : Registry) : Except SheetError Registry → Registry
  | .ok t => t
  | .error _ => r

/-- The registry after an operation. -/
def perform (orders : Orders) (r : Registry) : Operation → Registry
  | .setText id text => r.orKeep (r.setText id text)
  | .setValue id value => r.setValue id value
  | .addDependent source dependent => r.addDependent source dependent
  | .removeDependent dependent => r.removeDependent dependent
  | .insertRow row => r.orKeep (r.insertRow orders row)
  | .insertColumn col => r.orKeep (r.insertColumn orders col)
  | .deleteRow row => r.orKeep (r.deleteRow orders row)
  | .deleteColumn col => r.orKeep (r.deleteColumn orders col)
  | .evaluate id => (r.evaluate id).2
  | .refresh config id => (r.refresh config id).2
  | .commit config id => (r.commit config id).2
  | .recalculate config => (r.recalculate config).2

/-- The number of cells an operation creates. -/
def created (r : Registry) : Operation → Nat
  | .insertRow row => if r.rows < row then 0 else r.cols
  | .insertColumn col => if r.cols < col then 0 else r.rows
  | _ => 0

/-- The ids an operation gives to new cells, in turn. -/
def issuedBy (r : Registry) (operation : Operation) : List CellId :=
  (List.range (r.created operation)).map r.idAfter

/-- The registry after a list of operations, each with the orders it reads the indices in. -/
def run (r : Registry) (steps : List (Orders × Operation)) : Registry :=
  steps.foldl (fun r step => r.perform step.1 step.2) r

/-- The ids a list of operations gives to new cells, in turn. -/
def issued (r : Registry) : List (Orders × Operation) → List CellId
  | [] => []
  | step :: steps => r.issuedBy step.2 ++ (r.perform step.1 step.2).issued steps

theorem created_insertion {axis : Axis} {line : Nat} (h : line ≤ r.count axis) :
    r.created (axis.insertion line) = r.length axis := by
  cases axis <;> exact if_neg (Nat.not_lt_of_le h)

theorem created_insertion_of_lt {axis : Axis} {line : Nat} (h : r.count axis < line) :
    r.created (axis.insertion line) = 0 := by
  cases axis <;> exact if_pos h

theorem length_issuedBy (r : Registry) (operation : Operation) :
    (r.issuedBy operation).length = r.created operation := by simp [issuedBy]

/-! ## One operation -/

theorem Represents.orKeep (h : r.Represents s) {x : Except SheetError Registry}
    {y : Except SheetError Sheet} (hxy : Matches Represents x y) :
    (r.orKeep x).Represents (s.orKeep y) := by
  cases hxy with
  | ok ht => exact ht
  | error err => exact h

theorem Represents.setText (h : r.Represents s) (id : CellId) (text : String) :
    Matches Represents (r.setText id text) (s.setText id text) := by
  rw [Registry.setText, Sheet.setText, h.isLive_eq]
  split
  · exact .ok (h.modifyCell id (fun _ => rfl) fun _ => ⟨rfl, rfl⟩)
  · exact .error _

theorem Represents.addDependent (h : r.Represents s) (source dependent : CellId) :
    (r.addDependent source dependent).Represents (s.addDependent source dependent) := by
  refine h.modifyCell source (fun c => ?_) fun c => ?_
  · rw [Cell.addDependent, Entry.addDependent]
    show _ = if dependent ∈ c.dependents then _ else _
    split <;> rfl
  · rw [Cell.addDependent]
    split <;> exact ⟨rfl, rfl⟩

section

variable (h : r.Represents s)

include h

/-- **Evaluation finds the same results in the tables, and stores them there.** -/
theorem Represents.evaluate (id : CellId) : (r.evaluate id).1 = (s.evaluate id).1
    ∧ (r.evaluate id).2.Represents (s.evaluate id).2 := by
  rw [Registry.evaluate, h.sheet_eq]
  exact ⟨rfl, h.adopt (Sheet.amends_evaluate s id).bare⟩

theorem Represents.refresh (config : Config) (id : CellId) :
    (r.refresh config id).1 = (s.refresh config id).1
      ∧ (r.refresh config id).2.Represents (s.refresh config id).2 := by
  rw [Registry.refresh, h.sheet_eq]
  exact ⟨rfl, h.adopt (Sheet.amends_refresh s config id).bare⟩

theorem Represents.commit (config : Config) (id : CellId) :
    (r.commit config id).1 = (s.commit config id).1
      ∧ (r.commit config id).2.Represents (s.commit config id).2 := by
  rw [Registry.commit, h.sheet_eq]
  exact ⟨rfl, h.adopt (Sheet.amends_commit s config id).bare⟩

theorem Represents.recalculate (config : Config) :
    (r.recalculate config).1 = (s.recalculate config).1
      ∧ (r.recalculate config).2.Represents (s.recalculate config).2 := by
  rw [Registry.recalculate, h.sheet_eq]
  exact ⟨rfl, h.adopt
    ((Sheet.amends_clearDependents s).trans (Sheet.amends_recalculate s config)).bare⟩

end

/-- **An operation does to the tables what it does to the sheet**, if there are ids for its new
cells. -/
theorem Represents.perform (h : r.Represents s) (orders : Orders) (operation : Operation)
    (hfit : r.nextId.toNat + r.created operation < UInt32.size) :
    (r.perform orders operation).Represents (s.perform operation) := by
  cases operation with
  | setText id text => exact h.orKeep (h.setText id text)
  | setValue id value => exact h.modifyCell id (fun _ => rfl) fun _ => ⟨rfl, rfl⟩
  | addDependent source dependent => exact h.addDependent source dependent
  | removeDependent dependent => exact h.mapCells (fun _ _ => rfl) fun _ => ⟨rfl, rfl⟩
  | insertRow row =>
    exact h.orKeep (h.insertLine orders .row row fun hrow => created_insertion hrow ▸ hfit)
  | insertColumn col =>
    exact h.orKeep (h.insertLine orders .column col fun hcol => created_insertion hcol ▸ hfit)
  | deleteRow row => exact h.orKeep (h.deleteLine orders .row row)
  | deleteColumn col => exact h.orKeep (h.deleteLine orders .column col)
  | evaluate id => exact (h.evaluate id).2
  | refresh config id => exact (h.refresh config id).2
  | commit config id => exact (h.commit config id).2
  | recalculate config => exact (h.recalculate config).2

/-! ## Issued ids -/

theorem nextId_insertLine (r : Registry) (orders : Orders) (axis : Axis) (line : Nat) :
    (r.orKeep (r.insertLine orders axis line)).nextId.toNat
      = (r.nextId.toNat + r.created (axis.insertion line)) % UInt32.size := by
  rw [insertLine_eq]
  split
  · rename_i hline
    rw [created_insertion_of_lt hline]
    exact (Nat.mod_eq_of_lt r.nextId.toNat_lt).symm
  · rename_i hline
    rw [created_insertion (Nat.le_of_not_lt hline)]
    show (Registry.materializeAll _ _).nextId.toNat = _
    rw [nextId_materializeAll, nextId_withCount, nextId_remap, List.length_map, List.length_range]

theorem nextId_deleteLine (r : Registry) (orders : Orders) (axis : Axis) (line : Nat) :
    (r.orKeep (r.deleteLine orders axis line)).nextId = r.nextId := by
  rw [deleteLine_eq]
  split
  · rfl
  · split
    · rfl
    · exact (nextId_withCount _ _).trans nextId_remap

/-- **An operation advances the counter by the number of cells it creates.** -/
theorem nextId_perform (r : Registry) (orders : Orders) (operation : Operation) :
    (r.perform orders operation).nextId.toNat
      = (r.nextId.toNat + r.created operation) % UInt32.size := by
  have hsame : ∀ {t : Registry}, t.nextId = r.nextId →
      t.nextId.toNat = (r.nextId.toNat + 0) % UInt32.size := fun h => by
    rw [h]
    exact (Nat.mod_eq_of_lt r.nextId.toNat_lt).symm
  cases operation with
  | setText id text =>
    refine hsame ?_
    rw [perform, setText]
    split <;> rfl
  | insertRow row => exact nextId_insertLine r orders .row row
  | insertColumn col => exact nextId_insertLine r orders .column col
  | deleteRow row => exact hsame (nextId_deleteLine r orders .row row)
  | deleteColumn col => exact hsame (nextId_deleteLine r orders .column col)
  | setValue | addDependent | removeDependent | evaluate | refresh | commit | recalculate =>
    exact hsame rfl

section

variable (hfit : r.nextId.toNat + r.created operation < UInt32.size)

include hfit

/-- The ids that come next are issued in turn. -/
theorem issuedBy_eq : r.issuedBy operation =
    (List.range' r.nextId.toNat (r.created operation)).map CellId.mk := by
  rw [issuedBy, List.range'_eq_map_range, List.map_map]
  refine List.map_congr_left fun k hk => ?_
  have := List.mem_range.mp hk
  exact idAfter_of_lt (by omega)

theorem mem_issuedBy_iff : id ∈ r.issuedBy operation ↔
    r.nextId.toNat ≤ id.index ∧ id.index < r.nextId.toNat + r.created operation := by
  rw [issuedBy_eq hfit, List.mem_map]
  simp only [List.mem_range'_1]
  constructor
  · rintro ⟨n, hn, rfl⟩
    exact hn
  · exact fun h => ⟨id.index, h, rfl⟩

/-- A line that is inserted gives cells to all ids issued for it. -/
theorem Represents.isLive_insertion (h : r.Represents s) (axis : Axis) {line : Nat}
    (hoperation : operation = axis.insertion line) (hid : id ∈ r.issuedBy operation) :
    (s.perform operation).isLive id = true := by
  subst hoperation
  obtain ⟨hle, hlt⟩ := (mem_issuedBy_iff hfit).mp hid
  have hline : ¬ r.count axis < line := fun hlt' => by
    rw [created_insertion_of_lt hlt'] at hlt
    omega
  have hline := Nat.le_of_not_lt hline
  rw [created_insertion hline, h.length_eq, h.nextId_eq] at hlt
  rw [h.nextId_eq] at hle
  obtain ⟨t, ht⟩ := Axis.exists_insert (h.count_eq axis ▸ hline)
  rw [Axis.perform_insertion, ht]
  have hfresh := (Axis.inserts_of_insert h.consistent ht).fresh (id.index - s.nextId.index)
    (by omega)
  rw [Nat.add_sub_cancel' hle] at hfresh
  exact Sheet.isLive_iff.mpr ⟨_, hfresh⟩

/-- **The ids issued are those of the new cells.** -/
theorem Represents.mem_issuedBy_iff_isLive (h : r.Represents s) : id ∈ r.issuedBy operation ↔
    (r.perform orders operation).isLive id = true ∧ r.isLive id = false := by
  have hperform := h.perform orders operation hfit
  have hnext := nextId_perform r orders operation
  rw [Nat.mod_eq_of_lt hfit] at hnext
  constructor
  · intro hid
    refine ⟨?_, ?_⟩
    · rw [hperform.isLive_eq]
      cases operation with
      | insertRow row => exact h.isLive_insertion hfit .row rfl hid
      | insertColumn col => exact h.isLive_insertion hfit .column rfl hid
      | setText | setValue | addDependent | removeDependent | deleteRow | deleteColumn | evaluate
      | refresh | commit | recalculate => cases hid
    · refine Bool.eq_false_iff.mpr fun hlive => ?_
      have := h.indexed.index_lt id hlive
      have := (mem_issuedBy_iff hfit).mp hid
      omega
  · rintro ⟨hlive, hdead⟩
    have hlt := hperform.indexed.index_lt id hlive
    rw [hperform.isLive_eq] at hlive
    rw [h.isLive_eq] at hdead
    have hle : s.nextId.index ≤ id.index :=
      ((Sheet.keeps_perform s operation).isLive_or_le id hlive).resolve_left (by simp [hdead])
    rw [← h.nextId_eq] at hle
    exact (mem_issuedBy_iff hfit).mpr ⟨hle, hnext ▸ hlt⟩

/-- **No operation lists a cell that is gone**, unless it is told to list that very cell. -/
theorem Represents.listed_of_not_isLive (h : r.Represents s) {source : CellId}
    (hid : id ∈ (r.perform orders operation).dependentsOf source)
    (hgone : (r.perform orders operation).isLive id = false) : r.isLive id = false
      ∧ (id ∈ r.dependentsOf source ∨ operation = .addDependent source id) := by
  have hperform := h.perform orders operation hfit
  rw [hperform.dependentsOf_eq] at hid
  rw [hperform.isLive_eq] at hgone
  rw [h.isLive_eq, h.dependentsOf_eq]
  exact ((Sheet.keeps_perform s operation).dependents source id hid).resolve_left (by simp [hgone])

end

/-! ## Runs of operations -/

/-- **A run of operations does to the tables what it does to the sheet**, and the ids it issues are
numbered in sequence. -/
theorem Represents.run : ∀ (steps : List (Orders × Operation)) {r : Registry} {s : Sheet},
    r.Represents s → r.nextId.toNat + (r.issued steps).length < UInt32.size →
    (r.run steps).Represents (s.run (steps.map Prod.snd))
      ∧ r.issued steps = (List.range' r.nextId.toNat (r.issued steps).length).map CellId.mk
      ∧ (r.run steps).nextId.toNat = r.nextId.toNat + (r.issued steps).length
  | [], r, s, h, _ => ⟨h, rfl, rfl⟩
  | step :: steps, r, s, h, hfit => by
      rw [issued, List.length_append, length_issuedBy] at hfit
      have hstep : r.nextId.toNat + r.created step.2 < UInt32.size := by omega
      have hnext := nextId_perform r step.1 step.2
      rw [Nat.mod_eq_of_lt hstep] at hnext
      obtain ⟨hrun, hissued, hlast⟩ := Represents.run steps (h.perform step.1 step.2 hstep)
        (by rw [hnext]; omega)
      refine ⟨hrun, ?_, ?_⟩
      · rw [issued, List.length_append, length_issuedBy, ← List.range'_append_1, List.map_append,
          ← issuedBy_eq hstep, ← hnext, ← hissued]
      · rw [issued, List.length_append, length_issuedBy]
        exact hlast.trans (by rw [hnext]; omega)

section

variable {steps : List (Orders × Operation)} (h : r.Represents s)
  (hfit : r.nextId.toNat + (r.issued steps).length < UInt32.size)

include h hfit

/-- **No id is issued twice**, or to a second cell. -/
theorem Represents.nodup_ids_append_issued : (r.ids ++ r.issued steps).Nodup := by
  obtain ⟨-, hissued, -⟩ := h.run steps hfit
  rw [hissued]
  refine List.nodup_append.mpr ⟨h.indexed.nodup_ids, ?_, ?_⟩
  · exact List.Nodup.map (fun _ _ h => congrArg CellId.index h) List.nodup_range'
  · rintro id hid _ hid' rfl
    obtain ⟨n, hn, rfl⟩ := List.mem_map.mp hid'
    have hlt := h.indexed.index_lt _ ((h.indexed.mem_ids_iff _).mp hid)
    exact Nat.not_lt_of_le (List.mem_range'_1.mp hn).1 hlt

/-- A cell with an id from where the run began has got it in the run. -/
theorem Represents.mem_issued_of_le (hlive : (r.run steps).isLive id = true)
    (hle : r.nextId.toNat ≤ id.index) : id ∈ r.issued steps := by
  obtain ⟨hrun, hissued, hlast⟩ := h.run steps hfit
  rw [hissued]
  exact List.mem_map.mpr
    ⟨id.index, List.mem_range'_1.mpr ⟨hle, hlast ▸ hrun.indexed.index_lt id hlive⟩, rfl⟩

end

/-- **The tables of a new registry agree after any run of operations** that does not use up the ids
— whatever the orders in which it reads the indices.  Every cell has an id that was issued once.  A
further operation issues ids to its new cells, brings a cell that is gone into a list of dependents
only when it is told to list that very cell, and if it deletes a line, it leaves no removed cell in
any list. -/
theorem tables_agree_run (rows cols : Nat) (steps : List (Orders × Operation))
    (hfit : max rows 1 * max cols 1 + ((blank rows cols).issued steps).length < UInt32.size) :
    let before := (blank rows cols).run steps
    let history := (blank rows cols).ids ++ (blank rows cols).issued steps
    before.Indexed ∧ history.Nodup ∧ (∀ id, before.isLive id = true → id ∈ history)
      ∧ ∀ orders operation, before.nextId.toNat + before.created operation < UInt32.size →
        let after := before.perform orders operation
        (∀ id, id ∈ before.issuedBy operation ↔
          after.isLive id = true ∧ before.isLive id = false)
        ∧ (∀ source id, id ∈ after.dependentsOf source → after.isLive id = false →
          before.isLive id = false
            ∧ (id ∈ before.dependentsOf source ∨ operation = .addDependent source id))
        ∧ ∀ line, operation = .deleteRow line ∨ operation = .deleteColumn line →
          ∀ id, before.isLive id = true → after.isLive id = false →
            ∀ source, id ∉ after.dependentsOf source := by
  intro before history
  have hblank : (blank rows cols).Represents (Sheet.blank rows cols) := represents_blank (by omega)
  have hnext : (blank rows cols).nextId.toNat = max rows 1 * max cols 1 := by
    rw [hblank.nextId_eq]
    simp [Sheet.nextId, Sheet.blank]
  rw [← hnext] at hfit
  have hrun := (hblank.run steps hfit).1
  refine ⟨hrun.indexed, hblank.nodup_ids_append_issued hfit, fun id hlive => ?_,
    fun orders operation hroom => ⟨fun id => hrun.mem_issuedBy_iff_isLive hroom,
      fun source id => hrun.listed_of_not_isLive hroom, fun line _ id hlive hgone source hid => ?_⟩⟩
  · refine List.mem_append.mpr ?_
    rcases Nat.lt_or_ge id.index (max rows 1 * max cols 1) with hid | hid
    · refine .inl ((hblank.indexed.mem_ids_iff id).mpr ?_)
      rw [hblank.isLive_eq, Sheet.isLive, Sheet.cell?_blank, if_pos hid]
      rfl
    · exact .inr (hblank.mem_issued_of_le hfit hlive (hnext ▸ hid))
  · have hdead := (hrun.listed_of_not_isLive hroom hid hgone).1
    simp [hlive] at hdead

/-- One index is read as it is stored, the other one backwards. -/
def mixedOrders : Orders :=
  ⟨⟨fun entries => entries, .refl⟩, ⟨List.reverse, List.reverse_perm⟩⟩

/-- Two cells, the first a dependent of the second; a row is inserted above them, and then the
column of the first is deleted. -/
theorem tables_agree_run_insert_delete :
    let steps := [(mixedOrders, Operation.addDependent ⟨1⟩ ⟨0⟩), (mixedOrders, .insertRow 0)]
    let before := (blank 1 2).run steps
    let after := before.perform mixedOrders (.deleteColumn 0)
    max 1 1 * max 2 1 + ((blank 1 2).issued steps).length < UInt32.size
      ∧ before.Indexed
      ∧ ((blank 1 2).ids ++ (blank 1 2).issued steps).Nodup
      ∧ before.nextId.toNat + before.created (.deleteColumn 0) < UInt32.size
      ∧ before.isLive ⟨0⟩ = true ∧ ⟨0⟩ ∈ before.dependentsOf ⟨1⟩ ∧ after.isLive ⟨0⟩ = false
      ∧ ∀ source, ⟨0⟩ ∉ after.dependentsOf source := by
  intro steps before after
  have hfit : max 1 1 * max 2 1 + ((blank 1 2).issued steps).length < UInt32.size := by
    decide +kernel
  have hroom : before.nextId.toNat + before.created (.deleteColumn 0) < UInt32.size :=
    before.nextId.toNat_lt
  have hrun : before.Represents ((Sheet.blank 1 2).run (steps.map Prod.snd)) :=
    ((represents_blank (by decide)).run steps (by decide +kernel)).1
  have hlive : before.isLive ⟨0⟩ = true := (hrun.isLive_eq _).trans (by decide +kernel)
  have hlisted : ⟨0⟩ ∈ before.dependentsOf ⟨1⟩ := by
    rw [hrun.dependentsOf_eq]
    decide +kernel
  have hgone : after.isLive ⟨0⟩ = false :=
    ((hrun.perform mixedOrders (.deleteColumn 0) hroom).isLive_eq _).trans (by decide +kernel)
  obtain ⟨hindexed, hnodup, -, hstep⟩ := tables_agree_run 1 2 steps hfit
  obtain ⟨-, -, hpurged⟩ := hstep mixedOrders (.deleteColumn 0) hroom
  exact ⟨hfit, hindexed, hnodup, hroom, hlive, hlisted, hgone,
    hpurged 0 (.inr rfl) ⟨0⟩ hlive hgone⟩

end Registry

end Spreadsheet
