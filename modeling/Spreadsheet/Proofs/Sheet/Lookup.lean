import Spreadsheet.Sheet.Basic

/-!
# Proofs/Sheet/Lookup — the ids in the grid and the cells they stand for

In a consistent sheet the ids in the grid are exactly those of the cells, and a name of the grid
stands for the cell at the position it denotes.
-/

namespace Spreadsheet

namespace Sheet

variable {s : Sheet}

theorem idAt_of_lookup {name : String} {id : CellId} (h : s.lookup name = some id) :
    ∃ p, Position.ofName? name = some p ∧ s.idAt p = some id := by
  rw [lookup] at h
  split at h
  · rename_i p hp
    split at h
    · exact ⟨p, hp, h⟩
    · simp at h
  · simp at h

theorem mem_ids_iff {id : CellId} : id ∈ s.ids ↔ ∃ p, s.idAt p = some id := by
  simp only [ids, List.mem_flatMap, Array.mem_toList_iff, idAt]
  constructor
  · rintro ⟨row, hrow, hid⟩
    obtain ⟨i, hi, rfl⟩ := Array.getElem_of_mem hrow
    obtain ⟨j, hj, rfl⟩ := Array.getElem_of_mem hid
    exact ⟨⟨i, j⟩, by simp [hi, hj]⟩
  · rintro ⟨p, hp⟩
    obtain ⟨row, hrow, hid⟩ := Option.bind_eq_some_iff.mp hp
    exact ⟨row, Array.mem_of_getElem? hrow, Array.mem_of_getElem? hid⟩

/-- A name leads into the grid. -/
theorem mem_ids_of_lookup {name : String} {id : CellId} (h : s.lookup name = some id) :
    id ∈ s.ids :=
  mem_ids_iff.mpr ((idAt_of_lookup h).imp fun _ => And.right)

theorem resolve_eq_ok_iff {name : String} {id : CellId} :
    s.resolve name = .ok id ↔ s.lookup name = some id := by
  rw [resolve]
  cases hp : Position.ofName? name with
  | none => simp [lookup, hp]
  | some p =>
    cases s.lookup name <;> simp

theorem isLive_iff {id : CellId} : s.isLive id = true ↔ ∃ c, s.cell? id = some c :=
  Option.isSome_iff_exists

/-- The id of a cell is the number of a slot. -/
theorem index_lt_of_cell? {id : CellId} {c : Cell} (h : s.cell? id = some c) :
    id.index < s.slots.size := by
  rw [cell?] at h
  exact (Array.getElem?_eq_some_iff.mp (Option.join_eq_some_iff.mp h)).1

/-- **The ids in a consistent grid are those of the cells.** -/
theorem Consistent.mem_ids_iff (hs : s.Consistent) {id : CellId} :
    id ∈ s.ids ↔ s.isLive id = true := by
  rw [Sheet.mem_ids_iff, isLive_iff]
  constructor
  · rintro ⟨p, hp⟩
    obtain ⟨c, hc, -⟩ := (hs.idAt_iff p id).mp hp
    exact ⟨c, hc⟩
  · rintro ⟨c, hc⟩
    exact ⟨c.position, (hs.idAt_iff _ id).mpr ⟨c, hc, rfl⟩⟩

theorem Consistent.isLive_of_idAt (hs : s.Consistent) {p : Position} {id : CellId}
    (h : s.idAt p = some id) : s.isLive id = true := hs.mem_ids_iff.mp (Sheet.mem_ids_iff.mpr ⟨p, h⟩)

theorem Consistent.isLive_of_lookup (hs : s.Consistent) {name : String} {id : CellId}
    (h : s.lookup name = some id) : s.isLive id = true := hs.mem_ids_iff.mp (mem_ids_of_lookup h)

/-- A name stands for a cell, at the position the name denotes. -/
theorem Consistent.cell?_of_lookup (hs : s.Consistent) {name : String} {id : CellId}
    (h : s.lookup name = some id) : ∃ c, s.cell? id = some c ∧ c.id = id := by
  obtain ⟨p, -, hp⟩ := idAt_of_lookup h
  obtain ⟨c, hc, -⟩ := (hs.idAt_iff p id).mp hp
  exact ⟨c, hc, hs.id_eq id c hc⟩

end Sheet

end Spreadsheet
