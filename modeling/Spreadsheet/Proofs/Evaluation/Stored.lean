import Spreadsheet.Evaluation.Outcome
import Spreadsheet.Proofs.Evaluation.Agreement
import Spreadsheet.Proofs.Sheet.Consistent

/-!
# Proofs/Evaluation/Stored — evaluation does not look at what it stores

Evaluating cells stores the values they show and records dependents.  What is left of a sheet
without these is its `bare` sheet: the grid, the ids and the texts.  Evaluation keeps the bare sheet
and depends on nothing else (`runPass_of_bare_eq`).
-/

namespace Spreadsheet

/-- A cell that shows nothing and has no dependents. -/
def Cell.bare (c : Cell) : Cell := { c with value := "", dependents := [] }

namespace Sheet

variable {s t : Sheet} {id : CellId}

/-- What a sheet is apart from what evaluation stores in it. -/
def bare (s : Sheet) : Sheet := s.mapCells Cell.bare

/-- A sheet is its grid and its cells. -/
theorem ext_cells (hgrid : s.grid = t.grid) (hsize : s.slots.size = t.slots.size)
    (hcell : ∀ id, s.cell? id = t.cell? id) : s = t := by
  obtain ⟨slots, grid⟩ := s
  obtain ⟨slots', grid'⟩ := t
  obtain rfl : grid = grid' := hgrid
  congr 1
  refine Array.ext hsize fun i hi hi' => ?_
  have := hcell ⟨i⟩
  simpa [cell?, Array.getElem?_eq_getElem hi, Array.getElem?_eq_getElem hi'] using this

@[simp] theorem grid_bare (s : Sheet) : s.bare.grid = s.grid := rfl

theorem cell?_bare (s : Sheet) (id : CellId) : s.bare.cell? id = (s.cell? id).map Cell.bare :=
  cell?_mapCells s Cell.bare id

/-! ## Storing keeps the bare sheet -/

variable {f : Cell → Cell}

theorem bare_modifyCell (s : Sheet) (id : CellId) (hf : ∀ c, (f c).bare = c.bare) :
    (s.modifyCell id f).bare = s.bare := by
  refine ext_cells rfl (by simp [bare]) fun j => ?_
  rw [cell?_bare, cell?_bare, cell?_modifyCell]
  split
  · cases s.cell? j <;> simp [hf]
  · rfl

theorem bare_mapCells (s : Sheet) (hf : ∀ c, (f c).bare = c.bare) :
    (s.mapCells f).bare = s.bare := by
  refine ext_cells rfl (by simp [bare]) fun j => ?_
  rw [cell?_bare, cell?_bare, cell?_mapCells]
  cases s.cell? j <;> simp [hf]

@[simp] theorem bare_setValue (s : Sheet) (id : CellId) (value : String) :
    (s.setValue id value).bare = s.bare := bare_modifyCell s id fun _ => rfl

@[simp] theorem bare_addDependent (s : Sheet) (source dependent : CellId) :
    (s.addDependent source dependent).bare = s.bare := by
  refine bare_modifyCell s source fun c => ?_
  rw [Cell.addDependent]
  split <;> rfl

@[simp] theorem bare_removeDependent (s : Sheet) (dependent : CellId) :
    (s.removeDependent dependent).bare = s.bare := bare_mapCells s fun _ => rfl

@[simp] theorem bare_clearDependents (s : Sheet) : s.clearDependents.bare = s.bare :=
  bare_mapCells s fun _ => rfl

@[simp] theorem bare_record (s : Sheet) : ∀ references, (s.record references).bare = s.bare
  | [] => rfl
  | reference :: references =>
      (bare_addDependent (s.record references) reference.1 reference.2).trans
        (bare_record s references)

@[simp] theorem bare_classify (s : Sheet) (id : CellId) : (s.classify id).2.bare = s.bare := by
  rcases classify_snd s id with h | ⟨references, h⟩
  · rw [h]
  · rw [h, bare_record]

@[simp] theorem bare_refresh (s : Sheet) (config : Config) (id : CellId) :
    (s.refresh config id).2.bare = s.bare := by
  show ((s.classify id).2.setValue id _).bare = s.bare
  rw [bare_setValue, bare_classify]

/-! ## What is stored -/

theorem valueOf_modifyCell (s : Sheet) (id j : CellId) (hf : ∀ c, (f c).value = c.value) :
    (s.modifyCell id f).valueOf j = s.valueOf j := by
  rw [valueOf, valueOf, cell?_modifyCell]
  by_cases h : j = id
  · rw [if_pos h]
    cases s.cell? j <;> simp [hf]
  · rw [if_neg h]

theorem valueOf_mapCells (s : Sheet) (j : CellId) (hf : ∀ c, (f c).value = c.value) :
    (s.mapCells f).valueOf j = s.valueOf j := by
  rw [valueOf, valueOf, cell?_mapCells]
  cases s.cell? j <;> simp [hf]

@[simp] theorem valueOf_addDependent (s : Sheet) (source dependent j : CellId) :
    (s.addDependent source dependent).valueOf j = s.valueOf j := by
  refine valueOf_modifyCell s source j fun c => ?_
  rw [Cell.addDependent]
  split <;> rfl

@[simp] theorem valueOf_removeDependent (s : Sheet) (dependent j : CellId) :
    (s.removeDependent dependent).valueOf j = s.valueOf j := valueOf_mapCells s j fun _ => rfl

@[simp] theorem valueOf_clearDependents (s : Sheet) (j : CellId) :
    s.clearDependents.valueOf j = s.valueOf j := valueOf_mapCells s j fun _ => rfl

@[simp] theorem valueOf_record (s : Sheet) (j : CellId) :
    ∀ references, (s.record references).valueOf j = s.valueOf j
  | [] => rfl
  | reference :: references =>
      (valueOf_addDependent (s.record references) reference.1 reference.2 j).trans
        (valueOf_record s j references)

theorem valueOf_setValue_of_ne {s : Sheet} {id j : CellId} (h : j ≠ id) (value : String) :
    (s.setValue id value).valueOf j = s.valueOf j := by
  rw [valueOf, valueOf, setValue, cell?_modifyCell, if_neg h]

theorem valueOf_setValue_self {s : Sheet} {id : CellId} (h : s.isLive id = true) (value : String) :
    (s.setValue id value).valueOf id = value := by
  obtain ⟨c, hc⟩ := isLive_iff.mp h
  simp [valueOf, setValue, cell?_modifyCell, hc]

theorem valueOf_of_not_isLive {s : Sheet} {id : CellId} (h : s.isLive id = false) :
    s.valueOf id = "" := by
  have : s.cell? id = none := by simpa [isLive] using h
  rw [valueOf, this]

/-- Storing what a cell shows anyway changes nothing. -/
theorem setValue_valueOf (s : Sheet) (id : CellId) : s.setValue id (s.valueOf id) = s := by
  refine ext_cells rfl (by simp [setValue]) fun j => ?_
  rw [setValue, cell?_modifyCell]
  split
  · rename_i hj
    rw [hj, valueOf]
    cases s.cell? id <;> rfl
  · rfl

@[simp] theorem dependentsOf_setValue (s : Sheet) (id j : CellId) (value : String) :
    (s.setValue id value).dependentsOf j = s.dependentsOf j := by
  rw [dependentsOf, dependentsOf, setValue, cell?_modifyCell]
  by_cases h : j = id
  · rw [if_pos h]
    cases s.cell? j <;> rfl
  · rw [if_neg h]

@[simp] theorem dependentsOf_clearDependents (s : Sheet) (j : CellId) :
    s.clearDependents.dependentsOf j = [] := by
  rw [dependentsOf, clearDependents, cell?_mapCells]
  cases s.cell? j <;> rfl

theorem mem_dependentsOf_removeDependent {s : Sheet} {dependent id j : CellId} :
    id ∈ (s.removeDependent dependent).dependentsOf j ↔ id ∈ s.dependentsOf j ∧ id ≠ dependent := by
  rw [dependentsOf, dependentsOf, removeDependent, cell?_mapCells]
  cases s.cell? j <;> simp [Cell.removeDependent]

theorem dependentsOf_addDependent (s : Sheet) (source dependent j : CellId) :
    (s.addDependent source dependent).dependentsOf j =
      if s.isLive j = true ∧ j = source ∧ dependent ∉ s.dependentsOf j then
        s.dependentsOf j ++ [dependent]
      else s.dependentsOf j := by
  rw [dependentsOf, dependentsOf, addDependent, cell?_modifyCell, isLive]
  cases s.cell? j with
  | none => simp
  | some c =>
    by_cases hj : j = source
    · simp only [hj, ↓reduceIte, Option.map_some, Cell.addDependent]
      split <;> rename_i hmem <;> simp [hmem]
    · simp [hj]

theorem mem_dependentsOf_addDependent {s : Sheet} {source dependent id j : CellId} :
    id ∈ (s.addDependent source dependent).dependentsOf j ↔
      id ∈ s.dependentsOf j ∨ s.isLive j = true ∧ j = source ∧ id = dependent := by
  rw [dependentsOf_addDependent]
  split
  · rename_i h
    obtain ⟨hlive, rfl, -⟩ := h
    simp [hlive]
  · rename_i h
    refine ⟨.inl, ?_⟩
    rintro (hmem | ⟨hlive, hj, rfl⟩)
    · exact hmem
    · by_contra hmem
      exact h ⟨hlive, hj, hmem⟩

/-- **Recording adds the recorded references to the dependents, and nothing else.** -/
theorem mem_dependentsOf_record {s : Sheet} {id j : CellId} : ∀ {references : List _},
    id ∈ (s.record references).dependentsOf j ↔
      id ∈ s.dependentsOf j ∨ s.isLive j = true ∧ (j, id) ∈ references
  | [] => by simp [record]
  | reference :: references => by
      show id ∈ ((s.record references).addDependent reference.1 reference.2).dependentsOf j ↔ _
      rw [mem_dependentsOf_addDependent, mem_dependentsOf_record, isLive_record, or_assoc,
        ← and_or_left, List.mem_cons, or_comm (a := (j, id) ∈ references)]
      simp [Prod.ext_iff]

/-! ## Sheets with one bare sheet -/

section

variable (h : s.bare = t.bare)

include h

theorem grid_of_bare_eq : s.grid = t.grid := by rw [← grid_bare s, h, grid_bare]

theorem size_slots_of_bare_eq : s.slots.size = t.slots.size := by
  simpa [bare] using congrArg (fun s => s.slots.size) h

theorem bareCell_of_bare_eq (id : CellId) :
    (s.cell? id).map Cell.bare = (t.cell? id).map Cell.bare := by
  rw [← cell?_bare, ← cell?_bare, h]

theorem isLive_of_bare_eq (id : CellId) : s.isLive id = t.isLive id := by
  simpa [isLive] using congrArg Option.isSome (bareCell_of_bare_eq h id)

theorem text?_of_bare_eq (id : CellId) : s.text? id = t.text? id := by
  simpa [text?, Cell.bare, Function.comp_def] using
    congrArg (Option.map Cell.text) (bareCell_of_bare_eq h id)

theorem lookup_of_bare_eq (name : String) : s.lookup name = t.lookup name := by
  simp only [lookup, idAt]
  rw [grid_of_bare_eq h]

theorem ids_of_bare_eq : s.ids = t.ids := by rw [ids, ids, grid_of_bare_eq h]

theorem nameOf_of_bare_eq (id : CellId) : s.nameOf id = t.nameOf id := by
  have hcell := bareCell_of_bare_eq h id
  rw [nameOf, nameOf]
  cases hs : s.cell? id <;> cases ht : t.cell? id <;> simp_all [Cell.bare, Cell.name]

theorem Consistent.of_bare_eq (hs : s.Consistent) : t.Consistent := by
  refine hs.of_places (grid_of_bare_eq h).symm fun id => ?_
  simpa [place?, Cell.bare, Function.comp_def] using
    (congrArg (Option.map fun c => (c.id, c.position)) (bareCell_of_bare_eq h id)).symm

/-- Sheets with one bare sheet agree everywhere. -/
theorem Agree.of_bare_eq : s.Agree t fun _ => True where
  closed _ _ _ _ := trivial
  text id _ := (text?_of_bare_eq h id).symm
  lookup _ name _ _ := (lookup_of_bare_eq h name).symm

theorem formula?_of_bare_eq (id : CellId) : s.formula? id = t.formula? id :=
  ((Agree.of_bare_eq h).formula? trivial).symm

theorem refersTo_of_bare_eq {id target : CellId} (href : s.RefersTo id target) :
    t.RefersTo id target := by
  obtain ⟨e, name, he, hname, hlookup⟩ := href
  exact ⟨e, name, (formula?_of_bare_eq h id).symm.trans he, hname,
    (lookup_of_bare_eq h name).symm.trans hlookup⟩

theorem reads_of_bare_eq {id target : CellId} (hreads : s.Reads id target) : t.Reads id target :=
  (Agree.of_bare_eq h).reads trivial hreads

theorem plainEvaluate_of_bare_eq (id : CellId) : s.plainEvaluate id = t.plainEvaluate id :=
  ((Agree.of_bare_eq h).plainEvaluate trivial).symm

theorem evaluateText_of_bare_eq : s.evaluateText = t.evaluateText := by
  funext resolve id p
  have hcell := bareCell_of_bare_eq h id
  rw [evaluateText, evaluateText]
  cases hs : s.cell? id <;> cases ht : t.cell? id <;> simp_all [Cell.bare]

theorem resolveWithin_of_bare_eq (depth : Nat) : s.resolveWithin depth = t.resolveWithin depth := by
  induction depth with
  | zero =>
    funext current name p
    rw [resolveWithin, resolveWithin]
    rw [lookup_of_bare_eq h]
  | succ depth ih =>
    funext current name p
    rw [resolveWithin, resolveWithin]
    rw [lookup_of_bare_eq h]
    have hvalue : ∀ target result,
        s.referenceValue target result = t.referenceValue target result := fun target result =>
      ((Agree.of_bare_eq h).referenceValue trivial result).symm
    simp only [ih, evaluateText_of_bare_eq h, hvalue]

/-- **A pass depends on the bare sheet alone.** -/
theorem runPass_of_bare_eq (id : CellId) : s.runPass id = t.runPass id := by
  rw [runPass, runPass, runPassWithin, runPassWithin, size_slots_of_bare_eq h,
    evaluateText_of_bare_eq h, resolveWithin_of_bare_eq h]

end

end Sheet

end Spreadsheet
