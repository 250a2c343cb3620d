import Spreadsheet.Proofs.Recalculation.Commit

/-!
# Proofs/Recalculation/Dependents — what evaluation does to the lists of dependents

Evaluating cells leaves texts, names and places alone.  It may forget dependents, but it records one
only for a reference that stands in its formula, and never a second time: the sheet after it
`Amends` the sheet before.  Amendments compose, and so a commit and a recalculation are amendments
because each single evaluation is — on every sheet, whatever is stored in it.
-/

namespace Spreadsheet

namespace Sheet

variable {s t u : Sheet}

/-! ## Amendments -/

/-- The second sheet has the cells of the first, with other values perhaps, and lists no dependent
that was not listed before but those that refer to the cell. -/
structure Amends (s t : Sheet) : Prop where
  bare : t.bare = s.bare
  origin : ∀ source id, id ∈ t.dependentsOf source →
    id ∈ s.dependentsOf source ∨ s.RefersTo id source
  nodup : ∀ source, (s.dependentsOf source).Nodup → (t.dependentsOf source).Nodup

theorem Amends.refl (s : Sheet) : s.Amends s := ⟨rfl, fun _ _ => .inl, fun _ => id⟩

theorem Amends.trans (h : s.Amends t) (h' : t.Amends u) : s.Amends u where
  bare := h'.bare.trans h.bare
  origin source id hid := (h'.origin source id hid).elim (h.origin source id) fun hrefers =>
    .inr (refersTo_of_bare_eq h.bare hrefers)
  nodup source hs := h'.nodup source (h.nodup source hs)

/-- A change that keeps the lists is an amendment. -/
theorem Amends.of_dependentsOf_eq (hbare : t.bare = s.bare)
    (h : ∀ source, t.dependentsOf source = s.dependentsOf source) : s.Amends t where
  bare := hbare
  origin source _ hid := .inl (h source ▸ hid)
  nodup source hs := (h source).symm ▸ hs

theorem amends_setValue (s : Sheet) (id : CellId) (value : String) :
    s.Amends (s.setValue id value) :=
  .of_dependentsOf_eq (bare_setValue s id value) fun source => dependentsOf_setValue s id source value

/-! ## Forgetting -/

theorem dependentsOf_removeDependent (s : Sheet) (dependent source : CellId) :
    (s.removeDependent dependent).dependentsOf source =
      (s.dependentsOf source).filter (· ≠ dependent) := by
  rw [dependentsOf, dependentsOf, removeDependent, cell?_mapCells]
  cases s.cell? source <;> rfl

theorem amends_removeDependent (s : Sheet) (dependent : CellId) :
    s.Amends (s.removeDependent dependent) where
  bare := bare_removeDependent s dependent
  origin _ _ hid := .inl (mem_dependentsOf_removeDependent.mp hid).1
  nodup source hs := by
    rw [dependentsOf_removeDependent]
    exact hs.filter _

theorem amends_clearDependents (s : Sheet) : s.Amends s.clearDependents where
  bare := bare_clearDependents s
  origin _ _ hid := by simp at hid
  nodup _ _ := by simp

/-! ## Recording -/

theorem nodup_addDependent {source : CellId} (h : (s.dependentsOf source).Nodup)
    (target dependent : CellId) :
    ((s.addDependent target dependent).dependentsOf source).Nodup := by
  rw [dependentsOf_addDependent]
  split
  · rename_i hnew
    exact List.nodup_append.mpr ⟨h, List.nodup_singleton _, fun a ha b hb hab =>
      hnew.2.2 (List.mem_singleton.mp hb ▸ hab ▸ ha)⟩
  · exact h

theorem nodup_record {source : CellId} (h : (s.dependentsOf source).Nodup) :
    ∀ references, ((s.record references).dependentsOf source).Nodup
  | [] => h
  | reference :: references =>
      nodup_addDependent (nodup_record h references) reference.1 reference.2

/-- Recording references that stand in formulas is an amendment. -/
theorem amends_record {references : List (CellId × CellId)}
    (h : ∀ r ∈ references, s.RefersTo r.2 r.1) : s.Amends (s.record references) where
  bare := bare_record s references
  origin source id hid :=
    (mem_dependentsOf_record.mp hid).imp_right fun hnoted => h (source, id) hnoted.2
  nodup _ hs := nodup_record hs references

/-- **An evaluation records nothing but references.** -/
theorem amends_evaluate (s : Sheet) (id : CellId) : s.Amends (s.evaluate id).2 :=
  amends_record (runPass_yields id).2

theorem amends_classify (s : Sheet) (id : CellId) : s.Amends (s.classify id).2 := by
  rw [classify]
  split
  · exact .refl s
  · split
    · exact amends_evaluate s id
    · exact .refl s

theorem amends_refresh (s : Sheet) (config : Config) (id : CellId) :
    s.Amends (s.refresh config id).2 :=
  (amends_classify s id).trans (amends_setValue _ id _)

/-! ## Commits and recalculations -/

theorem amends_run (config : Config) (w : Walk) (work : List CellId) :
    w.sheet.Amends (w.run config work).sheet :=
  Walk.run_of_steps (P := fun w' _ => w.sheet.Amends w'.sheet) (fun _ _ _ h _ => h)
    (fun w' id _ h _ => h.trans (amends_refresh w'.sheet config id)) (.refl w.sheet)

/-- **A commit is an amendment.** -/
theorem amends_commit (s : Sheet) (config : Config) (id : CellId) :
    s.Amends (s.commit config id).2 :=
  ((amends_removeDependent s id).trans (amends_refresh _ config id)).trans
    (amends_run config ((s.committed config id).startWalk id) _)

theorem amends_foldl_next (config : Config) : ∀ (order : List CellId) (sweep : Sweep),
    sweep.sheet.Amends (order.foldl (Sweep.next config) sweep).sheet
  | [], sweep => .refl sweep.sheet
  | id :: order, sweep =>
      (amends_refresh sweep.sheet config id).trans
        (amends_foldl_next config order (sweep.next config id))

theorem amends_settle (copies : List (CellId × CellId)) (rounds : Nat) (s : Sheet) :
    s.Amends (s.settle copies rounds) :=
  .of_dependentsOf_eq (bare_settle copies rounds s) fun source =>
    dependentsOf_settle copies source rounds s

/-- **A recalculation is an amendment of the sheet without dependents.** -/
theorem amends_recalculate (s : Sheet) (config : Config) :
    s.clearDependents.Amends (s.recalculate config).2 :=
  (amends_foldl_next config s.ids ⟨s.clearDependents, [], []⟩).trans (amends_settle _ _ _)

/-- A recalculation lists no dependent twice, whatever was listed before. -/
theorem nodup_dependentsOf_recalculate (s : Sheet) (config : Config) (source : CellId) :
    ((s.recalculate config).2.dependentsOf source).Nodup :=
  (amends_recalculate s config).nodup source (by simp)

end Sheet

end Spreadsheet
