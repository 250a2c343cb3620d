import Spreadsheet.Proofs.Recalculation.Coherence
import Spreadsheet.Proofs.Sheet.Indices

/-!
# Proofs/Recalculation/Alike — sheets with the same texts show the same

Ids say in which order cells were made, so two sheets with the same texts may know the cells at a
position by different ids.  Nothing that is shown depends on that: a name leads to the same position
in both sheets, a cell comes back to itself in one where its twin does in the other, and so the cells
at one position evaluate alike (`Alike.plainEvaluate_eq`).  Where nothing is pending they show the same
(`Alike.valueOf_eq`).
-/

namespace Spreadsheet

namespace Sheet

variable {s t : Sheet} {config : Config} {i j k l : CellId} {name : String} {p : Position}

/-! ## The cells at one position -/

/-- Two consistent sheets with the same text at every position. -/
structure Alike (s t : Sheet) : Prop where
  left : s.Consistent
  right : t.Consistent
  text : ∀ p, s.textAt? p = t.textAt? p

/-- The ids at one position. -/
def Twins (s t : Sheet) (i j : CellId) : Prop := ∃ p, s.idAt p = some i ∧ t.idAt p = some j

theorem Alike.symm (h : s.Alike t) : t.Alike s := ⟨h.right, h.left, fun p => (h.text p).symm⟩

theorem Twins.symm (h : s.Twins t i j) : t.Twins s j i := h.imp fun _ => And.symm

theorem text?_of_idAt (h : s.idAt p = some i) : s.text? i = s.textAt? p := by
  rw [textAt?, cellAt, h]
  rfl

theorem textAt?_of_bare_eq (h : s.bare = t.bare) (p : Position) : s.textAt? p = t.textAt? p := by
  have hid : s.idAt p = t.idAt p := by rw [idAt, idAt, grid_of_bare_eq h]
  cases hi : s.idAt p with
  | none => simp [textAt?, cellAt, ← hid, hi]
  | some i => rw [← text?_of_idAt hi, ← text?_of_idAt (hid ▸ hi), text?_of_bare_eq h]

theorem Alike.text?_eq (h : s.Alike t) (hij : s.Twins t i j) : s.text? i = t.text? j := by
  obtain ⟨p, hi, hj⟩ := hij
  rw [text?_of_idAt hi, text?_of_idAt hj, h.text p]

/-- **The twins of one cell are one cell.** -/
theorem Alike.eq_iff (h : s.Alike t) (hij : s.Twins t i j) (hkl : s.Twins t k l) :
    i = k ↔ j = l := by
  obtain ⟨p, hi, hj⟩ := hij
  obtain ⟨q, hk, hl⟩ := hkl
  constructor
  · rintro rfl
    rw [h.left.idAt_injective hi hk] at hj
    exact Option.some.inj (hj.symm.trans hl)
  · rintro rfl
    rw [h.right.idAt_injective hj hl] at hi
    exact Option.some.inj (hi.symm.trans hk)

theorem Alike.isLive_left (h : s.Alike t) (hij : s.Twins t i j) : s.isLive i = true := by
  obtain ⟨p, hi, -⟩ := hij
  exact h.left.isLive_of_idAt hi

theorem Alike.exists_idAt (h : s.Alike t) (hi : s.idAt p = some i) : ∃ j, t.idAt p = some j := by
  obtain ⟨c, hc, -⟩ := h.left.cell?_of_idAt hi
  have htext : t.textAt? p = some c.text := by
    rw [← h.text, ← text?_of_idAt hi, text?, hc]
    rfl
  obtain ⟨d, hd, -⟩ := Option.map_eq_some_iff.mp htext
  obtain ⟨j, hj, -⟩ := Option.bind_eq_some_iff.mp hd
  exact ⟨j, hj⟩

/-- A name leads to twins. -/
theorem Alike.exists_lookup (h : s.Alike t) (hi : s.lookup name = some i) :
    ∃ j, t.lookup name = some j ∧ s.Twins t i j := by
  rw [lookup] at hi
  split at hi
  · rename_i p hp
    split at hi
    · rename_i hname
      obtain ⟨j, hj⟩ := h.exists_idAt hi
      exact ⟨j, by rw [lookup, hp]; exact (if_pos hname).trans hj, p, hi, hj⟩
    · cases hi
  · cases hi

theorem Alike.lookup_eq_none (h : s.Alike t) (hname : s.lookup name = none) :
    t.lookup name = none := by
  by_contra hne
  obtain ⟨j, hj⟩ := Option.ne_none_iff_exists'.mp hne
  obtain ⟨i, hi, -⟩ := h.symm.exists_lookup hj
  rw [hname] at hi
  cases hi

/-! ## Evaluation -/

theorem Alike.formula?_eq (h : s.Alike t) (hij : s.Twins t i j) : s.formula? i = t.formula? j := by
  rw [Sheet.formula?_eq, Sheet.formula?_eq, h.text?_eq hij]

theorem Alike.referenceValue_eq (h : s.Alike t) (hij : s.Twins t i j)
    (result : Except EvalError Evaluated) :
    s.referenceValue i result = t.referenceValue j result := by
  cases result with
  | ok x => rfl
  | error err =>
    rw [referenceValue_error, referenceValue_error, scalar?_eq, scalar?_eq, h.text?_eq hij]

theorem Alike.plainText_eq (h : s.Alike t) (hij : s.Twins t i j)
    (read : String → Except EvalError Float) : s.plainText read i = t.plainText read j := by
  have htext := h.text?_eq hij
  obtain ⟨p, hi, -⟩ := hij
  obtain ⟨c, hc, -⟩ := h.left.cell?_of_idAt hi
  have hsome := text?_of_cell? hc
  rw [Sheet.plainText_eq, Sheet.plainText_eq, ← htext, hsome]

/-- **A reference reads the same in both sheets**, if it was reached through twins. -/
theorem Alike.plainReference_eq (h : s.Alike t) {path : List CellId} :
    ∀ {path' : List CellId}, (∀ i j, s.Twins t i j → (i ∈ path ↔ j ∈ path')) →
      s.plainReference path name = t.plainReference path' name := by
  -- The induction is on the walk in `s`; the path in `t` only has to hold the same twins.
  induction path, name using plainReference.induct s with
  | case1 path name hnone =>
    intro path' _
    rw [plainReference_of_lookup_none hnone, plainReference_of_lookup_none (h.lookup_eq_none hnone)]
  | case2 path name target hlookup hmem =>
    intro path' hpath
    obtain ⟨target', hlookup', htwins⟩ := h.exists_lookup hlookup
    rw [plainReference_of_lookup hlookup, plainReference_of_lookup hlookup', if_pos hmem,
      if_pos ((hpath _ _ htwins).mp hmem)]
  | case3 path name target hlookup hmem ih =>
    intro path' hpath
    obtain ⟨target', hlookup', htwins⟩ := h.exists_lookup hlookup
    have hread : s.plainReference (target :: path) = t.plainReference (target' :: path') :=
      funext fun inner => ih inner fun i j hij => by
        rw [List.mem_cons, List.mem_cons, h.eq_iff hij htwins, hpath i j hij]
    rw [plainReference_of_lookup hlookup, plainReference_of_lookup hlookup', if_neg hmem,
      if_neg (mt (hpath _ _ htwins).mpr hmem), hread, h.plainText_eq htwins,
      h.referenceValue_eq htwins]

/-- **The cells at one position evaluate alike.** -/
theorem Alike.plainEvaluate_eq (h : s.Alike t) (hij : s.Twins t i j) :
    s.plainEvaluate i = t.plainEvaluate j := by
  have hread : s.plainReference [i] = t.plainReference [j] := funext fun name =>
    h.plainReference_eq fun k l hkl => by
      rw [List.mem_singleton, List.mem_singleton, h.eq_iff hkl hij]
  rw [plainEvaluate, plainEvaluate, hread, h.plainText_eq hij]

/-! ## What is shown -/

/-- Twins copy twins. -/
theorem Alike.exists_source (h : s.Alike t) (hij : s.Twins t i j) (hk : s.source? i = some k) :
    ∃ l, t.source? j = some l ∧ s.Twins t k l := by
  obtain ⟨e, name, err, he, hsingle, hlookup, herr, hrecoverable⟩ :=
    h.left.source?_eq_some_iff.mp hk
  obtain ⟨l, hl, hkl⟩ := h.exists_lookup hlookup
  exact ⟨l, h.right.source?_eq_some_iff.mpr ⟨e, name, err, h.formula?_eq hij ▸ he, hsingle, hl,
    h.plainEvaluate_eq hij ▸ herr, hrecoverable⟩, hkl⟩

theorem Alike.source?_eq_none (h : s.Alike t) (hij : s.Twins t i j) (hnone : s.source? i = none) :
    t.source? j = none := by
  by_contra hne
  obtain ⟨l, hl⟩ := Option.ne_none_iff_exists'.mp hne
  obtain ⟨k, hk, -⟩ := h.symm.exists_source hij.symm hl
  rw [hnone] at hk
  cases hk

/-- **Twins should show the same, if what they copy shows the same.** -/
theorem Alike.shown_eq (h : s.Alike t) (hij : s.Twins t i j)
    (hvalue : ∀ k l, s.source? i = some k → s.Twins t k l → s.valueOf k = t.valueOf l) :
    s.shown config i = t.shown config j := by
  cases hk : s.source? i with
  | some k =>
    obtain ⟨l, hl, hkl⟩ := h.exists_source hij hk
    rw [h.left.shown_of_source? hk, h.right.shown_of_source? hl, hvalue k l hk hkl]
  | none =>
    -- Only a copy shows a value that is stored, so all else is read off the text and its evaluation.
    have hl := h.source?_eq_none hij hk
    rw [source?, verdict] at hk hl
    rw [shown, shown, verdict, verdict]
    rw [← h.text?_eq hij, ← h.plainEvaluate_eq hij] at hl ⊢
    refine congrArg (CellOutcome.render config) ?_
    split
    · rfl
    · rename_i text htext
      simp only [htext] at hk hl
      split
      · rfl
      · rename_i hne
        simp only [hne, if_false] at hk hl
        refine h.left.outcome_judge_congr h.right (hk.trans hl.symm) fun source hsource => ?_
        rw [hk] at hsource
        cases hsource

/-- **Where nothing is pending, the cells at one position show the same.** -/
theorem Alike.valueOf_eq (h : s.Alike t) (hs : s.Coherent config []) (ht : t.Coherent config [])
    (hij : s.Twins t i j) : s.valueOf i = t.valueOf j := by
  have hsettled : s.Settled config i := hs.settled (h.isLive_left hij)
  induction hsettled generalizing j with
  | intro hshown _ ih =>
    rw [hshown, (ht.settled (h.symm.isLive_left hij.symm)).valueOf_eq_shown]
    exact h.shown_eq hij fun k l hk hkl => ih k hk hkl

end Sheet

end Spreadsheet
