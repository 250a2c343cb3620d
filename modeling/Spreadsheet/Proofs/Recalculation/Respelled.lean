import Spreadsheet.Proofs.Evaluation.Respelled
import Spreadsheet.Proofs.Recalculation.Bulk

/-!
# Proofs/Recalculation/Respelled — a change of spelling changes nothing that is shown

Two sheets that differ in the spelling of formulas are recalculated in step: an evaluation stores
the same value and records the same references in both (`Respells.refresh`), and so do a sweep
(`Respells.sweep`) and the rounds that settle the copies (`Respells.settle`).  What a user types
differently in a cell — another marker, more blanks, capitals, the other separator — therefore
changes nothing but the text of that cell (`recalculate_respelled`).
-/

namespace Spreadsheet

namespace Sheet

variable {s t : Sheet} {id : CellId} {config : Config}

namespace Respells

/-! ## Evaluating and sweeping -/

theorem classify (h : s.Respells t) (hs : s.Consistent) (id : CellId) :
    (t.classify id).1 = (s.classify id).1 := by
  rw [classify_eq, classify_eq]
  exact h.verdict hs id

theorem refresh (h : s.Respells t) (hs : s.Consistent) (config : Config) (id : CellId) :
    (t.refresh config id).1 = (s.refresh config id).1
      ∧ (s.refresh config id).2.Respells (t.refresh config id).2 := by
  rw [refresh_eq, refresh_eq, shown, shown, h.verdict hs, h.noted]
  exact ⟨rfl, (h.record _).setValue _ _⟩

end Respells

/-- Two sweeps in step. -/
structure Sweep.Respells (sweep sweep' : Sweep) : Prop where
  sheet : sweep.sheet.Respells sweep'.sheet
  copies : sweep'.copies = sweep.copies
  notices : sweep'.notices = sweep.notices

theorem Sweep.Respells.next {sweep sweep' : Sweep} (h : sweep.Respells sweep')
    (hs : sweep.sheet.Consistent) (config : Config) (id : CellId) :
    (sweep.next config id).Respells (sweep'.next config id) := by
  obtain ⟨hverdict, hsheet⟩ := h.sheet.refresh hs config id
  constructor
  case sheet => exact hsheet
  case copies =>
    show ((sweep'.sheet.refresh config id).1.outcome.source?.toList.map _) ++ sweep'.copies = _
    rw [hverdict, h.copies]
    rfl
  case notices =>
    show (sweep'.sheet.refresh config id).2.recoveryNotice id (sweep'.sheet.refresh config id).1
      ++ sweep'.notices = _
    rw [recoveryNotice, hverdict, hsheet.nameOf, h.notices]
    rfl

theorem Sweep.Respells.foldl (config : Config) : ∀ (order : List CellId) {sweep sweep' : Sweep},
    sweep.Respells sweep' → sweep.sheet.Consistent →
      (order.foldl (Sweep.next config) sweep).Respells (order.foldl (Sweep.next config) sweep')
  | [], _, _, h, _ => h
  | id :: order, sweep, _, h, hs =>
      foldl config order (h.next hs config id)
        (hs.of_bare_eq (bare_refresh sweep.sheet config id).symm)

namespace Respells

/-- **A sweep over sheets that differ in spelling goes in step.** -/
theorem sweep (h : s.Respells t) (hs : s.Consistent) (config : Config) (order : List CellId) :
    (s.sweep config order).Respells (t.sweep config order) :=
  Sweep.Respells.foldl config order ⟨h, rfl, rfl⟩ hs

/-! ## Settling -/

theorem settleOne (h : s.Respells t) (copy : CellId × CellId) :
    (s.settleOne copy).1.Respells (t.settleOne copy).1
      ∧ (t.settleOne copy).2 = (s.settleOne copy).2 := by
  rw [Sheet.settleOne, Sheet.settleOne]
  obtain ⟨hsc, htc⟩ | ⟨c, c', hsc, htc, hc⟩ := h.cells copy.2
  · rw [hsc, htc]
    exact ⟨h, rfl⟩
  obtain ⟨hsd, htd⟩ | ⟨d, d', hsd, htd, hd⟩ := h.cells copy.1
  · rw [hsc, htc, hsd, htd]
    exact ⟨h, rfl⟩
  · rw [hsc, htc, hsd, htd]
    dsimp only
    rw [hc.value, hd.value]
    split
    · exact ⟨h, rfl⟩
    · exact ⟨h.setValue _ _, rfl⟩

theorem settleRound : ∀ (copies : List (CellId × CellId)) {s t : Sheet}, s.Respells t →
    (s.settleRound copies).1.Respells (t.settleRound copies).1
      ∧ (t.settleRound copies).2 = (s.settleRound copies).2
  | [], _, _, h => ⟨h, rfl⟩
  | copy :: copies, _, _, h => by
      obtain ⟨hone, hchanged⟩ := h.settleOne copy
      obtain ⟨hround, hlater⟩ := settleRound copies hone
      rw [Sheet.settleRound, Sheet.settleRound]
      exact ⟨hround, congrArg₂ (· || ·) hchanged hlater⟩

/-- Sheets that differ in spelling are settled in step. -/
theorem settle (copies : List (CellId × CellId)) : ∀ (rounds : Nat) {s t : Sheet}, s.Respells t →
    (s.settle copies rounds).Respells (t.settle copies rounds)
  | 0, _, _, h => h
  | rounds + 1, _, _, h => by
      obtain ⟨hround, hchanged⟩ := h.settleRound copies
      rw [Sheet.settle, Sheet.settle]
      dsimp only
      rw [hchanged]
      split
      · exact settle copies rounds hround
      · exact hround

/-! ## Recalculating -/

/-- **Sheets that differ in spelling are recalculated alike**, with the same report. -/
theorem recalculateIn (h : s.Respells t) (hs : s.Consistent) (config : Config)
    (order : List CellId) : (t.recalculateIn config order).1 = (s.recalculateIn config order).1
      ∧ (s.recalculateIn config order).2.Respells (t.recalculateIn config order).2 := by
  have hswept := h.clearDependents.sweep (hs.of_bare_eq (bare_clearDependents s).symm) config order
  have hsettled : (s.recalculateIn config order).2.Respells (t.recalculateIn config order).2 := by
    rw [recalculateIn_snd, recalculateIn_snd, copiesIn, copiesIn, hswept.copies]
    exact settle _ _ hswept.sheet
  refine ⟨?_, hsettled⟩
  show Recalculation.mk (order.map (t.recalculateIn config order).2.update) _ = _
  have hupdate : (t.recalculateIn config order).2.update
      = (s.recalculateIn config order).2.update := by
    funext id
    rw [update, update, hsettled.nameOf, hsettled.valueOf]
  rw [hupdate, hswept.notices]
  rfl

/-- A text that is read alike may stand for another. -/
theorem modifyText (s : Sheet) {c : Cell} (hc : s.cell? id = some c) {text : String}
    (h : ReadAlike c.text text) : s.Respells (s.modifyCell id fun c => { c with text }) where
  grid := rfl
  size := (size_slots_modifyCell s id _).symm ▸ rfl
  cell j := by
    rw [cell?_modifyCell]
    split
    · rename_i hj
      subst hj
      rw [hc]
      exact .some ⟨rfl, rfl, h, rfl, rfl⟩
    · match s.cell? j with
      | none => exact .none
      | some c => exact .some (.refl c)

end Respells

/-- **Spelling never changes a result** — where a formula is entered again with more markers, more
blanks, other capitals or other separators, every cell has the outcome it had, and a recalculation
reports the same and leaves the same values and the same dependents. -/
theorem recalculate_respelled (s : Sheet) (hs : s.Consistent) (id : CellId) (c : Cell)
    (hc : s.cell? id = some c) (e : Expr) (hparse : parseFormula c.text = .ok e) (text : String)
    (h : Relation.ReflTransGen Respelled c.text.toList text.toList) :
    ∃ t, s.setText id text = .ok t
      ∧ (∀ j, (t.classify j).1 = (s.classify j).1)
      ∧ ∀ config, (t.recalculate config).1 = (s.recalculate config).1
        ∧ ∀ j, (t.recalculate config).2.valueOf j = (s.recalculate config).2.valueOf j
          ∧ (t.recalculate config).2.dependentsOf j = (s.recalculate config).2.dependentsOf j := by
  obtain ⟨e', hparse', hplain⟩ := exists_parseFormula_respelled hparse h
  have hrespells : s.Respells (s.modifyCell id fun c => { c with text }) :=
    .modifyText s hc (.inr ⟨e, e', hparse, hparse', hplain⟩)
  refine ⟨_, if_pos (isLive_iff.mpr ⟨c, hc⟩), hrespells.classify hs, fun config => ?_⟩
  obtain ⟨hreport, hsheet⟩ := hrespells.recalculateIn hs config s.ids
  exact ⟨hreport, fun j => ⟨hsheet.valueOf j, hsheet.dependentsOf j⟩⟩

/-- A sum is marked, capitalised, given a comma and spread out. -/
theorem recalculate_respelled_sum :
    let s := (blank 1 2).modifyCell ⟨1⟩ fun c => { c with text := "a1+1.5" }
    ∃ t, s.setText ⟨1⟩ "= A1+1,5" = .ok t ∧ ∀ config,
      (t.recalculate config).2.valueOf ⟨1⟩ = (s.recalculate config).2.valueOf ⟨1⟩ := by
  intro s
  have hs : s.Consistent := (consistent_blank 1 2).enterText _ _
  have hc : s.cell? ⟨1⟩ = some ⟨⟨1⟩, ⟨0, 1⟩, "a1+1.5", "", []⟩ := by decide +kernel
  have hparse : parseFormula "a1+1.5" = .ok (.binary .add (.reference "A1") (.number "1.5")) := by
    decide +kernel
  have hmarked : Respelled ['a', '1', '+', '1', '.', '5'] ['=', 'a', '1', '+', '1', '.', '5'] :=
    .mark _
  have hcapital : Respelled ['=', 'a', '1', '+', '1', '.', '5']
      ['=', 'A', '1', '+', '1', '.', '5'] :=
    @Respelled.recase ['='] ['a', '1'] ['A', '1'] _ "A1" (by decide +kernel) (by decide)
  have hcomma : Respelled ['=', 'A', '1', '+', '1', '.', '5'] ['=', 'A', '1', '+', '1', ',', '5'] :=
    @Respelled.separator ['=', 'A', '1', '+'] ['1'] ['5'] [] '.' ',' "1.5" (by decide +kernel)
      (by decide) (by decide)
  have hspread : Respelled ['=', 'A', '1', '+', '1', ',', '5']
      ['=', ' ', 'A', '1', '+', '1', ',', '5'] :=
    @Respelled.space ['='] _ [' '] (List.forall_mem_singleton.mpr (by decide)) (by decide +kernel)
  have h : Relation.ReflTransGen Respelled "a1+1.5".toList "= A1+1,5".toList := by
    simpa using (((Relation.ReflTransGen.single hmarked).tail hcapital).tail hcomma).tail hspread
  obtain ⟨t, ht, -, hsame⟩ := recalculate_respelled s hs ⟨1⟩ _ hc _ hparse _ h
  exact ⟨t, ht, fun config => ((hsame config).2 ⟨1⟩).1⟩

end Sheet

end Spreadsheet
