import Spreadsheet.Proofs.Evaluation.Decided
import Spreadsheet.Proofs.Evaluation.Extension
import Spreadsheet.Proofs.Recalculation.Bulk

/-!
# Proofs/Recalculation/Wording — words for truth values stay where they belong

A copy takes over the text that another cell shows, so a word for a truth value might travel from
cell to cell.  It does not.  A cell that is copied fails in a way its text may cover, so it is a copy
itself, a broken formula or a plain text, and no truth value (`Consistent.recovered_source`).  So
every chain of copies starts at a broken formula or a plain text (`Consistent.exists_origin`), and
the words that a configuration gives are seen in the cells with a truth value alone
(`recalculate_wording`).
-/

namespace Spreadsheet

/-- Only truth values are worded by the configuration. -/
theorem CellOutcome.render_congr {outcome : CellOutcome} (config config' : Config)
    (h : ∀ holds, outcome ≠ .logical holds) : outcome.render config = outcome.render config' := by
  match outcome with
  | logical holds => exact absurd rfl (h holds)
  | empty | number _ | cycle _ | missing _ | passthrough .. | malformed | literal _ => rfl

/-- Whether an outcome is a truth value. -/
def CellOutcome.isLogical : CellOutcome → Bool
  | logical _ => true
  | _ => false

theorem CellOutcome.isLogical_iff {outcome : CellOutcome} :
    outcome.isLogical = true ↔ ∃ holds, outcome = .logical holds := by
  cases outcome <;> simp [isLogical]

theorem CellOutcome.source?_eq_some_iff {outcome : CellOutcome} {source : CellId} :
    outcome.source? = some source ↔ ∃ value, outcome = .passthrough source value := by
  cases outcome <;> simp [source?]

/-- The outcomes with a text that no evaluation yields. -/
def CellOutcome.IsPlain (outcome : CellOutcome) : Prop :=
  (∃ text, outcome = .literal text) ∨ outcome = .malformed

namespace Sheet

variable {s t : Sheet} {config : Config} {id source : CellId}

/-! ## What is copied -/

/-- Whether a cell shows the value of another. -/
def Copies (s : Sheet) (id source : CellId) : Prop :=
  ∃ value, (s.classify id).1.outcome = .passthrough source value

theorem copies_iff : s.Copies id source ↔ s.source? id = some source := by
  rw [Copies, classify_eq, source?, CellOutcome.source?_eq_some_iff]

/-- A cell that breaks has a text. -/
theorem Breaks.exists_text (hid : s.isLive id = true) (h : s.Breaks id) :
    ∃ text, s.text? id = some text ∧ text ≠ "" := by
  match h with
  | .text hnone hscalar =>
    obtain ⟨text, htext⟩ := Option.isSome_iff_exists.mp (isLive_iff_text?.mp hid)
    refine ⟨text, htext, ?_⟩
    rintro rfl
    rw [scalar?_eq, htext] at hscalar
    cases hscalar
  | .formula ⟨_, _, _, he, _⟩ _ _ =>
    obtain ⟨text, htext, hne, -⟩ := text?_of_formula? he
    exact ⟨text, htext, hne⟩

/-- **A cell that is copied is a copy itself, a broken formula or a plain text.** -/
theorem Consistent.recovered_source (hs : s.Consistent) (h : s.source? id = some source) :
    (∃ next, s.source? source = some next) ∨ (s.verdict source).outcome.IsPlain := by
  obtain ⟨_, _, _, _, _, _, hbreaks⟩ := hs.meets_of_source? h
  obtain ⟨text, htext, hne⟩ := hbreaks.exists_text (hs.isLive_source h)
  obtain ⟨err, herr, hrecoverable⟩ := hs.exists_plainEvaluate_source h
  have houtcome : (s.verdict source).outcome = s.recover text := by
    have hjudge := outcome_classify htext hne
    rw [classify_eq, herr] at hjudge
    match err, hrecoverable with
    | .malformed _, _ | .badLiteral _, _ => exact hjudge
  rw [source?, houtcome, hs.recover_eq]
  rcases s.named? text with _ | next
  · refine .inr ?_
    show (ownRecovery text).IsPlain
    rw [ownRecovery]
    split
    · exact .inr rfl
    · exact .inl ⟨text, rfl⟩
  · exact .inl ⟨next, rfl⟩

/-- **Every chain of copies starts at a broken formula or a plain text.** -/
theorem Consistent.exists_origin (hs : s.Consistent) (h : s.source? id = some source) :
    ∃ origin, Relation.TransGen s.Copies id origin ∧ (s.verdict origin).outcome.IsPlain := by
  have hacc := hs.acc_source id
  induction hacc generalizing source with
  | intro id _ ih =>
    have hcopies : s.Copies id source := copies_iff.mpr h
    rcases hs.recovered_source h with ⟨next, hnext⟩ | hplain
    · obtain ⟨origin, hchain, hplain⟩ := ih source h hnext
      exact ⟨origin, .head hcopies hchain, hplain⟩
    · exact ⟨source, .single hcopies, hplain⟩

/-- Along a chain of settled copies one value is shown. -/
theorem valueOf_of_copies (hs : s.Consistent)
    (hsettled : ∀ id, s.isLive id = true → s.valueOf id = s.shown config id) {origin : CellId}
    (h : Relation.TransGen s.Copies id origin) : s.valueOf id = s.valueOf origin := by
  have hstep : ∀ {id source : CellId}, s.Copies id source → s.valueOf id = s.valueOf source := by
    intro id source h
    rw [copies_iff] at h
    rw [hsettled id (hs.isLive_copy h), hs.shown_of_source? h]
  induction h with
  | single h => exact hstep h
  | tail _ h ih => exact ih.trans (hstep h)

/-! ## Two wordings -/

theorem Consistent.outcome_of_bare_eq (hs : s.Consistent) (h : s.bare = t.bare)
    (hvalue : ∀ source, s.source? id = some source → s.valueOf source = t.valueOf source) :
    (s.verdict id).outcome = (t.verdict id).outcome :=
  hs.outcome_congr (hs.of_bare_eq h) (text?_of_bare_eq h id) (plainEvaluate_of_bare_eq h id)
    (hs.source?_of_bare_eq h id) hvalue

/-- A truth value does not depend on what is stored. -/
theorem Consistent.logical_of_bare_eq (hs : s.Consistent) (h : s.bare = t.bare) {holds : Bool}
    (hlogical : (s.verdict id).outcome = .logical holds) :
    (t.verdict id).outcome = .logical holds := by
  rw [← hlogical, hs.outcome_of_bare_eq h]
  intro source hsource
  simp [source?, hlogical, CellOutcome.source?] at hsource

/-- A cell that is copied has no truth value. -/
theorem Consistent.ne_logical_of_source? (hs : s.Consistent) (h : s.source? id = some source)
    (holds : Bool) : (s.verdict source).outcome ≠ .logical holds := by
  intro hlogical
  rcases hs.recovered_source h with ⟨next, hnext⟩ | ⟨_, hplain⟩ | hplain
  · simp [source?, hlogical, CellOutcome.source?] at hnext
  · simp [hlogical] at hplain
  · simp [hlogical] at hplain

/-- **Two sheets that show what they should in different words show the same, truth values
apart.** -/
theorem Consistent.outcome_eq_of_worded (hs : s.Consistent) {config' : Config}
    (h : s.bare = t.bare)
    (hsettled : ∀ id, s.isLive id = true → s.valueOf id = s.shown config id)
    (hsettled' : ∀ id, t.isLive id = true → t.valueOf id = t.shown config' id) (id : CellId) :
    (s.verdict id).outcome = (t.verdict id).outcome
      ∧ ((∀ holds, (s.verdict id).outcome ≠ .logical holds) → s.valueOf id = t.valueOf id) := by
  have hacc := hs.acc_source id
  induction hacc with
  | intro id _ ih =>
    have houtcome : (s.verdict id).outcome = (t.verdict id).outcome :=
      hs.outcome_of_bare_eq h fun source hsource =>
        (ih source hsource).2 (hs.ne_logical_of_source? hsource)
    refine ⟨houtcome, fun hne => ?_⟩
    by_cases hid : s.isLive id = true
    · rw [hsettled id hid, hsettled' id (isLive_of_bare_eq h id ▸ hid), shown, shown, ← houtcome]
      exact CellOutcome.render_congr config config' hne
    · rw [Bool.not_eq_true] at hid
      rw [valueOf_of_not_isLive hid, valueOf_of_not_isLive (isLive_of_bare_eq h id ▸ hid)]

/-- **The words for truth values reach the cells with a truth value alone** — recalculated with two
wordings, a sheet shows the same in all other cells, a cell with a truth value shows the word for
it, and what a copy shows comes, along however many copies, from a broken formula or a plain
text. -/
theorem recalculate_wording (s : Sheet) (hs : s.Consistent) (config config' : Config)
    (id : CellId) :
    let t := (s.recalculate config).2
    let t' := (s.recalculate config').2
    (t.classify id).1.outcome = (t'.classify id).1.outcome
      ∧ (∀ holds, (t.classify id).1.outcome = .logical holds ↔
          (s.classify id).1.outcome = .logical holds)
      ∧ ((∀ holds, (t.classify id).1.outcome ≠ .logical holds) → t.valueOf id = t'.valueOf id)
      ∧ (∀ holds, (t.classify id).1.outcome = .logical holds →
          t.valueOf id = config.logicalToken holds ∧ t'.valueOf id = config'.logicalToken holds)
      ∧ ∀ source, t.Copies id source → ∃ origin, Relation.TransGen t.Copies id origin
          ∧ (t.classify origin).1.outcome.IsPlain ∧ t.valueOf id = t.valueOf origin := by
  intro t t'
  have hbare : t.bare = s.bare := bare_recalculateIn hs config s.ids
  have hbare' : t.bare = t'.bare := hbare.trans (bare_recalculateIn hs config' s.ids).symm
  have ht : t.Consistent := hs.of_bare_eq hbare.symm
  have hsettled : ∀ id, t.isLive id = true → t.valueOf id = t.shown config id := fun id hid =>
    (settled_recalculateIn hs hs.mem_ids (isLive_of_bare_eq hbare id ▸ hid)).valueOf_eq_shown
  have hsettled' : ∀ id, t'.isLive id = true → t'.valueOf id = t'.shown config' id :=
    fun id hid => (settled_recalculateIn hs hs.mem_ids
      (isLive_of_bare_eq (hbare'.symm.trans hbare) id ▸ hid)).valueOf_eq_shown
  obtain ⟨houtcome, hvalue⟩ := ht.outcome_eq_of_worded hbare' hsettled hsettled' id
  simp only [classify_eq]
  refine ⟨houtcome, fun holds => ⟨ht.logical_of_bare_eq hbare, hs.logical_of_bare_eq hbare.symm⟩,
    hvalue, fun holds hlogical => ?_, fun source hcopies => ?_⟩
  · have hid : t.isLive id = true := by
      by_contra hdead
      rw [Bool.not_eq_true] at hdead
      have hnone : t.text? id = none := by
        rw [← Option.not_isSome_iff_eq_none, ← isLive_iff_text?, hdead]
        decide
      rw [verdict, hnone] at hlogical
      cases hlogical
    rw [hsettled id hid, hsettled' id (isLive_of_bare_eq hbare' id ▸ hid), shown, shown,
      ← houtcome, hlogical]
    exact ⟨rfl, rfl⟩
  · obtain ⟨origin, hchain, hplain⟩ := ht.exists_origin (copies_iff.mp hcopies)
    exact ⟨origin, hchain, hplain, valueOf_of_copies ht hsettled hchain⟩

/-- A comparison is shown in either language, and a copy of a plain text as that text. -/
theorem recalculate_wording_ukrainian :
    let s := (((blank 1 3).modifyCell ⟨0⟩ fun c => { c with text := "1<2" }).modifyCell ⟨1⟩
      fun c => { c with text := "=C1" }).modifyCell ⟨2⟩ fun c => { c with text := "plain" }
    (∃ holds, (s.recalculate {}).2.valueOf ⟨0⟩ = Config.logicalToken {} holds
        ∧ (s.recalculate .ukrainian).2.valueOf ⟨0⟩ = Config.ukrainian.logicalToken holds)
      ∧ (s.recalculate {}).2.valueOf ⟨1⟩ = (s.recalculate .ukrainian).2.valueOf ⟨1⟩ := by
  intro s
  have hs : s.Consistent := (((consistent_blank 1 3).enterText _ _).enterText _ _).enterText _ _
  obtain ⟨-, hsame, -, hword, -⟩ := recalculate_wording s hs {} .ukrainian ⟨0⟩
  obtain ⟨-, hsame', hvalue, -, -⟩ := recalculate_wording s hs {} .ukrainian ⟨1⟩
  constructor
  · have hlogical : (s.classify ⟨0⟩).1.outcome.isLogical = true := by decide +kernel
    obtain ⟨holds, hholds⟩ := CellOutcome.isLogical_iff.mp hlogical
    exact ⟨holds, hword holds ((hsame holds).mpr hholds)⟩
  · refine hvalue fun holds hlogical => ?_
    have hnot : (s.classify ⟨1⟩).1.outcome.isLogical = false := by decide +kernel
    rw [(hsame' holds).mp hlogical] at hnot
    cases hnot

end Sheet

end Spreadsheet
