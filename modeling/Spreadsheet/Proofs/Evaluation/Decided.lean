import Spreadsheet.Proofs.Evaluation.Copies
import Spreadsheet.Proofs.Evaluation.Success

/-!
# Proofs/Evaluation/Decided — text and evaluation decide what a cell shows

The tests by which an outcome is found overlap: a text may look like a formula, be one, and be a
single reference at once.  What is found is a partition all the same.  A formula that fails in a way
its text may cover is no number, and if it is a single reference, that reference leads to a cell
(`Consistent.recover_of_formula`).  So behind such a failure only single references copy, all other
formulas show the code for a broken one, and what is left are texts that are no formulas
(`decided_classify`).
-/

namespace Spreadsheet

open Text

/-- A result that is carried over was there before. -/
theorem exists_of_map_eq_ok {α β : Type} {f : α → β} {r : Except EvalError α} {y : β}
    (h : r.map f = .ok y) : ∃ x, r = .ok x ∧ f x = y := by
  match r, h with
  | .ok x, rfl => exact ⟨x, rfl, rfl⟩

namespace Expr

/-! ## Truth values -/

/-- Whether the outermost operation behind the markers is a comparison or `not`. -/
def yieldsTruth (e : Expr) : Bool :=
  match e.stripMarkers with
  | binary .equal .. | binary .less .. | binary .greater .. | call .not _ => true
  | _ => false

/-- **A value is marked as a truth value exactly when the outermost operation yields one.** -/
theorem logical_of_value {read : String → Except EvalError Float} {y : Evaluated} :
    ∀ {e : Expr}, e.value read = .ok y → y.logical = e.yieldsTruth
  | formula inner, h => logical_of_value (e := inner) h
  | number _, h | reference _, h | unary _ _, h => by
      obtain ⟨x, -, rfl⟩ := exists_of_map_eq_ok h
      rfl
  | call f _, h => by
      obtain ⟨x, -, rfl⟩ := exists_of_map_eq_ok h
      cases f <;> rfl
  | binary op left right, h => by
      rw [value] at h
      split at h
      · simp at h
      · obtain ⟨x, -, rfl⟩ := exists_of_map_eq_ok h
        cases op <;> rfl

/-- A formula that is a single number or reference and fails is a reference. -/
theorem isPrimitive_eq_false {read : String → Except EvalError Float} {e : Expr} {err : EvalError}
    (he : e.Readable) (herr : e.value read = .error err) (hsingle : e.singleReference? = none) :
    e.isPrimitive = false := by
  match e with
  | number text =>
    obtain ⟨_, _, _, hrefs, -⟩ := (value_eq_error_iff he).mp herr
    simp [references] at hrefs
  | reference name => cases hsingle
  | unary _ _ | binary _ _ _ | call _ _ | formula _ => rfl

end Expr

namespace Sheet

variable {s : Sheet} {id : CellId} {text : String} {e : Expr} {err : EvalError}

/-! ## Behind a failure -/

/-- **What a formula shows that has no value** — the value of the cell it names if it is a single
reference, and the code for a broken formula if it is anything else. -/
theorem Consistent.recover_of_formula (hs : s.Consistent) (htext : s.text? id = some text)
    (hparse : parseFormula text = .ok e) (herr : s.plainEvaluate id = .error err)
    (hrecoverable : err.isRecoverable = true) :
    (∃ name source, e.singleReference? = some name ∧ s.lookup name = some source
        ∧ s.recover text = .passthrough source (s.valueOf source))
      ∨ e.singleReference? = none ∧ s.recover text = .malformed := by
  have he : s.formula? id = some e := by simp [formula?_eq, htext, hparse, Except.toOption]
  have hnamed : s.named? text = e.singleReference?.bind s.lookup := by
    simp [named?, hparse, Except.toOption]
  rw [plainEvaluate, plainText_of_formula? he] at herr
  rcases hsingle : e.singleReference? with _ | name
  · have hcomplex := Expr.isPrimitive_eq_false (readable_of_parse hparse) herr hsingle
    refine .inr ⟨rfl, ?_⟩
    rw [hs.recover_eq, hnamed, hsingle]
    simp [ownRecovery, hparse, Except.toOption, hcomplex]
  · rcases hlookup : s.lookup name with _ | source
    · -- A name that leads nowhere is a failure that no text covers.
      rw [Expr.value_of_singleReference? hsingle, plainReference_of_lookup_none hlookup] at herr
      cases herr
      cases hrecoverable
    · refine .inl ⟨name, source, rfl, hlookup, ?_⟩
      rw [hs.recover_eq, hnamed, hsingle, Option.bind_some, hlookup]

/-- A text that is no formula is shown as it is, unless it begins like one. -/
theorem Consistent.recover_of_not_formula (hs : s.Consistent) {fault : SyntaxError}
    (hparse : parseFormula text = .error fault) : s.recover text =
      if looksLikeFormula text.toList then .malformed else .literal text := by
  rw [hs.recover_eq]
  simp [named?, ownRecovery, hparse, Except.toOption]

/-- **A text that is no formula is what its cell should show**, unless it begins like one. -/
theorem Consistent.shown_of_not_formula (hs : s.Consistent) (htext : s.text? id = some text)
    (hne : text ≠ "") {fault : SyntaxError} (hparse : parseFormula text = .error fault)
    (config : Config) :
    s.shown config id = if looksLikeFormula text.toList then malformedCode else text := by
  obtain ⟨c, hc, rfl⟩ := Option.map_eq_some_iff.mp htext
  have hfails : s.plainEvaluate id = .error (.malformed fault) := by
    rw [plainEvaluate, plainText, hc]
    dsimp only
    rw [hparse]
  rw [shown, verdict, htext]
  dsimp only
  rw [if_neg hne, hfails]
  show (s.recover c.text).render config = _
  rw [hs.recover_of_not_formula hparse]
  split <;> rfl

/-- The texts that begin, blanks and case apart, like a formula. -/
def BeginsLikeFormula (text : String) : Prop :=
  ∃ opening ∈ ["=", "not", "inc", "dec"], opening.toList <+: lower (trim text.toList)

theorem looksLikeFormula_iff : looksLikeFormula text.toList = true ↔ BeginsLikeFormula text := by
  simp [looksLikeFormula, formulaOpenings, BeginsLikeFormula]

/-! ## What a cell shows -/

/-- What a cell shows behind a failure that its text may cover. -/
structure Recovered (s : Sheet) (id : CellId) (text : String) (outcome : CellOutcome) : Prop where
  /-- Only a formula that is a single reference copies. -/
  passthrough_iff : (∃ source value, outcome = .passthrough source value) ↔
    ∃ e, parseFormula text = .ok e ∧ ∃ name, e.singleReference? = some name
  /-- What is copied is the value that the named cell shows, which is another one. -/
  copied : ∀ source value, outcome = .passthrough source value →
    s.named? text = some source ∧ s.isLive source = true ∧ source ≠ id ∧ value = s.valueOf source
  malformed_iff : outcome = .malformed ↔
    (∃ e, parseFormula text = .ok e ∧ e.singleReference? = none)
      ∨ (∃ fault, parseFormula text = .error fault) ∧ BeginsLikeFormula text
  /-- What is shown as it was typed is the text itself. -/
  literal_iff : ∀ shown, outcome = .literal shown ↔
    shown = text ∧ (∃ fault, parseFormula text = .error fault) ∧ ¬ BeginsLikeFormula text

/-- What a cell shows, by its text and what it evaluates to. -/
def Decided (s : Sheet) (id : CellId) (text : String) :
    Except EvalError Evaluated → CellOutcome → Prop
  | .ok x, outcome => ∃ e, parseFormula text = .ok e
      ∧ outcome = if e.yieldsTruth then .logical (x.value != 0) else .number x.value
  | .error (.cycle name), outcome => outcome = .cycle name
  | .error (.missing name), outcome => outcome = .missing name
  | .error (.malformed _), outcome | .error (.badLiteral _), outcome => s.Recovered id text outcome

/-- The outcome for a cell with a text. -/
theorem outcome_classify (htext : s.text? id = some text) (hne : text ≠ "") :
    (s.classify id).1.outcome = (s.judge text (s.plainEvaluate id)).outcome := by
  rw [classify_eq, verdict, htext]
  simp only [hne, if_false]

/-- **Behind a failure that the text may cover, copies, broken formulas and plain texts are told
apart by the text.** -/
theorem Consistent.recovered (hs : s.Consistent) (htext : s.text? id = some text)
    (herr : s.plainEvaluate id = .error err) (hrecoverable : err.isRecoverable = true) :
    s.Recovered id text (s.recover text) := by
  match hparse : parseFormula text with
  | .error fault =>
    rw [hs.recover_of_not_formula hparse]
    by_cases hbegins : looksLikeFormula text.toList = true
    · rw [if_pos hbegins]
      have hbegins := looksLikeFormula_iff.mp hbegins
      exact ⟨by simp [hparse], by simp, by simp [hparse, hbegins], by simp [hbegins]⟩
    · rw [if_neg hbegins]
      have hbegins := mt looksLikeFormula_iff.mpr hbegins
      exact ⟨by simp [hparse], by simp, by simp [hparse, hbegins],
        by simp [hparse, hbegins, eq_comm]⟩
  | .ok e =>
    have he : s.formula? id = some e := by simp [formula?_eq, htext, hparse, Except.toOption]
    rcases hs.recover_of_formula htext hparse herr hrecoverable with
      ⟨name, source, hsingle, hlookup, hrecover⟩ | ⟨hsingle, hrecover⟩
    · have hsource : s.source? id = some source :=
        hs.source?_eq_some_iff.mpr ⟨e, name, err, he, hsingle, hlookup, herr, hrecoverable⟩
      rw [hrecover]
      refine ⟨by simp [hparse, hsingle], ?_, by simp [hparse, hsingle], by simp [hparse]⟩
      rintro _ _ ⟨⟩
      exact ⟨by simp [named?, hparse, Except.toOption, hsingle, hlookup], hs.isLive_source hsource,
        hs.ne_of_source? hsource, rfl⟩
    · rw [hrecover]
      exact ⟨by simp [hparse, hsingle], by simp, by simp [hparse, hsingle], by simp [hparse]⟩

/-- A formula that fails is never shown as it was typed. -/
theorem Recovered.ne_literal {outcome : CellOutcome} (h : s.Recovered id text outcome)
    (hparse : parseFormula text = .ok e) (shown : String) : outcome ≠ .literal shown := by
  intro hliteral
  obtain ⟨-, ⟨fault, hfault⟩, -⟩ := (h.literal_iff shown).mp hliteral
  cases hparse.symm.trans hfault

/-- **Text and evaluation decide what a cell shows**, and a formula is never shown as it was
typed. -/
theorem decided_classify (s : Sheet) (hs : s.Consistent) (id : CellId) (c : Cell)
    (hc : s.cell? id = some c) (hne : c.text ≠ "") :
    s.Decided id c.text (s.evaluate id).1 (s.classify id).1.outcome
      ∧ ∀ e, parseFormula c.text = .ok e →
        ∀ shown, (s.classify id).1.outcome ≠ .literal shown := by
  have htext := text?_of_cell? hc
  rw [evaluate_fst, outcome_classify htext hne]
  match heval : s.plainEvaluate id with
  | .ok x =>
    obtain ⟨⟨e, he⟩, -⟩ := exists_plainEvaluate_iff.mp ⟨x, heval⟩
    obtain ⟨c', hc', hparse⟩ := formula?_eq_some_iff.mp he
    obtain rfl := Option.some.inj (hc.symm.trans hc')
    rw [plainEvaluate, plainText_of_formula? he] at heval
    refine ⟨⟨e, hparse, ?_⟩, fun _ _ shown => ?_⟩
    · rw [← Expr.logical_of_value heval]
      rfl
    · show (if x.logical then CellOutcome.logical _ else .number _) ≠ .literal shown
      split <;> simp
  | .error (.cycle name) => exact ⟨rfl, by simp [judge]⟩
  | .error (.missing name) => exact ⟨rfl, by simp [judge]⟩
  | .error (.malformed fault) =>
    have h := hs.recovered htext heval rfl
    exact ⟨h, fun e hparse => h.ne_literal hparse⟩
  | .error (.badLiteral number) =>
    have h := hs.recovered htext heval rfl
    exact ⟨h, fun e hparse => h.ne_literal hparse⟩

/-- A marked reference to a plain text shows that text. -/
theorem decided_classify_copy :
    let s := ((blank 1 2).modifyCell ⟨0⟩ fun c => { c with text := "=b1" }).modifyCell ⟨1⟩
      fun c => { c with text := "hello", value := "hello" }
    s.Decided ⟨0⟩ "=b1" (s.evaluate ⟨0⟩).1 (s.classify ⟨0⟩).1.outcome
      ∧ ∃ source, (s.classify ⟨0⟩).1.outcome = .passthrough source (s.valueOf source) := by
  intro s
  have hs : s.Consistent :=
    ((consistent_blank 1 2).enterText _ _).modifyCell _ fun _ => ⟨rfl, rfl⟩
  have hc : s.cell? ⟨0⟩ = some ⟨⟨0⟩, ⟨0, 0⟩, "=b1", "", []⟩ := by decide +kernel
  have hfails : failure? (s.evaluate ⟨0⟩).1
      = some (.malformed ⟨"Unknown identifier: hello", 0⟩) := by decide +kernel
  have heval := failure?_eq_some_iff.mp hfails
  have hparse : parseFormula "=b1" = .ok (.formula (.reference "B1")) := by decide +kernel
  have hdecided := (decided_classify s hs ⟨0⟩ _ hc (by decide)).1
  refine ⟨hdecided, ?_⟩
  rw [heval] at hdecided
  obtain ⟨source, value, houtcome⟩ := hdecided.passthrough_iff.mpr ⟨_, hparse, "B1", rfl⟩
  obtain ⟨-, -, -, rfl⟩ := hdecided.copied source value houtcome
  exact ⟨source, houtcome⟩

end Sheet

end Spreadsheet
