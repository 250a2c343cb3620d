import Spreadsheet.Proofs.Evaluation.Stored

/-!
# Proofs/Evaluation/Shown — what an evaluation stores

Evaluating a cell yields a verdict and the references to record (`refresh_eq`).  The verdict depends
on the text of the cell and on the value it evaluates to, and for a single reference without a value
also on what the cell it names shows (`Consistent.shown_congr`).
-/

namespace Spreadsheet

/-- An empty text is no formula. -/
theorem parseFormula_empty {e : Expr} : parseFormula "" ≠ .ok e := by
  simp [parseFormula, parse, scan, scanFrom, parseScan, readLexemes, ParseState.initial,
    ParseState.finish]

namespace Expr

theorem references_of_stripMarkers : ∀ e : Expr, e.stripMarkers.references = e.references
  | formula inner => references_of_stripMarkers inner
  | number _ | reference _ | unary .. | binary .. | call .. => rfl

theorem value_stripMarkers (read : String → Except EvalError Float) :
    ∀ e : Expr, e.stripMarkers.value read = e.value read
  | formula inner => value_stripMarkers read inner
  | number _ | reference _ | unary .. | binary .. | call .. => rfl

variable {e : Expr} {name : String}

theorem stripMarkers_of_singleReference? (h : e.singleReference? = some name) :
    e.stripMarkers = .reference name := by
  rw [singleReference?] at h
  split at h
  · rename_i heq
    cases h
    exact heq
  · simp at h

theorem references_of_singleReference? (h : e.singleReference? = some name) :
    e.references = [name] := by
  rw [← references_of_stripMarkers, stripMarkers_of_singleReference? h, references]

theorem value_of_singleReference? (h : e.singleReference? = some name)
    (read : String → Except EvalError Float) : e.value read = (read name).map .number := by
  rw [← value_stripMarkers, stripMarkers_of_singleReference? h, value]

end Expr

namespace Sheet

variable {s t : Sheet} {config : Config} {id source target : CellId}

/-! ## The parts of an evaluation -/

/-- The references an evaluation of a cell records. -/
def noted (s : Sheet) (id : CellId) : List (CellId × CellId) :=
  match s.text? id with
  | none => []
  | some text => if text = "" then [] else (s.runPass id).2.references

/-- The verdict on a cell. -/
def verdict (s : Sheet) (id : CellId) : Verdict :=
  match s.text? id with
  | none => ⟨.empty, none⟩
  | some text => if text = "" then ⟨.empty, none⟩ else s.judge text (s.plainEvaluate id)

/-- The cell whose value a cell shows, if that is another cell's. -/
def source? (s : Sheet) (id : CellId) : Option CellId := (s.verdict id).outcome.source?

/-- The value a cell should show. -/
def shown (s : Sheet) (config : Config) (id : CellId) : String :=
  (s.verdict id).outcome.render config

/-- Apart from dependents, recording changes no cell. -/
theorem map_cell?_record {α : Type} {g : Cell → α} (hg : ∀ id c, g (Cell.addDependent id c) = g c)
    (s : Sheet) (j : CellId) :
    ∀ references, ((s.record references).cell? j).map g = (s.cell? j).map g
  | [] => rfl
  | reference :: references => by
      rw [← map_cell?_record hg s j references]
      show (((s.record references).addDependent reference.1 reference.2).cell? j).map g = _
      rw [addDependent, cell?_modifyCell]
      split
      · rw [Option.map_map]
        exact Option.map_congr fun c _ => hg reference.2 c
      · rfl

/-- What a text without a value shows when it copies nothing. -/
def ownRecovery (text : String) : CellOutcome :=
  if looksLikeFormula text.toList || (parseFormula text).toOption.any (!·.isPrimitive) then
    .malformed
  else .literal text

theorem recover_eq (s : Sheet) (text : String) : s.recover text =
    match ((parseFormula text).toOption.bind Expr.singleReference?).bind fun name =>
      (s.cellNamed? name).map fun c => (c.id, c.value) with
    | some (source, value) => .passthrough source value
    | none => ownRecovery text := by
  unfold recover ownRecovery
  dsimp only
  cases (parseFormula text).toOption.bind Expr.singleReference? with
  | none => rfl
  | some name =>
    rw [Option.bind_some, Option.bind_some]
    cases s.cellNamed? name <;> rfl

theorem recover_congr (text : String)
    (h : ∀ name, (s.cellNamed? name).map (fun c => (c.id, c.value))
      = (t.cellNamed? name).map fun c => (c.id, c.value)) : s.recover text = t.recover text := by
  rw [recover_eq, recover_eq]
  simp only [h]

theorem judge_congr (text : String) (result : Except EvalError Evaluated)
    (h : s.recover text = t.recover text) : s.judge text result = t.judge text result := by
  simp only [judge]
  split <;> simp [h]

theorem judge_record (s : Sheet) (references : List (CellId × CellId)) (text : String)
    (result : Except EvalError Evaluated) :
    (s.record references).judge text result = s.judge text result := by
  refine judge_congr text result (recover_congr text fun name => ?_)
  have hlookup : (s.record references).lookup name = s.lookup name :=
    lookup_of_bare_eq (bare_record s references) name
  rw [cellNamed?, cellNamed?, hlookup]
  cases s.lookup name with
  | none => rfl
  | some id =>
    refine map_cell?_record (fun id c => ?_) s id references
    rw [Cell.addDependent]
    split <;> rfl

theorem classify_eq (s : Sheet) (id : CellId) :
    s.classify id = (s.verdict id, s.record (s.noted id)) := by
  rw [classify, verdict, noted, text?]
  cases hc : s.cell? id with
  | none => rfl
  | some c =>
    simp only [Option.map_some, Cell.hasText, bne_iff_ne]
    by_cases htext : c.text = ""
    · simp [htext, record]
    · simp only [htext, ne_eq, not_false_eq_true, ↓reduceIte]
      rw [← evaluate_fst]
      exact Prod.ext (judge_record s _ c.text _) rfl

/-- **An evaluation records references and stores a value.** -/
theorem refresh_eq (s : Sheet) (config : Config) (id : CellId) : s.refresh config id =
    (s.verdict id, (s.record (s.noted id)).setValue id (s.shown config id)) := by
  rw [refresh]
  rw [classify_eq]
  rfl

/-! ## What is recorded -/

theorem text?_of_formula? {e : Expr} (he : s.formula? id = some e) :
    ∃ text, s.text? id = some text ∧ text ≠ "" ∧ parseFormula text = .ok e := by
  obtain ⟨c, hc, hp⟩ := formula?_eq_some_iff.mp he
  exact ⟨c.text, by simp [text?, hc], fun h => parseFormula_empty (h ▸ hp), hp⟩

theorem noted_of_formula? {e : Expr} (he : s.formula? id = some e) :
    s.noted id = (s.runPass id).2.references := by
  obtain ⟨text, htext, hne, -⟩ := text?_of_formula? he
  simp [noted, htext, hne]

/-- Every reference that is recorded stands in a formula. -/
theorem refersTo_of_mem_noted (h : (source, target) ∈ s.noted id) : s.RefersTo target source := by
  rw [noted] at h
  split at h
  · simp at h
  · split at h
    · simp at h
    · exact (runPass_yields id).2 _ h

/-- Every cell read is recorded. -/
theorem mem_noted_of_reads (h : s.Reads id target) : (target, id) ∈ s.noted id := by
  have ⟨_, ⟨e, _, _, he, _⟩, _⟩ := h
  rw [noted_of_formula? he]
  exact mem_references_of_reads h

theorem noted_of_bare_eq (h : s.bare = t.bare) (id : CellId) : s.noted id = t.noted id := by
  rw [noted, noted, text?_of_bare_eq h, runPass_of_bare_eq h]

theorem mem_dependentsOf_refresh {j : CellId} : source ∈ (s.refresh config id).2.dependentsOf j ↔
    source ∈ s.dependentsOf j ∨ s.isLive j = true ∧ (j, source) ∈ s.noted id := by
  rw [refresh_eq, dependentsOf_setValue, mem_dependentsOf_record]

theorem valueOf_refresh_self (h : s.isLive id = true) :
    (s.refresh config id).2.valueOf id = s.shown config id := by
  rw [refresh_eq, valueOf_setValue_self (by rwa [isLive_record])]

theorem valueOf_refresh_of_ne {j : CellId} (h : j ≠ id) :
    (s.refresh config id).2.valueOf j = s.valueOf j := by
  rw [refresh_eq, valueOf_setValue_of_ne h, valueOf_record]

theorem Consistent.isLive_of_reads (hs : s.Consistent) (h : s.Reads id target) :
    s.isLive target = true := by
  obtain ⟨name, -, hlookup⟩ := h
  exact hs.isLive_of_lookup hlookup

/-! ## What is shown -/

/-- The cell that a text names, if it is a single reference. -/
def named? (s : Sheet) (text : String) : Option CellId :=
  ((parseFormula text).toOption.bind Expr.singleReference?).bind s.lookup

/-- **After a failure, a single reference copies the cell it names.** -/
theorem Consistent.recover_eq (hs : s.Consistent) (text : String) : s.recover text =
    match s.named? text with
    | some source => .passthrough source (s.valueOf source)
    | none => ownRecovery text := by
  rw [Sheet.recover_eq, named?]
  cases (parseFormula text).toOption.bind Expr.singleReference? with
  | none => rfl
  | some name =>
    simp only [Option.bind_some, cellNamed?]
    cases hlookup : s.lookup name with
    | none => rfl
    | some source =>
      obtain ⟨c, hc, hid⟩ := hs.cell?_of_lookup hlookup
      simp [hc, hid, valueOf]

theorem source?_ownRecovery (text : String) : (ownRecovery text).source? = none := by
  rw [ownRecovery]
  split <;> rfl

theorem Consistent.source?_recover (hs : s.Consistent) (text : String) :
    (s.recover text).source? = s.named? text := by
  rw [hs.recover_eq]
  cases s.named? text with
  | some source => rfl
  | none => exact source?_ownRecovery text

theorem Consistent.source?_judge (hs : s.Consistent) (text : String)
    (result : Except EvalError Evaluated) : (s.judge text result).outcome.source? =
      match result with
      | .ok _ => none
      | .error err => if err.isRecoverable then s.named? text else none := by
  cases result with
  | ok x =>
    simp only [judge]
    split <;> rfl
  | error err => cases err <;> first | rfl | exact hs.source?_recover text

theorem Consistent.outcome_judge_congr (hs : s.Consistent) (ht : t.Consistent) {text : String}
    {result : Except EvalError Evaluated}
    (hsource : (s.judge text result).outcome.source? = (t.judge text result).outcome.source?)
    (hvalue : ∀ source, (s.judge text result).outcome.source? = some source →
      s.valueOf source = t.valueOf source) :
    (s.judge text result).outcome = (t.judge text result).outcome := by
  have hrecover : (s.recover text).source? = (t.recover text).source? →
      (∀ source, (s.recover text).source? = some source → s.valueOf source = t.valueOf source) →
      s.recover text = t.recover text := by
    rw [hs.source?_recover, ht.source?_recover, hs.recover_eq, ht.recover_eq]
    rintro hnamed hvalue
    rw [← hnamed]
    cases hs : s.named? text with
    | none => rfl
    | some source => simp [hvalue source hs]
  cases result with
  | ok x => rfl
  | error err => cases err <;> first | rfl | exact hrecover hsource hvalue

/-- **A cell copies another when its formula is that single reference and has no value.** -/
theorem Consistent.source?_eq_some_iff (hs : s.Consistent) : s.source? id = some source ↔
    ∃ e name err, s.formula? id = some e ∧ e.singleReference? = some name
      ∧ s.lookup name = some source ∧ s.plainEvaluate id = .error err
      ∧ err.isRecoverable = true := by
  rw [source?, verdict]
  constructor
  · intro h
    split at h
    · cases h
    · rename_i text htext
      split at h
      · cases h
      · rw [hs.source?_judge] at h
        split at h
        · simp at h
        · rename_i err herr
          split at h
          · rename_i hrecoverable
            obtain ⟨name, hname, hlookup⟩ := Option.bind_eq_some_iff.mp h
            obtain ⟨e, he, hsingle⟩ := Option.bind_eq_some_iff.mp hname
            exact ⟨e, name, err, by rw [formula?_eq, htext]; exact he, hsingle, hlookup, herr,
              hrecoverable⟩
          · simp at h
  · rintro ⟨e, name, err, he, hsingle, hlookup, herr, hrecoverable⟩
    obtain ⟨text, htext, hne, hparse⟩ := text?_of_formula? he
    simp [htext, hne, hs.source?_judge, herr, hrecoverable, named?, hparse, Except.toOption,
      hsingle, hlookup]

/-- A cell that copies another shows what that one shows. -/
theorem Consistent.shown_of_source? (hs : s.Consistent) (h : s.source? id = some source) :
    s.shown config id = s.valueOf source := by
  obtain ⟨e, name, err, he, hsingle, hlookup, herr, hrecoverable⟩ := hs.source?_eq_some_iff.mp h
  obtain ⟨text, htext, hne, hparse⟩ := text?_of_formula? he
  have hnamed : s.named? text = some source := by
    simp [named?, hparse, Except.toOption, hsingle, hlookup]
  have hjudge : (s.judge text (.error err)).outcome = s.recover text := by
    cases err <;> first | rfl | cases hrecoverable
  rw [shown, verdict, htext]
  simp only [hne, if_false, herr, hjudge, hs.recover_eq, hnamed]
  rfl

/-- **The outcome of a cell depends on its text, its evaluation and the value it copies.** -/
theorem Consistent.outcome_congr (hs : s.Consistent) (ht : t.Consistent)
    (htext : s.text? id = t.text? id) (heval : s.plainEvaluate id = t.plainEvaluate id)
    (hsource : s.source? id = t.source? id)
    (hvalue : ∀ source, s.source? id = some source → s.valueOf source = t.valueOf source) :
    (s.verdict id).outcome = (t.verdict id).outcome := by
  simp only [source?, verdict] at hsource hvalue
  rw [verdict, verdict]
  rw [← htext, ← heval] at hsource ⊢
  split
  · rfl
  · rename_i text heq
    simp only [heq] at hsource hvalue
    split
    · rfl
    · rename_i hne
      simp only [hne, if_false] at hsource hvalue
      exact hs.outcome_judge_congr ht hsource hvalue

/-- What a cell shows depends on its text, its evaluation and the value it copies. -/
theorem Consistent.shown_congr (hs : s.Consistent) (ht : t.Consistent)
    (htext : s.text? id = t.text? id) (heval : s.plainEvaluate id = t.plainEvaluate id)
    (hsource : s.source? id = t.source? id)
    (hvalue : ∀ source, s.source? id = some source → s.valueOf source = t.valueOf source) :
    s.shown config id = t.shown config id :=
  congrArg (CellOutcome.render config) (hs.outcome_congr ht htext heval hsource hvalue)

end Sheet

end Spreadsheet
