import Spreadsheet.Proofs.Evaluation.Copies

/-!
# Proofs/Evaluation/Extension — more cells disturb only missing references

A sheet extends another when it has all its texts and all its names.  An evaluation goes the same
way on both until it comes to a name that the smaller sheet lacks.  So a cell evaluates to the same
on both sheets, unless on the smaller one a name is missing (`Extends.plainEvaluate`), and it copies
the same cell (`Extends.source?`), whose evaluation misses no name either
(`Consistent.exists_plainEvaluate_source`).
-/

namespace Spreadsheet

namespace EvalError

/-- A reference leads back. -/
def IsCycle (err : EvalError) : Prop := ∃ name, err = .cycle name

/-- A reference leads nowhere. -/
def IsMissing (err : EvalError) : Prop := ∃ name, err = .missing name

theorem IsCycle.isRecoverable {err : EvalError} : err.IsCycle → err.isRecoverable = false := by
  rintro ⟨_, rfl⟩
  rfl

theorem IsMissing.isRecoverable {err : EvalError} : err.IsMissing → err.isRecoverable = false := by
  rintro ⟨_, rfl⟩
  rfl

end EvalError

/-! ## Results that are kept -/

variable {lost : EvalError → Prop}

/-- The second result is the first, unless the first is one of the given failures. -/
def KeptUnless {α : Type} (lost : EvalError → Prop) (r r' : Except EvalError α) : Prop :=
  r' = r ∨ ∃ err, r = .error err ∧ lost err

/-- **A formula has the same value when its references have** — a reference that reads differently
fails, and with the failure of the first such reference the formula fails too. -/
theorem Expr.value_kept {read read' : String → Except EvalError Float} {e : Expr}
    (he : e.Readable) (h : ∀ name, KeptUnless lost (read name) (read' name)) :
    KeptUnless lost (e.value read) (e.value read') := by
  by_cases hlost : ∃ err, e.value read = .error err ∧ lost err
  · exact .inr hlost
  · refine .inl (Expr.value_congr he fun earlier name later hrefs hearlier => ?_).symm
    rcases h name with heq | ⟨err, herr, hl⟩
    · exact heq.symm
    · have hfails : e.value read = .error err :=
        (Expr.value_eq_error_iff he).mpr ⟨earlier, name, later, hrefs, hearlier, herr⟩
      exact absurd ⟨err, hfails, hl⟩ hlost

namespace Sheet

variable {s t u : Sheet} {config : Config} {id source : CellId}

theorem plainText_kept {read read' : String → Except EvalError Float}
    (htext : t.text? id = s.text? id) (h : ∀ name, KeptUnless lost (read name) (read' name)) :
    KeptUnless lost (s.plainText read id) (t.plainText read' id) := by
  rw [plainText_eq, plainText_eq, htext]
  cases s.text? id with
  | none => exact .inl rfl
  | some text =>
    cases hp : parseFormula text with
    | error err => exact .inl (by simp [hp])
    | ok e => simpa [hp] using Expr.value_kept (readable_of_parse hp) h

theorem referenceValue_kept (htext : t.text? id = s.text? id)
    (hlost : ∀ err, lost err → err.isRecoverable = false) {r r' : Except EvalError Evaluated}
    (h : KeptUnless lost r r') :
    KeptUnless lost (s.referenceValue id r) (t.referenceValue id r') := by
  rcases h with rfl | ⟨err, rfl, herr⟩
  · refine .inl ?_
    cases r' with
    | ok x => rfl
    | error err => rw [referenceValue_error, referenceValue_error, scalar?_eq, scalar?_eq, htext]
  · refine .inr ⟨err, ?_, herr⟩
    simp [referenceValue, hlost err herr]

/-- **Along fewer cells a name reads the same**, unless it led back along the more. -/
theorem plainReference_of_subset {path path' : List CellId} {name : String}
    (hsub : path' ⊆ path) :
    KeptUnless EvalError.IsCycle (s.plainReference path name) (s.plainReference path' name) := by
  induction path, name using plainReference.induct s generalizing path' with
  | case1 path name hnone =>
    exact .inl (by rw [plainReference_of_lookup_none hnone, plainReference_of_lookup_none hnone])
  | case2 path name target hlookup hmem =>
    exact .inr ⟨_, by rw [plainReference_of_lookup hlookup, if_pos hmem], name, rfl⟩
  | case3 path name target hlookup hmem ih =>
    rw [plainReference_of_lookup hlookup, plainReference_of_lookup hlookup, if_neg hmem,
      if_neg fun h => hmem (hsub h)]
    exact referenceValue_kept rfl (fun _ => EvalError.IsCycle.isRecoverable) <|
      plainText_kept rfl fun inner => ih inner (List.cons_subset_cons target hsub)

/-- **A cell that is copied fails as its copy does**, so its evaluation misses no name. -/
theorem Consistent.exists_plainEvaluate_source (hs : s.Consistent)
    (h : s.source? id = some source) :
    ∃ err, s.plainEvaluate source = .error err ∧ err.isRecoverable = true := by
  obtain ⟨e, name, err, he, hsingle, hlookup, herr, hrecoverable⟩ := hs.source?_eq_some_iff.mp h
  rw [plainEvaluate, plainText_of_formula? he, Expr.value_of_singleReference? hsingle] at herr
  have hread : s.plainReference [id] name = .error err := by
    cases hv : s.plainReference [id] name <;> simp_all [Except.map]
  have hne : source ∉ [id] := by simpa using hs.ne_of_source? h
  rw [plainReference_of_lookup hlookup, if_neg hne] at hread
  have hlong := eq_error_of_referenceValue hread
  have hkept : KeptUnless EvalError.IsCycle
      (s.plainText (s.plainReference [source, id]) source) (s.plainEvaluate source) :=
    plainText_kept rfl fun inner => plainReference_of_subset (by simp)
  refine ⟨err, ?_, hrecoverable⟩
  rcases hkept with heq | ⟨err', herr', hcycle⟩
  · exact heq.trans hlong
  · cases hlong.symm.trans herr'
    simp [hcycle.isRecoverable] at hrecoverable

/-! ## Sheets with more cells -/

/-- The second sheet has every text and every name of the first. -/
structure Extends (s t : Sheet) : Prop where
  text : ∀ id, s.isLive id = true → t.text? id = s.text? id
  lookup : ∀ name id, s.lookup name = some id → t.lookup name = some id

theorem Extends.of_bare_eq (h : s.bare = t.bare) : s.Extends t where
  text id _ := (text?_of_bare_eq h id).symm
  lookup name _ hname := (lookup_of_bare_eq h name).symm.trans hname

theorem isLive_iff_text? : s.isLive id = true ↔ (s.text? id).isSome = true := by
  rw [isLive, text?, Option.isSome_map]

namespace Extends

theorem isLive (h : s.Extends t) (hid : s.isLive id = true) : t.isLive id = true := by
  rw [isLive_iff_text?] at *
  rwa [h.text id (isLive_iff_text?.mpr hid)]

theorem trans (h : s.Extends t) (h' : t.Extends u) : s.Extends u where
  text id hid := (h'.text id (h.isLive hid)).trans (h.text id hid)
  lookup name id hname := h'.lookup name id (h.lookup name id hname)

variable (h : s.Extends t)

include h

theorem formula? (hid : s.isLive id = true) : t.formula? id = s.formula? id := by
  rw [formula?_eq, formula?_eq, h.text id hid]

/-- **A name reads the same on the larger sheet**, unless the smaller lacks one. -/
theorem plainReference (hs : s.Consistent) (path : List CellId) (name : String) :
    KeptUnless EvalError.IsMissing (s.plainReference path name) (t.plainReference path name) := by
  induction path, name using plainReference.induct s with
  | case1 path name hnone =>
    exact .inr ⟨_, plainReference_of_lookup_none hnone, name, rfl⟩
  | case2 path name target hlookup hmem =>
    exact .inl (by rw [plainReference_of_lookup hlookup,
      plainReference_of_lookup (h.lookup name target hlookup), if_pos hmem, if_pos hmem])
  | case3 path name target hlookup hmem ih =>
    have htext := h.text target (hs.isLive_of_lookup hlookup)
    rw [plainReference_of_lookup hlookup, plainReference_of_lookup (h.lookup name target hlookup),
      if_neg hmem, if_neg hmem]
    exact referenceValue_kept htext (fun _ => EvalError.IsMissing.isRecoverable)
      (plainText_kept htext ih)

/-- **A cell evaluates to the same on the larger sheet**, unless the smaller lacks a name. -/
theorem plainEvaluate (hs : s.Consistent) (hid : s.isLive id = true) :
    KeptUnless EvalError.IsMissing (s.plainEvaluate id) (t.plainEvaluate id) :=
  plainText_kept (h.text id hid) (h.plainReference hs [id])

/-- **A cell that evaluates to the same copies the same.** -/
theorem source? (hs : s.Consistent) (ht : t.Consistent) (hid : s.isLive id = true)
    (heval : t.plainEvaluate id = s.plainEvaluate id) : t.source? id = s.source? id := by
  refine Option.ext fun source => ?_
  rw [hs.source?_eq_some_iff, ht.source?_eq_some_iff, h.formula? hid, heval]
  refine exists_congr fun e => exists_congr fun name => exists_congr fun err =>
    and_congr_right fun he => and_congr_right fun hsingle => and_congr_left fun hfails => ?_
  refine ⟨fun hlookup => ?_, h.lookup name source⟩
  -- A name that only the larger sheet has would be missing on the smaller.
  cases hname : s.lookup name with
  | some source' => rw [← h.lookup name source' hname, hlookup]
  | none =>
    obtain ⟨herr, hrecoverable⟩ := hfails
    rw [Sheet.plainEvaluate, plainText_of_formula? he, Expr.value_of_singleReference? hsingle,
      plainReference_of_lookup_none hname] at herr
    cases herr
    cases hrecoverable

end Extends

/-- The verdict on a cell whose failure nothing can stand in for. -/
theorem exists_verdict_of_error (hid : s.isLive id = true) {err : EvalError}
    (h : s.plainEvaluate id = .error err) (hfatal : err.isRecoverable = false) :
    ∃ text, s.verdict id = s.judge text (.error err) := by
  obtain ⟨text, htext⟩ := Option.isSome_iff_exists.mp (isLive_iff_text?.mp hid)
  have hne : text ≠ "" := by
    rintro rfl
    rw [plainEvaluate, plainText_eq, htext] at h
    cases hp : parseFormula "" with
    | error err =>
      simp only [hp] at h
      cases h
      cases hfatal
    | ok e => exact parseFormula_empty hp
  exact ⟨text, by simp [verdict, htext, hne, h]⟩

/-- A cell whose evaluation misses a name shows the code for that. -/
theorem shown_of_missing (hid : s.isLive id = true) {name : String}
    (h : s.plainEvaluate id = .error (.missing name)) : s.shown config id = missingCode := by
  obtain ⟨text, hverdict⟩ := exists_verdict_of_error hid h rfl
  rw [shown, hverdict]
  rfl

/-- A cell whose evaluation leads back shows the code for that. -/
theorem shown_of_cycle (hid : s.isLive id = true) {name : String}
    (h : s.plainEvaluate id = .error (.cycle name)) : s.shown config id = cycleCode := by
  obtain ⟨text, hverdict⟩ := exists_verdict_of_error hid h rfl
  rw [shown, hverdict]
  rfl

end Sheet

end Spreadsheet
