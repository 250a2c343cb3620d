import Spreadsheet.Proofs.Evaluation.Extension
import Spreadsheet.Proofs.Evaluation.Success
import Spreadsheet.Proofs.Formula.ReferenceNames
import Spreadsheet.Proofs.Sheet.Indices

/-!
# Proofs/Evaluation/Failure — every failure has its cause within reach

Several things can be wrong at once, and the one that an evaluation comes to first is reported.
Whatever it is, it is there: the cells on the path of references lead to the current one, so a
reference back onto the path closes a cycle, and a failure that no plain text covers is that of a
cell without a value of its own (`genuine_of_plainReference`).  Conversely no cycle within reach can
be evaluated; where nothing else is wrong, it is what is reported (`genuine_of_evaluate`).
-/

namespace Spreadsheet

open Text

namespace Sheet

variable {s : Sheet} {id target : CellId} {name : String} {err : EvalError}

/-! ## Causes -/

/-- What a failure of a cell says of the cells within reach. -/
def Genuine (s : Sheet) (id : CellId) : EvalError → Prop
  -- The name is that of a cell within reach that leads back to itself.
  | .cycle name => ∃ u, s.lookup name = some u ∧ s.Reaches id u
      ∧ Relation.TransGen s.RefersTo u u
  -- The name stands in a formula within reach, and no cell has it.
  | .missing name => (∃ u e, s.Reaches id u ∧ s.formula? u = some e ∧ name ∈ e.references)
      ∧ s.lookup name = none ∧ (s.IdsFit → ∀ u c, s.cell? u = some c → c.name ≠ name)
  -- The text of a cell within reach is no formula, and unless the cell is the evaluated one it is
  -- neither empty nor plainly a number.
  | .malformed fault => ∃ u c, s.Reaches id u ∧ s.cell? u = some c
      ∧ parseFormula c.text = .error fault
      ∧ (u ≠ id → c.text ≠ "" ∧ isNumericText (trim c.text.toList) = false)
  | .badLiteral _ => False

/-- A name in a formula that leads to no cell is the name of none. -/
theorem Consistent.name_ne_of_lookup (hs : s.Consistent) (hfit : s.IdsFit) {e : Expr}
    (he : s.formula? id = some e) (hname : name ∈ e.references) (hlookup : s.lookup name = none) :
    ∀ u c, s.cell? u = some c → c.name ≠ name := by
  rintro u c hu rfl
  obtain ⟨c', -, hparse⟩ := formula?_eq_some_iff.mp he
  have hfound := (hs.lookup_eq_some_iff hfit).mpr ⟨c.position, (hs.idAt_iff _ u).mpr ⟨c, hu, rfl⟩,
    canonicalName_of_mem_references hparse hname⟩
  cases hlookup.symm.trans hfound

theorem genuine_of_lookup_none (hs : s.Consistent) {root : CellId} {e : Expr}
    (hreach : s.Reaches root id) (he : s.formula? id = some e) (hname : name ∈ e.references)
    (hlookup : s.lookup name = none) : s.Genuine root (.missing name) :=
  ⟨⟨id, e, hreach, he, hname⟩, hlookup, fun hfit => hs.name_ne_of_lookup hfit he hname hlookup⟩

/-- A text that is no formula and cannot be read is the cause of its own failure. -/
theorem genuine_of_formula?_eq_none {root : CellId} (hlive : s.isLive id = true)
    (hreach : s.Reaches root id) (hnone : s.formula? id = none)
    (hscalar : id ≠ root → s.scalar? id = none) (read : String → Except EvalError Float) :
    ∃ err, s.plainText read id = .error err ∧ s.Genuine root err := by
  obtain ⟨c, hc⟩ := isLive_iff.mp hlive
  rcases plainText_of_formula?_eq_none read hnone with ⟨hgone, -⟩ | ⟨c', fault, hc', hfault, hp⟩
  · cases hc.symm.trans hgone
  · refine ⟨_, hp, id, c', hreach, hc', hfault, fun hne => ?_⟩
    have hvalue : (scalarValue? c'.text).isSome = false := by
      have := hscalar hne
      rw [scalar?, hc', Option.bind_some] at this
      rw [this]
      rfl
    have hnot : ¬ (c'.text = "" ∨ isNumericText (trim c'.text.toList) = true) := fun h => by
      simp [scalarValue?_isSome_iff.mpr h] at hvalue
    exact ⟨fun h => hnot (.inl h), by simpa using fun h => hnot (.inr h)⟩

/-- **A reference fails for a cause within reach** — read behind a path of cells each of which leads
to the one that refers. -/
theorem genuine_of_plainReference (hs : s.Consistent) {root : CellId} {path : List CellId} :
    ∀ {current : CellId} {e : Expr} {err : EvalError}, s.Reaches root current →
      (∀ p ∈ path, s.Reaches p current) → s.formula? current = some e → name ∈ e.references →
      s.plainReference path name = .error err → s.Genuine root err := by
  induction path, name using plainReference.induct s with
  | case1 path name hnone =>
    intro current e err hroot _ he hname herr
    rw [plainReference_of_lookup_none hnone] at herr
    cases herr
    exact genuine_of_lookup_none hs hroot he hname hnone
  | case2 path name target hlookup hmem =>
    intro current e err hroot hpath he hname herr
    rw [plainReference_of_lookup hlookup, if_pos hmem] at herr
    cases herr
    have hstep : s.RefersTo current target := ⟨e, name, he, hname, hlookup⟩
    exact ⟨target, hlookup, hroot.tail hstep, .tail' (hpath target hmem) hstep⟩
  | case3 path name target hlookup hmem ih =>
    intro current e err hroot hpath he hname herr
    have hstep : s.RefersTo current target := ⟨e, name, he, hname, hlookup⟩
    rw [plainReference_of_lookup hlookup, if_neg hmem] at herr
    have htext := eq_error_of_referenceValue herr
    cases he' : s.formula? target with
    | some e' =>
      rw [plainText_of_formula? he'] at htext
      obtain ⟨_, inner, _, hrefs, -, hinner⟩ :=
        (Expr.value_eq_error_iff (readable_of_formula? he')).mp htext
      refine ih inner (hroot.tail hstep) (fun p hp => ?_) he' (by simp [hrefs]) hinner
      exact (List.mem_cons.mp hp).elim (· ▸ .refl) fun hp => (hpath p hp).tail hstep
    | none =>
      have hscalar : s.scalar? target = none := by
        by_contra hsome
        obtain ⟨x, hx⟩ := Option.ne_none_iff_exists'.mp hsome
        rw [referenceValue_of_scalar? he' hx] at herr
        cases herr
      obtain ⟨err', hp, hgenuine⟩ := genuine_of_formula?_eq_none (hs.isLive_of_lookup hlookup)
        (hroot.tail hstep) he' (fun _ => hscalar) (s.plainReference (target :: path))
      cases htext.symm.trans hp
      exact hgenuine

/-- **A cell fails for a cause within reach.** -/
theorem genuine_of_plainEvaluate (hs : s.Consistent) (hid : s.isLive id = true)
    (herr : s.plainEvaluate id = .error err) : s.Genuine id err := by
  cases he : s.formula? id with
  | some e =>
    rw [plainEvaluate, plainText_of_formula? he] at herr
    obtain ⟨_, name, _, hrefs, -, hname⟩ :=
      (Expr.value_eq_error_iff (readable_of_formula? he)).mp herr
    exact genuine_of_plainReference hs .refl (fun p hp => List.mem_singleton.mp hp ▸ .refl) he
      (by simp [hrefs]) hname
  | none =>
    obtain ⟨err', hp, hgenuine⟩ := genuine_of_formula?_eq_none hid .refl he
      (fun hne => absurd rfl hne) (s.plainReference [id])
    cases herr.symm.trans hp
    exact hgenuine

/-! ## Cycles -/

/-- A cycle is within reach. -/
def LeadsToCycle (s : Sheet) (id : CellId) : Prop :=
  ∃ u, s.Reaches id u ∧ Relation.TransGen s.RefersTo u u

/-- A cell that leads to a cycle has a formula. -/
theorem LeadsToCycle.exists_formula? (h : s.LeadsToCycle id) : ∃ e, s.formula? id = some e := by
  obtain ⟨u, hreach, hcycle⟩ := h
  rcases Relation.ReflTransGen.cases_head hreach with rfl | ⟨_, ⟨e, _, he, _⟩, _⟩
  · obtain ⟨_, ⟨e, _, he, _⟩, _⟩ := Relation.TransGen.head'_iff.mp hcycle
    exact ⟨e, he⟩
  · exact ⟨e, he⟩

/-- No cell that leads to a cycle evaluates. -/
theorem LeadsToCycle.exists_error (h : s.LeadsToCycle id) :
    ∃ err, s.plainEvaluate id = .error err := by
  obtain ⟨u, hreach, hcycle⟩ := h
  cases hv : s.plainEvaluate id with
  | error err => exact ⟨err, rfl⟩
  | ok y =>
    have hg := (exists_plainEvaluate_iff.mp ⟨y, hv⟩).2
    exact absurd hcycle (hg.of_reaches hreach).not_transGen

/-- **Every failure has its cause within reach, and a cycle is reported where nothing else is
wrong** — where every name within reach exists and every text within reach is a formula, empty or
plainly a number, a cell that leads to a cycle fails with one and shows the code for it. -/
theorem genuine_of_evaluate (s : Sheet) (hs : s.Consistent) (id : CellId)
    (hid : s.isLive id = true) :
    (∀ err, (s.evaluate id).1 = .error err → s.Genuine id err)
      ∧ (s.LeadsToCycle id →
        (∀ u e name, s.Reaches id u → s.formula? u = some e → name ∈ e.references →
          (s.lookup name).isSome) →
        (∀ u c, s.Reaches id u → s.cell? u = some c → (∃ e, parseFormula c.text = .ok e)
          ∨ c.text = "" ∨ isNumericText (trim c.text.toList) = true) →
        (∃ name, (s.evaluate id).1 = .error (.cycle name))
          ∧ ∀ config, (s.refresh config id).2.valueOf id = "#CYCERROR") := by
  rw [evaluate_fst]
  refine ⟨fun err herr => genuine_of_plainEvaluate hs hid herr, fun hcycle hnamed hvalued => ?_⟩
  obtain ⟨err, herr⟩ := hcycle.exists_error
  have hgenuine := genuine_of_plainEvaluate hs hid herr
  cases err with
  | cycle name =>
    refine ⟨⟨name, herr⟩, fun config => ?_⟩
    rw [valueOf_refresh_self hid, shown_of_cycle hid herr]
    rfl
  | missing name =>
    obtain ⟨⟨u, e, hreach, he, hname⟩, hlookup, -⟩ := hgenuine
    simpa [hlookup] using hnamed u e name hreach he hname
  | malformed fault =>
    obtain ⟨u, c, hreach, hc, hfault, hplain⟩ := hgenuine
    have hne : u ≠ id := by
      rintro rfl
      obtain ⟨e, he⟩ := hcycle.exists_formula?
      obtain ⟨c', hc', hparse⟩ := formula?_eq_some_iff.mp he
      obtain rfl := Option.some.inj (hc.symm.trans hc')
      cases hfault.symm.trans hparse
    obtain ⟨hempty, hnumeric⟩ := hplain hne
    rcases hvalued u c hreach hc with ⟨e, hparse⟩ | htext | hnumber
    · cases hfault.symm.trans hparse
    · exact absurd htext hempty
    · cases hnumeric.symm.trans hnumber
  | badLiteral text => exact hgenuine.elim

/-- A sum of a plain number and a cell that refers to itself. -/
def looped : Sheet :=
  (((blank 1 3).modifyCell ⟨0⟩ fun c => { c with text := "C1 + B1" }).modifyCell ⟨1⟩ fun c =>
    { c with text := "=B1" }).modifyCell ⟨2⟩ fun c => { c with text := "1e5" }

/-- The sum is not on the cycle, and fails with it all the same. -/
theorem genuine_of_evaluate_looped :
    looped.Consistent ∧ looped.isLive ⟨0⟩ = true
      ∧ (∀ err, (looped.evaluate ⟨0⟩).1 = .error err → looped.Genuine ⟨0⟩ err)
      ∧ looped.LeadsToCycle ⟨0⟩ ∧ (∃ name, (looped.evaluate ⟨0⟩).1 = .error (.cycle name))
      ∧ ∀ config, (looped.refresh config ⟨0⟩).2.valueOf ⟨0⟩ = "#CYCERROR" := by
  have hs : looped.Consistent :=
    (((consistent_blank 1 3).enterText _ _).enterText _ _).enterText _ _
  have hlive : looped.isLive ⟨0⟩ = true := by decide +kernel
  have hsum : looped.formula? ⟨0⟩ = some (.binary .add (.reference "C1") (.reference "B1")) := by
    decide +kernel
  have hself : looped.formula? ⟨1⟩ = some (.formula (.reference "B1")) := by decide +kernel
  have hlookup : looped.lookup "B1" = some ⟨1⟩ := by decide +kernel
  have hcycle : looped.LeadsToCycle ⟨0⟩ :=
    ⟨⟨1⟩, .single ⟨_, "B1", hsum, by decide, hlookup⟩, .single ⟨_, "B1", hself, by decide, hlookup⟩⟩
  have hnames : (looped.ids.all fun u => (looped.formula? u).all fun e =>
      e.references.all fun name => (looped.lookup name).isSome) = true := by decide +kernel
  have htexts : (looped.ids.all fun u => (looped.cell? u).all fun c =>
      (parseFormula c.text).toOption.isSome || isNumericText (trim c.text.toList)) = true := by
    decide +kernel
  obtain ⟨hgenuine, hfails⟩ := genuine_of_evaluate looped hs ⟨0⟩ hlive
  refine ⟨hs, hlive, hgenuine, hcycle, hfails hcycle (fun u e name _ he hname => ?_)
    fun u c _ hc => ?_⟩
  · have hall := List.all_eq_true.mp hnames u (hs.mem_ids_iff.mpr (isLive_of_formula? he))
    rw [he, Option.all_some] at hall
    exact List.all_eq_true.mp hall name hname
  · have hall := List.all_eq_true.mp htexts u (hs.mem_ids_iff.mpr (isLive_iff.mpr ⟨c, hc⟩))
    rw [hc, Option.all_some, Bool.or_eq_true] at hall
    refine hall.imp (fun hparse => ?_) .inr
    cases hp : parseFormula c.text with
    | ok e => exact ⟨e, rfl⟩
    | error fault => simp [hp, Except.toOption] at hparse

end Sheet

end Spreadsheet
