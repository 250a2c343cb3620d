import Spreadsheet.Proofs.Evaluation.Plain
import Mathlib.Logic.Relation
import Mathlib.Tactic.Choose
import Mathlib.Tactic.ByContra

/-!
# Proofs/Evaluation/Grounded — the cells whose references all lead to values

The cells of a sheet and the references in their formulas form a graph.  A cell is `Grounded` when
it has a value of its own or a formula all of whose references lead to grounded cells.  Reading a
grounded cell yields one value, whatever path led to it (`Grounded.exists_worth`), nothing else can
be read (`grounded_of_plainReference`), and no grounded cell leads back to itself
(`Grounded.not_transGen`).
-/

namespace Spreadsheet

namespace Sheet

/-! ## The text of a cell -/

/-- The formula of a cell, if its text is one. -/
def formula? (s : Sheet) (id : CellId) : Option Expr :=
  (s.cell? id).bind fun c => (parseFormula c.text).toOption

/-- The value of the plain text of a cell, if it has one. -/
def scalar? (s : Sheet) (id : CellId) : Option Float :=
  (s.cell? id).bind fun c => scalarValue? c.text

variable {s : Sheet} {id target : CellId} {e : Expr} {x : Float}
  {read : String → Except EvalError Float}

theorem formula?_eq_some_iff : s.formula? id = some e ↔
    ∃ c, s.cell? id = some c ∧ parseFormula c.text = .ok e := by
  simp only [formula?, Option.bind_eq_some_iff]
  refine exists_congr fun c => and_congr_right fun _ => ?_
  cases parseFormula c.text <;> simp [Except.toOption]

theorem isLive_of_formula? (h : s.formula? id = some e) : s.isLive id = true := by
  obtain ⟨c, hc, -⟩ := formula?_eq_some_iff.mp h
  exact isLive_iff.mpr ⟨c, hc⟩

theorem readable_of_formula? (h : s.formula? id = some e) : e.Readable := by
  obtain ⟨c, -, hc⟩ := formula?_eq_some_iff.mp h
  exact readable_of_parse hc

theorem references_eq_nil_of_scalar? (h : s.formula? id = some e) (hx : s.scalar? id = some x) :
    e.references = [] := by
  obtain ⟨c, hc, he⟩ := formula?_eq_some_iff.mp h
  simp only [scalar?, hc, Option.bind_some] at hx
  exact references_eq_nil_of_scalarValue? he hx

theorem plainText_of_formula? (h : s.formula? id = some e) :
    s.plainText read id = e.value read := by
  obtain ⟨c, hc, he⟩ := formula?_eq_some_iff.mp h
  simp [plainText, hc, he]

/-- Why a cell without a formula has no value. -/
theorem plainText_of_formula?_eq_none (read : String → Except EvalError Float)
    (h : s.formula? id = none) :
    s.cell? id = none ∧ s.plainText read id = .error (.missing id.label)
      ∨ ∃ c err, s.cell? id = some c ∧ parseFormula c.text = .error err
        ∧ s.plainText read id = .error (.malformed err) := by
  rw [formula?] at h
  rw [plainText]
  cases hc : s.cell? id with
  | none => exact .inl ⟨rfl, rfl⟩
  | some c =>
    right
    cases hp : parseFormula c.text with
    | error err => exact ⟨c, err, rfl, hp, by simp [hp]⟩
    | ok e => simp [hc, hp, Except.toOption] at h

/-- A cell without a formula fails, though never because of a number. -/
theorem exists_error_of_formula?_eq_none (read : String → Except EvalError Float)
    (h : s.formula? id = none) :
    ∃ err, s.plainText read id = .error err ∧ ∀ text, err ≠ .badLiteral text := by
  rcases plainText_of_formula?_eq_none read h with ⟨-, hp⟩ | ⟨_, _, -, -, hp⟩
  · exact ⟨_, hp, by simp⟩
  · exact ⟨_, hp, by simp⟩

/-! ## What a reference to a cell reads -/

/-- A failure is covered by the value of the plain text, if there is one and the failure admits
it. -/
theorem referenceValue_error (err : EvalError) : s.referenceValue id (.error err) =
    match s.scalar? id with
    | some x => if err.isRecoverable then .ok x else .error err
    | none => .error err := by
  simp only [referenceValue, scalar?]
  cases err.isRecoverable <;> cases (s.cell? id).bind fun c => scalarValue? c.text <;> rfl

/-- Only a failure makes a reference fail. -/
theorem eq_error_of_referenceValue {r : Except EvalError Evaluated} {err : EvalError}
    (h : s.referenceValue id r = .error err) : r = .error err := by
  cases r with
  | ok x => cases h
  | error err' =>
    rw [referenceValue_error] at h
    split at h
    · split at h
      · cases h
      · cases h; rfl
    · cases h; rfl

/-- **A formula is never covered by its plain text** — a reference to it reads its value or fails as
it does. -/
theorem referenceValue_of_formula? (h : s.formula? id = some e) :
    s.referenceValue id (e.value read) = (e.value read).map Evaluated.value := by
  cases hv : e.value read with
  | ok y => rfl
  | error err =>
    obtain ⟨before, name, after, hrefs, -⟩ :=
      (Expr.value_eq_error_iff (readable_of_formula? h)).mp hv
    have hx : s.scalar? id = none := by
      by_contra hx
      obtain ⟨x, hx⟩ := Option.ne_none_iff_exists'.mp hx
      simp [references_eq_nil_of_scalar? h hx] at hrefs
    rw [referenceValue_error, hx]
    rfl

/-- A failure that is covered is not the failure of a formula. -/
theorem formula?_eq_none_of_covered {err : EvalError} (hv : s.plainText read id = .error err)
    (hx : s.referenceValue id (s.plainText read id) = .ok x) : s.formula? id = none := by
  by_contra hsome
  obtain ⟨e, he⟩ := Option.ne_none_iff_exists'.mp hsome
  rw [plainText_of_formula? he] at hv hx
  rw [referenceValue_of_formula? he, hv] at hx
  simp [Except.map] at hx

/-- Without a formula, a reference reads the value of the plain text. -/
theorem referenceValue_of_scalar? (h : s.formula? id = none) (hx : s.scalar? id = some x) :
    s.referenceValue id (s.plainText read id) = .ok x := by
  rcases plainText_of_formula?_eq_none read h with ⟨hc, -⟩ | ⟨c, err, -, -, hp⟩
  · simp [scalar?, hc] at hx
  · rw [hp, referenceValue_error, hx]
    rfl

/-- Without a formula and a value of its own, a cell cannot be read. -/
theorem referenceValue_of_scalar?_eq_none (read : String → Except EvalError Float)
    (h : s.formula? id = none) (hx : s.scalar? id = none) :
    ∃ err, s.plainText read id = .error err
      ∧ s.referenceValue id (s.plainText read id) = .error err := by
  obtain ⟨err, hp, -⟩ := exists_error_of_formula?_eq_none read h
  exact ⟨err, hp, by rw [hp, referenceValue_error, hx]⟩

/-! ## The graph of references -/

/-- The formula of the first cell refers to the second. -/
def RefersTo (s : Sheet) (id target : CellId) : Prop :=
  ∃ e name, s.formula? id = some e ∧ name ∈ e.references ∧ s.lookup name = some target

/-- References lead from the first cell to the second. -/
abbrev Reaches (s : Sheet) : CellId → CellId → Prop := Relation.ReflTransGen s.RefersTo

/-- The cells that can be read: those with a value of their own, and those with a formula whose
references all lead to cells that can be read. -/
inductive Grounded (s : Sheet) : CellId → Prop
  | text {id : CellId} {x : Float} : s.formula? id = none → s.scalar? id = some x → Grounded s id
  | formula {id : CellId} {e : Expr} : s.formula? id = some e →
      (∀ name ∈ e.references, (s.lookup name).isSome) →
      (∀ name ∈ e.references, ∀ target, s.lookup name = some target → Grounded s target) →
      Grounded s id

theorem Grounded.of_refersTo (h : s.Grounded id) (ht : s.RefersTo id target) :
    s.Grounded target := by
  obtain ⟨e, name, he, hname, hlookup⟩ := ht
  cases h with
  | text hnone => simp [hnone] at he
  | formula he' _ hall =>
    obtain rfl := Option.some.inj (he'.symm.trans he)
    exact hall name hname target hlookup

theorem Grounded.of_reaches (h : s.Grounded id) (ht : s.Reaches id target) : s.Grounded target := by
  induction ht with
  | refl => exact h
  | tail _ hstep ih => exact ih.of_refersTo hstep

/-- **A grounded cell does not depend on itself.** -/
theorem Grounded.not_transGen (h : s.Grounded id) : ¬ Relation.TransGen s.RefersTo id id := by
  induction h with
  | text hnone _ =>
    intro hcycle
    obtain ⟨_, ⟨e, _, he, _⟩, _⟩ := Relation.TransGen.head'_iff.mp hcycle
    simp [hnone] at he
  | formula he _ _ ih =>
    intro hcycle
    obtain ⟨next, hnext, hback⟩ := Relation.TransGen.head'_iff.mp hcycle
    have ⟨e', name, he', hname, hlookup⟩ := hnext
    obtain rfl := Option.some.inj (he.symm.trans he')
    exact ih name hname next hlookup (Relation.TransGen.tail' hback hnext)

/-- A cell reads as a value along every path it does not lead back to. -/
structure Worth (s : Sheet) (id : CellId) (x : Float) : Prop where
  grounded : s.Grounded id
  reads : ∀ path name, s.lookup name = some id → (∀ p ∈ path, ¬ s.Reaches id p) →
    s.plainReference path name = .ok x

/-- **A grounded cell reads as one value, whatever path led to it.** -/
theorem Grounded.exists_worth (h : s.Grounded id) : ∃ x, s.Worth id x := by
  have hnot : ∀ path : List CellId, (∀ p ∈ path, ¬ s.Reaches id p) → id ∉ path :=
    fun path hp hid => hp id hid .refl
  induction h with
  | @text id x hnone hx =>
    refine ⟨x, .text hnone hx, fun path name hlookup hpath => ?_⟩
    rw [plainReference_of_lookup hlookup, if_neg (hnot path hpath),
      referenceValue_of_scalar? hnone hx]
  | @formula id e he hsome hall ih =>
    have hg : s.Grounded id := .formula he hsome hall
    have hreads : ∃ value : String → Float, ∀ path, (∀ p ∈ path, ¬ s.Reaches id p) →
        ∀ name ∈ e.references, s.plainReference (id :: path) name = .ok (value name) := by
      have hone : ∀ name, ∃ x, name ∈ e.references → ∀ path, (∀ p ∈ path, ¬ s.Reaches id p) →
          s.plainReference (id :: path) name = .ok x := fun name => by
        by_cases hname : name ∈ e.references
        · obtain ⟨target, htarget⟩ := Option.isSome_iff_exists.mp (hsome name hname)
          have hstep : s.RefersTo id target := ⟨e, name, he, hname, htarget⟩
          obtain ⟨x, hx⟩ := ih name hname target htarget fun path hp hid => hp target hid .refl
          refine ⟨x, fun _ path hpath => hx.reads (id :: path) name htarget fun p hp hreach => ?_⟩
          rcases List.mem_cons.mp hp with rfl | hp
          · exact hg.not_transGen (Relation.TransGen.head' hstep hreach)
          · exact hpath p hp (.head hstep hreach)
        · exact ⟨0, fun hmem => absurd hmem hname⟩
      choose value hvalue using hone
      exact ⟨value, fun path hpath name hname => hvalue name hname path hpath⟩
    obtain ⟨value, hvalue⟩ := hreads
    have hreadable := readable_of_formula? he
    have hsome : ∃ y, e.value (fun name => .ok (value name)) = .ok y :=
      (Expr.exists_value_iff hreadable).mpr fun name _ => ⟨_, rfl⟩
    obtain ⟨y, hy⟩ := hsome
    refine ⟨y.value, hg, fun path name hlookup hpath => ?_⟩
    rw [plainReference_of_lookup hlookup, if_neg (hnot path hpath), plainText_of_formula? he,
      referenceValue_of_formula? he, Expr.value_congr_of_forall (hvalue path hpath), hy]
    rfl

/-- **Only grounded cells can be read.** -/
theorem grounded_of_plainReference {path : List CellId} {name : String} {x : Float}
    (h : s.plainReference path name = .ok x) :
    ∃ target, s.lookup name = some target ∧ s.Grounded target := by
  induction path, name using plainReference.induct s generalizing x with
  | case1 path name hnone =>
    simp [plainReference_of_lookup_none hnone] at h
  | case2 path name target hlookup hmem =>
    simp [plainReference_of_lookup hlookup, hmem] at h
  | case3 path name target hlookup hmem ih =>
    refine ⟨target, hlookup, ?_⟩
    rw [plainReference_of_lookup hlookup, if_neg hmem] at h
    cases he : s.formula? target with
    | none =>
      cases hx : s.scalar? target with
      | some y => exact .text he hx
      | none =>
        obtain ⟨err, -, hfail⟩ := referenceValue_of_scalar?_eq_none
          (s.plainReference (target :: path)) he hx
        simp [hfail] at h
    | some e =>
      rw [plainText_of_formula? he, referenceValue_of_formula? he] at h
      cases hv : e.value (s.plainReference (target :: path)) with
      | error err => simp [hv, Except.map] at h
      | ok y =>
        have hok := (Expr.exists_value_iff (readable_of_formula? he)).mp ⟨y, hv⟩
        refine .formula he (fun name hname => ?_) fun name hname inner hinner => ?_
        · obtain ⟨x, hx⟩ := hok name hname
          obtain ⟨inner, hinner, -⟩ := ih name hx
          simp [hinner]
        · obtain ⟨x, hx⟩ := hok name hname
          obtain ⟨inner', hinner', hg⟩ := ih name hx
          obtain rfl := Option.some.inj (hinner.symm.trans hinner')
          exact hg

end Sheet

end Spreadsheet
