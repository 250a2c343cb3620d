import Spreadsheet.Proofs.Evaluation.Reads
import Spreadsheet.Proofs.Sheet.Consistent
import Mathlib.Data.Fintype.EquivFin

/-!
# Proofs/Evaluation/Success — exactly when a cell evaluates

Success is a condition on the graph of references alone (`evaluate_isOk_iff_evaluable`): the cell
has a formula, every name within reach exists, every other cell within reach has a formula or a
value of its own, and no cell within reach leads back to itself.  The order of evaluation and the
memory of the pass do not enter.
-/

namespace Spreadsheet

open Text

namespace Sheet

variable {s : Sheet} {id : CellId}

/-! ## Success is groundedness -/

/-- **A cell evaluates exactly when it has a formula and is grounded.** -/
theorem exists_plainEvaluate_iff :
    (∃ y, s.plainEvaluate id = .ok y) ↔ (∃ e, s.formula? id = some e) ∧ s.Grounded id := by
  constructor
  · rintro ⟨y, hy⟩
    cases he : s.formula? id with
    | none =>
      obtain ⟨err, hp, -⟩ := exists_error_of_formula?_eq_none (s.plainReference [id]) he
      cases hp.symm.trans hy
    | some e =>
      rw [plainEvaluate, plainText_of_formula? he] at hy
      have hok := (Expr.exists_value_iff (readable_of_formula? he)).mp ⟨y, hy⟩
      refine ⟨⟨e, rfl⟩, .formula he (fun name hname => ?_) fun name hname target htarget => ?_⟩
      · obtain ⟨t, ht, -⟩ := (plainReference_singleton_iff he hname).mp (hok name hname)
        simp [ht]
      · obtain ⟨t, ht, hg⟩ := (plainReference_singleton_iff he hname).mp (hok name hname)
        obtain rfl := Option.some.inj (ht.symm.trans htarget)
        exact hg
  · rintro ⟨⟨e, he⟩, hg⟩
    rw [plainEvaluate, plainText_of_formula? he]
    refine (Expr.exists_value_iff (readable_of_formula? he)).mpr fun name hname => ?_
    cases hg with
    | text hnone => simp [hnone] at he
    | formula he' hsome hall =>
      obtain rfl := Option.some.inj (he.symm.trans he')
      obtain ⟨t, ht⟩ := Option.isSome_iff_exists.mp (hsome name hname)
      exact (plainReference_singleton_iff he hname).mpr ⟨t, ht, hall name hname t ht⟩

/-! ## No failure is a number that cannot be read -/

theorem plainText_ne_badLiteral {read : String → Except EvalError Float} {text : String}
    (hread : ∀ name, read name ≠ .error (.badLiteral text)) :
    s.plainText read id ≠ .error (.badLiteral text) := by
  intro h
  cases he : s.formula? id with
  | none =>
    obtain ⟨err, hp, hnumber⟩ := exists_error_of_formula?_eq_none read he
    exact hnumber text (Except.error.inj (hp.symm.trans h))
  | some e =>
    rw [plainText_of_formula? he] at h
    obtain ⟨_, name, _, -, -, hname⟩ := (Expr.value_eq_error_iff (readable_of_formula? he)).mp h
    exact hread name hname

theorem plainReference_ne_badLiteral {path : List CellId} {name text : String} :
    s.plainReference path name ≠ .error (.badLiteral text) := by
  induction path, name using plainReference.induct s with
  | case1 path name hnone => simp [plainReference_of_lookup_none hnone]
  | case2 path name target hlookup hmem => simp [plainReference_of_lookup hlookup, hmem]
  | case3 path name target hlookup hmem ih =>
    rw [plainReference_of_lookup hlookup, if_neg hmem]
    intro h
    have hp : s.plainText (s.plainReference (target :: path)) target ≠ .error (.badLiteral text) :=
      plainText_ne_badLiteral ih
    cases hv : s.plainText (s.plainReference (target :: path)) target with
    | ok y => simp [hv, referenceValue] at h
    | error err =>
      rw [hv, referenceValue_error] at h
      split at h
      · split at h <;> cases h
        exact hp hv
      · cases h
        exact hp hv

/-! ## Groundedness is a condition on the graph -/

/-- A cell that references lead to is a cell. -/
theorem Consistent.isLive_of_reaches (hs : s.Consistent) (hid : s.isLive id = true) {u : CellId}
    (h : s.Reaches id u) : s.isLive u = true := by
  induction h with
  | refl => exact hid
  | tail _ hstep _ =>
    obtain ⟨e, name, -, -, hlookup⟩ := hstep
    exact hs.isLive_of_lookup hlookup

/-- Only finitely many cells are within reach. -/
theorem finite_reaches (hlive : ∀ u, s.Reaches id u → s.isLive u = true) :
    Finite {u // s.Reaches id u} := by
  have hlt : ∀ u : {u // s.Reaches id u}, u.1.index < s.slots.size := fun u => by
    obtain ⟨c, hc⟩ := isLive_iff.mp (hlive u.1 u.2)
    exact index_lt_of_cell? hc
  refine Finite.of_injective (fun u => (⟨u.1.index, hlt u⟩ : Fin s.slots.size)) fun a b hab => ?_
  have : a.1.index = b.1.index := congrArg Fin.val hab
  exact Subtype.ext (by cases ha : a.1; cases hb : b.1; simp_all)

/-- References lead from the second of two cells within reach to the first. -/
def Below (s : Sheet) (id : CellId) (a b : {u // s.Reaches id u}) : Prop :=
  Relation.TransGen s.RefersTo b.1 a.1

/-- Without a cycle within reach, references do not go on for ever. -/
theorem wellFounded_below (hlive : ∀ u, s.Reaches id u → s.isLive u = true)
    (hacyclic : ∀ u, s.Reaches id u → ¬ Relation.TransGen s.RefersTo u u) :
    WellFounded (s.Below id) := by
  have := finite_reaches hlive
  have htrans : IsTrans _ (s.Below id) := ⟨fun _ _ _ hab hbc => Relation.TransGen.trans hbc hab⟩
  have hirrefl : Std.Irrefl (s.Below id) := ⟨fun a => hacyclic a.1 a.2⟩
  exact Finite.wellFounded_of_trans_of_irrefl (s.Below id)

/-- **Without a cycle within reach, what holds of a cell whenever it holds of the cells it refers to
holds of every cell within reach.** -/
theorem induction_of_acyclic {motive : CellId → Prop}
    (hlive : ∀ u, s.Reaches id u → s.isLive u = true)
    (hacyclic : ∀ u, s.Reaches id u → ¬ Relation.TransGen s.RefersTo u u)
    (hstep : ∀ u, s.Reaches id u → (∀ v, s.RefersTo u v → motive v) → motive u) :
    ∀ u, s.Reaches id u → motive u := by
  have hall : ∀ u : {u // s.Reaches id u}, motive u.1 := fun u => by
    induction u using (wellFounded_below hlive hacyclic).induction with
    | _ u ih => exact hstep u.1 u.2 fun v hv => ih ⟨v, u.2.tail hv⟩ (.single hv)
  exact fun u hu => hall ⟨u, hu⟩

/-- The conditions under which a cell evaluates, on the cells that references lead to. -/
structure Evaluable (s : Sheet) (id : CellId) : Prop where
  /-- The cell has a formula. -/
  parses : ∃ e, s.formula? id = some e
  /-- Every name in a formula within reach exists. -/
  named : ∀ u e name, s.Reaches id u → s.formula? u = some e → name ∈ e.references →
    (s.lookup name).isSome
  /-- Every other cell within reach has a formula, is empty, or is plainly a number. -/
  valued : ∀ u c, s.Reaches id u → u ≠ id → s.cell? u = some c →
    (∃ e, parseFormula c.text = .ok e) ∨ c.text = "" ∨ isNumericText (trim c.text.toList) = true
  /-- No cell within reach leads back to itself. -/
  acyclic : ∀ u, s.Reaches id u → ¬ Relation.TransGen s.RefersTo u u

theorem Evaluable.grounded (hs : s.Consistent) (hid : s.isLive id = true) (h : s.Evaluable id) :
    s.Grounded id := by
  have hlive : ∀ u, s.Reaches id u → s.isLive u = true := fun _ hu => hs.isLive_of_reaches hid hu
  refine induction_of_acyclic hlive h.acyclic (fun u hu ih => ?_) id .refl
  cases he : s.formula? u with
  | some e =>
    exact .formula he (fun name hname => h.named u e name hu he hname)
      fun name hname target htarget => ih target ⟨e, name, he, hname, htarget⟩
  | none =>
    obtain ⟨c, hc⟩ := isLive_iff.mp (hlive u hu)
    have hne : u ≠ id := by
      rintro rfl
      obtain ⟨e, he'⟩ := h.parses
      cases he.symm.trans he'
    have hscalar : (scalarValue? c.text).isSome := by
      rcases h.valued u c hu hne hc with ⟨e, hparse⟩ | hplain
      · cases he.symm.trans (formula?_eq_some_iff.mpr ⟨c, hc, hparse⟩)
      · exact scalarValue?_isSome_iff.mpr hplain
    obtain ⟨x, hx⟩ := Option.isSome_iff_exists.mp hscalar
    exact .text (x := x) he (by simp [scalar?, hc, hx])

theorem Evaluable.of_grounded (hparses : ∃ e, s.formula? id = some e) (h : s.Grounded id) :
    s.Evaluable id where
  parses := hparses
  named u e name hu he hname := by
    cases h.of_reaches hu with
    | text hnone => simp [hnone] at he
    | formula he' hsome =>
      obtain rfl := Option.some.inj (he.symm.trans he')
      exact hsome name hname
  valued u c hu _ hc := by
    cases h.of_reaches hu with
    | text _ hx =>
      simp only [scalar?, hc, Option.bind_some] at hx
      exact .inr (scalarValue?_isSome_iff.mp (Option.isSome_of_eq_some hx))
    | formula he =>
      obtain ⟨c', hc', hparse⟩ := formula?_eq_some_iff.mp he
      obtain rfl := Option.some.inj (hc.symm.trans hc')
      exact .inl ⟨_, hparse⟩
  acyclic u hu := (h.of_reaches hu).not_transGen

/-- **A cell evaluates exactly when it is evaluable; otherwise it fails, and never because of a
number that cannot be read.** -/
theorem evaluate_isOk_iff_evaluable (s : Sheet) (hs : s.Consistent) (id : CellId)
    (hid : s.isLive id = true) :
    ((∃ x, (s.evaluate id).1 = .ok x) ↔ s.Evaluable id)
      ∧ (¬ s.Evaluable id → ∃ err, (s.evaluate id).1 = .error err
        ∧ ∀ text, err ≠ .badLiteral text) := by
  have hiff : (∃ x, s.plainEvaluate id = .ok x) ↔ s.Evaluable id := by
    rw [exists_plainEvaluate_iff]
    exact ⟨fun ⟨hparses, hg⟩ => .of_grounded hparses hg, fun h => ⟨h.parses, h.grounded hs hid⟩⟩
  rw [evaluate_fst]
  refine ⟨hiff, fun hnot => ?_⟩
  cases hv : s.plainEvaluate id with
  | ok y => exact absurd (hiff.mp ⟨y, hv⟩) hnot
  | error err =>
    refine ⟨err, rfl, ?_⟩
    rintro text rfl
    exact plainText_ne_badLiteral (fun _ => plainReference_ne_badLiteral) hv

/-- A sum with an empty cell is evaluable, and so it evaluates. -/
theorem evaluate_isOk_sum_with_empty :
    let s := (blank 1 2).modifyCell ⟨0⟩ fun c => { c with text := "B1 + 1" }
    s.Consistent ∧ s.isLive ⟨0⟩ = true ∧ s.Evaluable ⟨0⟩ ∧ ∃ x, (s.evaluate ⟨0⟩).1 = .ok x := by
  intro s
  have hs : s.Consistent := (consistent_blank 1 2).enterText _ _
  have hlive : s.isLive ⟨0⟩ = true := by
    rw [isLive_modifyCell, isLive, cell?_blank]
    rfl
  have hformula : s.formula? ⟨0⟩ = some (.binary .add (.reference "B1") (.number "1")) := by
    decide +kernel
  have hlookup : s.lookup "B1" = some ⟨1⟩ := by decide +kernel
  obtain ⟨x, hx⟩ : ∃ x, s.scalar? ⟨1⟩ = some x := Option.isSome_iff_exists.mp (by decide +kernel)
  have hempty : s.Grounded ⟨1⟩ := .text (by decide +kernel) hx
  have hgrounded : s.Grounded ⟨0⟩ := by
    refine .formula hformula (fun name hname => ?_) fun name hname target htarget => ?_
    · obtain rfl := List.mem_singleton.mp hname
      rw [hlookup]
      rfl
    · obtain rfl := List.mem_singleton.mp hname
      rwa [← Option.some.inj (hlookup.symm.trans htarget)]
  have hevaluable : s.Evaluable ⟨0⟩ := .of_grounded ⟨_, hformula⟩ hgrounded
  exact ⟨hs, hlive, hevaluable, (evaluate_isOk_iff_evaluable s hs ⟨0⟩ hlive).1.mpr hevaluable⟩

end Sheet

end Spreadsheet
