import Spreadsheet.Proofs.Evaluation.Decided
import Spreadsheet.Proofs.Formula.Respelled

/-!
# Proofs/Evaluation/Respelled — spelling does not matter to an evaluation

A formula is evaluated without regard to its markers and the separators of its numbers
(`Expr.evaluate_of_plain_eq`).  So two sheets whose cells differ in the spelling of formulas alone
are evaluated in step (`Respells.runPass`): a formula that fails has references, so a reference to
it is not covered by its plain text, however that is spelled.  What a formula shows after a failure
does not depend on its text either, so every cell gets the same verdict (`Respells.verdict`).
-/

namespace Spreadsheet

/-! ## Trees -/

/-- A number has its value with either separator. -/
theorem literalValue_plainNumber {text : String} {x : Float} (h : literalValue text = .ok x) :
    literalValue (plainNumber text) = .ok x := by
  have hpoint : ((fun c => if c = ',' then '.' else c) ∘ fun c => if c = ',' then '.' else c)
      = fun c : Char => if c = ',' then '.' else c := by
    funext c
    by_cases hc : c = ',' <;> simp [hc]
  rw [literalValue] at h ⊢
  rw [plainNumber, String.toList_ofList, List.map_map, hpoint]
  split at h
  · exact h
  · cases h

namespace Expr

variable {e e' : Expr} {resolve : String → Pass → PassResult Float}

theorem references_plain : ∀ e : Expr, e.plain.references = e.references
  | number _ | reference _ => rfl
  | unary _ operand => references_plain operand
  | binary _ left right => by
      rw [plain, references, references, references_plain left, references_plain right]
  | call _ argument => references_plain argument
  | formula inner => references_plain inner

theorem singleReference?_plain : ∀ e : Expr, e.plain.singleReference? = e.singleReference?
  | number _ | reference _ | unary .. | binary .. | call .. => rfl
  | formula inner => singleReference?_plain inner

/-- **Neither markers nor separators matter to an evaluation.** -/
theorem evaluate_plain : ∀ {e : Expr}, e.Readable → ∀ p,
    e.plain.evaluate resolve p = e.evaluate resolve p
  | number text, he, p => by
      obtain ⟨x, hx⟩ := he text (by simp [leaves])
      rw [plain, evaluate, evaluate, hx, literalValue_plainNumber hx]
  | reference _, _, _ => rfl
  | formula inner, he, p => evaluate_plain (e := inner) he p
  | unary sign operand, he, p => by
      rw [plain, evaluate_unary, evaluate_unary, evaluate_plain (e := operand) he]
  | call f argument, he, p => by
      rw [plain, evaluate_call, evaluate_call, evaluate_plain (e := argument) he]
  | binary op left right, he, p => by
      have hright : right.plain.evaluate resolve = right.evaluate resolve :=
        funext (evaluate_plain he.right)
      rw [plain, evaluate_binary, evaluate_binary, evaluate_plain he.left, hright]

theorem evaluate_of_plain_eq (he : e.Readable) (he' : e'.Readable) (h : e'.plain = e.plain)
    (p : Pass) : e'.evaluate resolve p = e.evaluate resolve p := by
  rw [← evaluate_plain he', h, evaluate_plain he]

/-- **A formula without references has a value.** -/
theorem exists_evaluate_of_references_eq_nil : ∀ {e : Expr}, e.Readable → e.references = [] →
    ∀ p, ∃ x, e.evaluate resolve p = (.ok x, p)
  | number text, he, _, p => by
      obtain ⟨x, hx⟩ := he text (by simp [leaves])
      exact ⟨.number x, by rw [evaluate, hx]; rfl⟩
  | formula inner, he, h, p => exists_evaluate_of_references_eq_nil (e := inner) he h p
  | unary sign operand, he, h, p => by
      obtain ⟨x, hx⟩ := exists_evaluate_of_references_eq_nil (e := operand) he h p
      exact ⟨_, by rw [evaluate, hx]⟩
  | call f argument, he, h, p => by
      obtain ⟨x, hx⟩ := exists_evaluate_of_references_eq_nil (e := argument) he h p
      exact ⟨_, by rw [evaluate, hx]⟩
  | binary op left right, he, h, p => by
      obtain ⟨hleft, hright⟩ := List.append_eq_nil_iff.mp h
      obtain ⟨x, hx⟩ := exists_evaluate_of_references_eq_nil he.left hleft p
      obtain ⟨y, hy⟩ := exists_evaluate_of_references_eq_nil he.right hright p
      exact ⟨_, by rw [evaluate, hx]; dsimp only; rw [hy]⟩

end Expr

/-! ## Sheets that differ in spelling -/

/-- Two texts are the same, or they are formulas that differ in markers and separators alone. -/
def ReadAlike (text text' : String) : Prop :=
  text' = text
    ∨ ∃ e e', parseFormula text = .ok e ∧ parseFormula text' = .ok e' ∧ e'.plain = e.plain

/-- Two cells that differ in the spelling of a formula at most. -/
structure Cell.Respells (c c' : Cell) : Prop where
  id : c'.id = c.id
  position : c'.position = c.position
  text : ReadAlike c.text c'.text
  value : c'.value = c.value
  dependents : c'.dependents = c.dependents

theorem Cell.Respells.refl (c : Cell) : c.Respells c := ⟨rfl, rfl, .inl rfl, rfl, rfl⟩

namespace Sheet

variable {s t : Sheet} {id : CellId} {config : Config} {f : Cell → Cell}

/-- **Two sheets that differ in the spelling of formulas at most.** -/
structure Respells (s t : Sheet) : Prop where
  grid : t.grid = s.grid
  size : t.slots.size = s.slots.size
  cell : ∀ id, Option.Rel Cell.Respells (s.cell? id) (t.cell? id)

namespace Respells

variable (h : s.Respells t)

include h

theorem lookup (name : String) : t.lookup name = s.lookup name := by
  rw [Sheet.lookup, Sheet.lookup]
  simp only [idAt, h.grid]

/-- A cell is in both sheets or in neither. -/
theorem cells (id : CellId) : s.cell? id = none ∧ t.cell? id = none
    ∨ ∃ c c', s.cell? id = some c ∧ t.cell? id = some c' ∧ c.Respells c' := by
  have hcell := h.cell id
  generalize s.cell? id = a, t.cell? id = b at hcell
  rcases hcell with hc | _
  · exact .inr ⟨_, _, rfl, rfl, hc⟩
  · exact .inl ⟨rfl, rfl⟩

theorem valueOf (id : CellId) : t.valueOf id = s.valueOf id := by
  obtain ⟨hsc, htc⟩ | ⟨c, c', hsc, htc, hc⟩ := h.cells id
  · rw [Sheet.valueOf, Sheet.valueOf, hsc, htc]
  · rw [Sheet.valueOf, Sheet.valueOf, hsc, htc]
    exact hc.value

theorem dependentsOf (id : CellId) : t.dependentsOf id = s.dependentsOf id := by
  obtain ⟨hsc, htc⟩ | ⟨c, c', hsc, htc, hc⟩ := h.cells id
  · rw [Sheet.dependentsOf, Sheet.dependentsOf, hsc, htc]
  · rw [Sheet.dependentsOf, Sheet.dependentsOf, hsc, htc]
    exact hc.dependents

theorem nameOf (id : CellId) : t.nameOf id = s.nameOf id := by
  obtain ⟨hsc, htc⟩ | ⟨c, c', hsc, htc, hc⟩ := h.cells id
  · rw [Sheet.nameOf, Sheet.nameOf, hsc, htc]
  · rw [Sheet.nameOf, Sheet.nameOf, hsc, htc]
    exact congrArg Position.name hc.position

theorem consistent (hs : s.Consistent) : t.Consistent := by
  refine hs.of_places h.grid fun id => ?_
  obtain ⟨hsc, htc⟩ | ⟨c, c', hsc, htc, hc⟩ := h.cells id
  · rw [place?, place?, hsc, htc]
  · simp [place?, hsc, htc, hc.id, hc.position]

theorem modifyCell (id : CellId) (hf : ∀ c c', Cell.Respells c c' → (f c).Respells (f c')) :
    (s.modifyCell id f).Respells (t.modifyCell id f) where
  grid := h.grid
  size := by rw [size_slots_modifyCell, size_slots_modifyCell, h.size]
  cell j := by
    rw [cell?_modifyCell, cell?_modifyCell]
    split
    · match s.cell? j, t.cell? j, h.cell j with
      | _, _, .none => exact .none
      | _, _, .some hc => exact .some (hf _ _ hc)
    · exact h.cell j

theorem mapCells (hf : ∀ c c', Cell.Respells c c' → (f c).Respells (f c')) :
    (s.mapCells f).Respells (t.mapCells f) where
  grid := h.grid
  size := by rw [size_slots_mapCells, size_slots_mapCells, h.size]
  cell j := by
    rw [cell?_mapCells, cell?_mapCells]
    match s.cell? j, t.cell? j, h.cell j with
    | _, _, .none => exact .none
    | _, _, .some hc => exact .some (hf _ _ hc)

theorem setValue (id : CellId) (value : String) :
    (s.setValue id value).Respells (t.setValue id value) :=
  h.modifyCell id fun _ _ hc => ⟨hc.id, hc.position, hc.text, rfl, hc.dependents⟩

theorem addDependent (source dependent : CellId) :
    (s.addDependent source dependent).Respells (t.addDependent source dependent) := by
  refine h.modifyCell source fun c c' hc => ?_
  rw [Cell.addDependent, Cell.addDependent, hc.dependents]
  split
  · exact hc
  · exact ⟨hc.id, hc.position, hc.text, hc.value, by simp⟩

theorem record : ∀ references, (s.record references).Respells (t.record references)
  | [] => h
  | reference :: references => (record references).addDependent reference.1 reference.2

theorem clearDependents : s.clearDependents.Respells t.clearDependents :=
  h.mapCells fun _ _ hc => ⟨hc.id, hc.position, hc.text, hc.value, rfl⟩

/-! ## Evaluation -/

theorem evaluateText : t.evaluateText = s.evaluateText := by
  funext resolve id p
  rw [Sheet.evaluateText, Sheet.evaluateText]
  obtain ⟨hsc, htc⟩ | ⟨c, c', hsc, htc, hc⟩ := h.cells id
  · rw [hsc, htc]
  · rw [hsc, htc]
    dsimp only
    rcases hc.text with heq | ⟨e, e', he, he', hplain⟩
    · rw [heq]
    · rw [he, he']
      exact Expr.evaluate_of_plain_eq (readable_of_parse he) (readable_of_parse he') hplain _

/-- **The plain text of a formula never matters**: one without references has a value, and a text
with a value of its own is no formula with references. -/
theorem referenceValue (resolve : String → Pass → PassResult Float) (id : CellId) (p : Pass) :
    t.referenceValue id (s.evaluateText resolve id p).1
      = s.referenceValue id (s.evaluateText resolve id p).1 := by
  obtain ⟨hs, ht⟩ | ⟨c, c', hs, ht, hc⟩ := h.cells id
  · simp [Sheet.evaluateText, Sheet.referenceValue, hs, ht]
  · rcases hc.text with heq | ⟨e, e', he, he', hplain⟩
    · simp only [Sheet.referenceValue, hs, ht, Option.bind_some, heq]
    · have hrefs : e'.references = e.references := by
        rw [← Expr.references_plain e', hplain, Expr.references_plain]
      simp only [Sheet.evaluateText, hs, he]
      by_cases hnil : e.references = []
      · obtain ⟨x, hx⟩ := @Expr.exists_evaluate_of_references_eq_nil resolve _
          (readable_of_parse he) hnil (p.count id)
        rw [hx]
        rfl
      · have hnone : ∀ {text : String} {e : Expr}, parseFormula text = .ok e → e.references ≠ [] →
            scalarValue? text = none := by
          intro text e he hne
          by_contra hsome
          obtain ⟨x, hx⟩ := Option.ne_none_iff_exists'.mp hsome
          exact hne (references_eq_nil_of_scalarValue? he hx)
        have hscalar := hnone he hnil
        have hscalar' := hnone he' (hrefs ▸ hnil)
        rcases (e.evaluate resolve (p.count id)).1 with err | x
        · simp [Sheet.referenceValue, hs, ht, hscalar, hscalar']
        · rfl

theorem resolveWithin (depth : Nat) : t.resolveWithin depth = s.resolveWithin depth := by
  induction depth with
  | zero =>
    funext current name p
    rw [Sheet.resolveWithin, Sheet.resolveWithin, h.lookup]
  | succ depth ih =>
    funext current name p
    rw [Sheet.resolveWithin, Sheet.resolveWithin, h.lookup]
    simp only [ih, h.evaluateText, h.referenceValue]

/-- **Sheets that differ in spelling are evaluated in step.** -/
theorem runPass (id : CellId) : t.runPass id = s.runPass id := by
  rw [Sheet.runPass, Sheet.runPass, runPassWithin, runPassWithin, h.size, h.evaluateText,
    h.resolveWithin]

theorem plainEvaluate (id : CellId) : t.plainEvaluate id = s.plainEvaluate id := by
  rw [← evaluate_fst, ← evaluate_fst]
  show (t.runPass id).1 = (s.runPass id).1
  rw [h.runPass]

/-! ## Verdicts -/

theorem recover (text : String) : t.recover text = s.recover text := by
  refine recover_congr text fun name => ?_
  rw [cellNamed?, cellNamed?, h.lookup]
  rcases s.lookup name with _ | id
  · rfl
  · obtain ⟨hsc, htc⟩ | ⟨c, c', hsc, htc, hc⟩ := h.cells id
    · simp [hsc, htc]
    · simp [hsc, htc, hc.id, hc.value]

/-- What a formula shows after a failure does not depend on its spelling. -/
theorem recover_of_formula (hs : s.Consistent) {text text' : String} {e e' : Expr} {err : EvalError}
    (htext : s.text? id = some text) (htext' : t.text? id = some text')
    (he : parseFormula text = .ok e) (he' : parseFormula text' = .ok e')
    (hplain : e'.plain = e.plain)
    (herr : s.plainEvaluate id = .error err) (hrecoverable : err.isRecoverable = true) :
    t.recover text' = s.recover text := by
  have hsingle : e'.singleReference? = e.singleReference? := by
    rw [← Expr.singleReference?_plain, hplain, Expr.singleReference?_plain]
  have herr' := (h.plainEvaluate id).trans herr
  rcases hs.recover_of_formula htext he herr hrecoverable with
    ⟨name, source, hname, hlookup, hrecover⟩ | ⟨hnone, hrecover⟩
  · rcases (h.consistent hs).recover_of_formula htext' he' herr' hrecoverable with
      ⟨name', source', hname', hlookup', hrecover'⟩ | ⟨hnone', -⟩
    · obtain rfl := Option.some.inj (hname'.symm.trans (hsingle.trans hname))
      rw [h.lookup, hlookup] at hlookup'
      obtain rfl := Option.some.inj hlookup'
      rw [hrecover, hrecover', h.valueOf]
    · cases hnone'.symm.trans (hsingle.trans hname)
  · rcases (h.consistent hs).recover_of_formula htext' he' herr' hrecoverable with
      ⟨name', source', hname', -⟩ | ⟨-, hrecover'⟩
    · cases hname'.symm.trans (hsingle.trans hnone)
    · rw [hrecover, hrecover']

/-- **Spelling does not matter to what a cell shows.** -/
theorem verdict (hs : s.Consistent) (id : CellId) : t.verdict id = s.verdict id := by
  rw [Sheet.verdict, Sheet.verdict, h.plainEvaluate]
  obtain ⟨hsc, htc⟩ | ⟨c, c', hsc, htc, hc⟩ := h.cells id
  · simp [text?, hsc, htc]
  · have htext := text?_of_cell? hsc
    have htext' := text?_of_cell? htc
    rw [htext, htext']
    dsimp only
    rcases hc.text with heq | ⟨e, e', he, he', hplain⟩
    · rw [heq, judge_congr c.text _ (h.recover c.text)]
    · have hne : c.text ≠ "" := fun hempty => parseFormula_empty (hempty ▸ he)
      have hne' : c'.text ≠ "" := fun hempty => parseFormula_empty (hempty ▸ he')
      rw [if_neg hne, if_neg hne']
      have hrecover : ∀ {err}, s.plainEvaluate id = .error err → err.isRecoverable = true →
          t.recover c'.text = s.recover c.text := fun herr =>
        h.recover_of_formula hs htext htext' he he' hplain herr
      rcases herr : s.plainEvaluate id with (name | name | fault | number) | x
      · rfl
      · rfl
      · simp only [judge, hrecover herr rfl]
      · simp only [judge, hrecover herr rfl]
      · rfl

theorem noted (id : CellId) : t.noted id = s.noted id := by
  rw [Sheet.noted, Sheet.noted, h.runPass]
  obtain ⟨hsc, htc⟩ | ⟨c, c', hsc, htc, hc⟩ := h.cells id
  · simp [text?, hsc, htc]
  · have htext := text?_of_cell? hsc
    have htext' := text?_of_cell? htc
    rw [htext, htext']
    dsimp only
    rcases hc.text with heq | ⟨e, e', he, he', -⟩
    · rw [heq]
    · have hne : c.text ≠ "" := fun hempty => parseFormula_empty (hempty ▸ he)
      have hne' : c'.text ≠ "" := fun hempty => parseFormula_empty (hempty ▸ he')
      rw [if_neg hne, if_neg hne']

end Respells

end Sheet

end Spreadsheet
