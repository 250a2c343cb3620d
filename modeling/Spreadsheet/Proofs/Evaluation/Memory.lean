import Spreadsheet.Proofs.Evaluation.Grounded
import Mathlib.Data.List.Nodup
import Std.Data.TreeMap.Lemmas

/-!
# Proofs/Evaluation/Memory — the results a pass keeps change nothing

A pass evaluates each cell once and answers later references from memory; the plain evaluator
evaluates it again.  As long as nothing has failed, every result in memory is the value of a
grounded cell, and such a cell never leads back to a cell being evaluated: the memory answers as a
new evaluation would (`evaluate_eq_plainEvaluate`).
-/

namespace Spreadsheet

/-- A step of a pass yields what is expected, and the pass after it is as success or failure
promises. -/
def Yields {α : Type} (step : PassResult α) (expected : Except EvalError α) (done : Pass → Prop)
    (failed : EvalError → Pass → Prop) : Prop :=
  step.1 = expected ∧ match expected with
    | .ok _ => done step.2
    | .error e => failed e step.2

namespace Yields

variable {α β : Type} {step : PassResult α} {expected : Except EvalError α}
  {done done' : Pass → Prop}
  {failed failed' : EvalError → Pass → Prop}

theorem imp (h : Yields step expected done failed) (hdone : ∀ x, expected = .ok x → done step.2 →
    done' step.2) (hfailed : ∀ e, expected = .error e → failed e step.2 → failed' e step.2) :
    Yields step expected done' failed' := by
  refine ⟨h.1, ?_⟩
  cases expected with
  | ok x => exact hdone x rfl h.2
  | error e => exact hfailed e rfl h.2

theorem of_ok (h : Yields step expected done failed) {x : α} (hx : step.1 = .ok x) :
    done step.2 := by
  obtain ⟨rfl, hafter⟩ := h
  rw [hx] at hafter
  exact hafter

theorem of_error (h : Yields step expected done failed) {e : EvalError} (he : step.1 = .error e) :
    failed e step.2 := by
  obtain ⟨rfl, hafter⟩ := h
  rw [he] at hafter
  exact hafter

theorem map (f : α → β) (h : Yields step expected done failed) :
    Yields (step.1.map f, step.2) (expected.map f) done failed := by
  refine ⟨congrArg (Except.map f) h.1, ?_⟩
  cases expected with
  | ok x => exact h.2
  | error e => exact h.2

end Yields

namespace Expr

variable {resolve : String → Pass → PassResult Float}

theorem evaluate_unary (sign : Sign) (operand : Expr) (p : Pass) :
    (unary sign operand).evaluate resolve p = ((operand.evaluate resolve p).1.map fun x =>
      .number (sign.apply x.value), (operand.evaluate resolve p).2) := by
  rw [evaluate]
  split <;> simp_all [Except.map]

theorem evaluate_call (f : Builtin) (argument : Expr) (p : Pass) :
    (call f argument).evaluate resolve p = ((argument.evaluate resolve p).1.map fun x =>
      f.apply x.value, (argument.evaluate resolve p).2) := by
  rw [evaluate]
  split <;> simp_all [Except.map]

theorem evaluate_binary (op : BinaryOp) (left right : Expr) (p : Pass) :
    (binary op left right).evaluate resolve p = match left.evaluate resolve p with
      | (.error e, p) => (.error e, p)
      | (.ok x, p) => ((right.evaluate resolve p).1.map fun y => op.apply x.value y.value,
          (right.evaluate resolve p).2) := by
  rw [evaluate]
  cases left.evaluate resolve p with
  | mk result p' =>
    cases result with
    | error e => rfl
    | ok x =>
      dsimp only
      cases right.evaluate resolve p' with
      | mk result' q => cases result' <;> rfl

/-- **Evaluating a formula resolves its references in order** — `before p` holds when a list of
references has been resolved and the pass is `p`; a failure ends the evaluation. -/
theorem evaluate_yields {read : String → Except EvalError Float} {names : List String}
    {before : List String → Pass → Prop} {failed : EvalError → Pass → Prop}
    (hstep : ∀ earlier name later p, names = earlier ++ name :: later → before earlier p →
      Yields (resolve name p) (read name) (before (earlier ++ [name])) failed) :
    ∀ {e : Expr} {earlier later : List String} {p : Pass}, e.Readable →
      names = earlier ++ (e.references ++ later) → before earlier p →
      Yields (e.evaluate resolve p) (e.value read) (before (earlier ++ e.references)) failed
  | number text, earlier, later, p, he, _, hp => by
      obtain ⟨x, hx⟩ := he text List.mem_cons_self
      simpa [Yields, evaluate, value, references, hx, Except.map] using hp
  | reference name, earlier, later, p, _, hn, hp => (hstep earlier name later p hn hp).map _
  | formula inner, earlier, later, p, he, hn, hp =>
      evaluate_yields (e := inner) hstep he hn hp
  | unary sign operand, earlier, later, p, he, hn, hp => by
      rw [evaluate_unary]
      exact (evaluate_yields (e := operand) hstep he hn hp).map _
  | call f argument, earlier, later, p, he, hn, hp => by
      rw [evaluate_call]
      exact (evaluate_yields (e := argument) hstep he hn hp).map _
  | binary op left right, earlier, later, p, he, hn, hp => by
      rw [references, List.append_assoc] at hn
      obtain ⟨hvalue, hafter⟩ := evaluate_yields (e := left) hstep he.left hn hp
      rw [evaluate_binary, value, references]
      cases hl : left.evaluate resolve p with
      | mk result p' =>
        rw [hl] at hvalue hafter
        obtain rfl : result = left.value read := hvalue
        cases hv : left.value read with
        | error err => simpa [Yields, hv] using hafter
        | ok x =>
          rw [← List.append_assoc]
          rw [hv] at hafter
          exact (evaluate_yields (e := right) (p := p') hstep he.right
            (by rw [hn, List.append_assoc]) hafter).map _

end Expr

namespace Pass

/-! ## The parts of a pass -/

@[simp] theorem inProgress_note (target current : CellId) (p : Pass) :
    (p.note target current).inProgress = p.inProgress := rfl

@[simp] theorem references_note (target current : CellId) (p : Pass) :
    (p.note target current).references = (target, current) :: p.references := rfl

theorem inProgress_leave {id : CellId} {path : List CellId} {p : Pass}
    (h : p.inProgress = id :: path) : (p.leave id).inProgress = path := by
  rw [leave, h]
  exact List.erase_cons_head id path

theorem result?_remember (target id : CellId) (r : Except EvalError Float) (p : Pass) :
    (p.remember target r).result? id = if target = id then some r else p.result? id := by
  simp only [result?, remember, Std.TreeMap.getElem?_insert, Std.LawfulEqCmp.compare_eq_iff_eq]

end Pass

namespace Sheet

variable {s : Sheet}

/-! ## Resolving a reference -/

section

variable {depth : Nat} {current target : CellId} {name : String} {p : Pass}

/-- Evaluates the text of a cell that is referred to, and keeps what the reference reads. -/
def resolveNew (s : Sheet) (depth : Nat) (target : CellId) (p : Pass) : PassResult Float :=
  let step := s.evaluateText (s.resolveWithin depth target) target (p.enter target)
  let result := s.referenceValue target step.1
  (result, (step.2.leave target).remember target result)

theorem resolveWithin_of_missing (h : s.lookup name = none) :
    s.resolveWithin depth current name p = (.error (.missing name), p) := by
  rw [resolveWithin]
  simp only [h]

theorem resolveWithin_of_done {r : Except EvalError Float} (h : s.lookup name = some target)
    (hr : p.result? target = some r) :
    s.resolveWithin depth current name p = (r, p.note target current) := by
  have hr' : (p.note target current).result? target = some r := hr
  rw [resolveWithin]
  simp only [h, hr']

theorem resolveWithin_of_back (h : s.lookup name = some target) (hopen : p.result? target = none)
    (hback : target ∈ p.inProgress ∨ depth = 0) :
    s.resolveWithin depth current name p = (.error (.cycle name), p.note target current) := by
  have hopen' : (p.note target current).result? target = none := hopen
  rw [resolveWithin]
  simp only [h, hopen']
  split
  · rfl
  · rename_i hprogress
    rcases hback with hmem | rfl
    · exact absurd (decide_eq_true hmem) hprogress
    · rfl

theorem resolveWithin_of_new (h : s.lookup name = some target) (hopen : p.result? target = none)
    (hnew : target ∉ p.inProgress) : s.resolveWithin (depth + 1) current name p
      = s.resolveNew depth target (p.note target current) := by
  have hopen' : (p.note target current).result? target = none := hopen
  have hprogress : (p.note target current).isInProgress target = false := decide_eq_false hnew
  rw [resolveWithin]
  simp only [h, hopen', hprogress]
  rfl

/-- **What resolving a reference comes to** — the name leads nowhere, to a cell that is done, back
to a cell in progress, deeper than allowed, or to a cell whose text is evaluated now. -/
theorem resolveWithin_cases {motive : PassResult Float → Prop}
    (missing : s.lookup name = none → motive (.error (.missing name), p))
    (done : ∀ target r, s.lookup name = some target → p.result? target = some r →
      motive (r, p.note target current))
    (back : ∀ target, s.lookup name = some target → p.result? target = none →
      target ∈ p.inProgress ∨ depth = 0 → motive (.error (.cycle name), p.note target current))
    (new : ∀ target deeper, s.lookup name = some target → p.result? target = none →
      target ∉ p.inProgress → depth = deeper + 1 →
      motive (s.resolveNew deeper target (p.note target current))) :
    motive (s.resolveWithin depth current name p) := by
  cases h : s.lookup name with
  | none =>
    rw [resolveWithin_of_missing h]
    exact missing h
  | some target =>
    cases hopen : p.result? target with
    | some r =>
      rw [resolveWithin_of_done h hopen]
      exact done target r h hopen
    | none =>
      by_cases hback : target ∈ p.inProgress ∨ depth = 0
      · rw [resolveWithin_of_back h hopen hback]
        exact back target h hopen hback
      · obtain ⟨hnew, hdepth⟩ := not_or.mp hback
        obtain ⟨deeper, rfl⟩ := Nat.exists_eq_succ_of_ne_zero hdepth
        rw [resolveWithin_of_new h hopen hnew]
        exact new target deeper h hopen hnew rfl

end

/-! ## The path of references -/

/-- A path of references to a cell: distinct cells, each of which leads there. -/
structure Trail (s : Sheet) (path : List CellId) (current : CellId) : Prop where
  nodup : path.Nodup
  live : ∀ id ∈ path, s.isLive id = true
  reaches : ∀ id ∈ path, s.Reaches id current

namespace Trail

variable {path : List CellId} {current target : CellId}

theorem singleton {id : CellId} (h : s.isLive id = true) : s.Trail [id] id :=
  ⟨List.nodup_singleton id, by simpa using h, fun _ hid => List.mem_singleton.mp hid ▸ .refl⟩

/-- A path is no longer than there are cells. -/
theorem length_le (h : s.Trail path current) : path.length ≤ s.slots.size := by
  have hinj : Function.Injective CellId.index := fun a b hab => by cases a; cases b; simp_all
  have hsub : path.map CellId.index ⊆ List.range s.slots.size := fun i hi => by
    obtain ⟨id, hid, rfl⟩ := List.mem_map.mp hi
    obtain ⟨c, hc⟩ := isLive_iff.mp (h.live id hid)
    exact List.mem_range.mpr (index_lt_of_cell? hc)
  simpa using (h.nodup.map hinj).length_le_of_subset hsub

theorem cons (h : s.Trail path current) (hstep : s.RefersTo current target)
    (hnew : target ∉ path) (hlive : s.isLive target = true) : s.Trail (target :: path) target where
  nodup := List.nodup_cons.mpr ⟨hnew, h.nodup⟩
  live id hid := (List.mem_cons.mp hid).elim (· ▸ hlive) (h.live id)
  reaches id hid := (List.mem_cons.mp hid).elim (· ▸ .refl) fun hid => (h.reaches id hid).tail hstep

/-- **A grounded cell never leads back to a cell that refers to it.** -/
theorem not_reaches (h : s.Trail path current) (hstep : s.RefersTo current target)
    (hg : s.Grounded target) : ∀ p ∈ path, ¬ s.Reaches target p := fun p hp hback =>
  hg.not_transGen (Relation.TransGen.tail' (hback.trans (h.reaches p hp)) hstep)

end Trail

/-! ## The memory -/

/-- The references met so far stand in the formulas of the cells that refer. -/
def NotesReferences (s : Sheet) (p : Pass) : Prop := ∀ r ∈ p.references, s.RefersTo r.2 r.1

/-- Nothing has failed: the cells on the path are being evaluated, and the memory holds values. -/
structure Faithful (s : Sheet) (path : List CellId) (p : Pass) : Prop where
  inProgress : p.inProgress = path
  results : ∀ id r, p.result? id = some r → ∃ x, r = .ok x ∧ s.Worth id x
  references : s.NotesReferences p

section

variable {path : List CellId} {current target : CellId} {p : Pass} (h : s.Faithful path p)
  (hstep : s.RefersTo current target)

include h hstep

/-- A reference is met. -/
theorem Faithful.note : s.Faithful path (p.note target current) :=
  ⟨h.inProgress, h.results, fun r hr =>
    (List.mem_cons.mp hr).elim (fun heq => heq ▸ hstep) (h.references r)⟩

/-- A reference is met, and the cell it leads to is entered. -/
theorem Faithful.enter : s.Faithful (target :: path) ((p.note target current).enter target) :=
  ⟨congrArg (target :: ·) h.inProgress, h.results, (h.note hstep).references⟩

end

theorem Faithful.count {path : List CellId} {p : Pass} (h : s.Faithful path p) (id : CellId) :
    s.Faithful path (p.count id) := ⟨h.inProgress, h.results, h.references⟩

/-- Evaluating the text of a cell, when resolving its references yields what they read. -/
theorem evaluateText_yields (resolve : String → Pass → PassResult Float)
    (read : String → Except EvalError Float) {id : CellId} {p : Pass}
    (before : List String → Pass → Prop) (failed : EvalError → Pass → Prop)
    (hstep : ∀ e, s.formula? id = some e → ∀ earlier name later p,
      e.references = earlier ++ name :: later → before earlier p →
        Yields (resolve name p) (read name) (before (earlier ++ [name])) failed)
    (hstart : before [] (p.count id))
    (hnone : ∀ err p', p' = p ∨ p' = p.count id → s.formula? id = none → failed err p') :
    Yields (s.evaluateText resolve id p) (s.plainText read id)
      (fun p' => ∃ e, s.formula? id = some e ∧ before e.references p') failed := by
  rw [evaluateText]
  cases he : s.formula? id with
  | some e =>
    obtain ⟨c, hc, hparse⟩ := formula?_eq_some_iff.mp he
    rw [plainText_of_formula? he]
    simp only [hc, hparse]
    have hnames : e.references = [] ++ (e.references ++ []) := by simp
    refine (Expr.evaluate_yields (hstep e he) (readable_of_formula? he) hnames hstart).imp
      (fun x _ h => ⟨e, rfl, h⟩) fun err _ h => h
  | none =>
    rcases plainText_of_formula?_eq_none read he with ⟨hc, hp⟩ | ⟨c, err, hc, hparse, hp⟩
    · simp only [hc, hp]
      exact ⟨rfl, hnone _ p (.inl rfl) he⟩
    · simp only [hc, hparse, hp]
      exact ⟨rfl, hnone _ _ (.inr rfl) he⟩

/-- What resolving a reference to a cell leaves when nothing has failed. -/
theorem Faithful.remember {path : List CellId} {target : CellId} {x : Float} {p : Pass}
    (h : s.Faithful (target :: path) p) (hx : s.Worth target x) :
    s.Faithful path ((p.leave target).remember target (.ok x)) where
  inProgress := Pass.inProgress_leave h.inProgress
  results id r hr := by
    rw [Pass.result?_remember] at hr
    split at hr
    · rename_i heq
      cases hr
      exact ⟨x, rfl, heq ▸ hx⟩
    · exact h.results id r hr
  references := h.references

/-- A path that a grounded cell ends has found out its worth. -/
theorem Trail.worth {path : List CellId} {current target : CellId} {name : String} {x : Float}
    (h : s.Trail path current) (hstep : s.RefersTo current target)
    (hlookup : s.lookup name = some target) (hread : s.plainReference path name = .ok x) :
    s.Worth target x := by
  obtain ⟨target', htarget', hg⟩ := grounded_of_plainReference hread
  obtain rfl := Option.some.inj (hlookup.symm.trans htarget')
  obtain ⟨x', hx'⟩ := hg.exists_worth
  have := hread.symm.trans (hx'.reads path name hlookup (h.not_reaches hstep hg))
  cases this
  exact hx'

section

variable {depth : Nat} {path : List CellId} {current target : CellId} {name : String} {p : Pass}
  (hp : s.Faithful (target :: path) p)
  (ih : ∀ e, s.formula? target = some e → ∀ inner ∈ e.references, ∀ p,
    s.Faithful (target :: path) p → Yields (s.resolveWithin depth target inner p)
      (s.plainReference (target :: path) inner) (s.Faithful (target :: path))
      fun _ => s.NotesReferences)

include hp ih in
/-- A text that is no formula fails before it resolves anything, and leaves the pass faithful. -/
theorem evaluateText_faithful :
    Yields (s.evaluateText (s.resolveWithin depth target) target p)
      (s.plainText (s.plainReference (target :: path)) target) (s.Faithful (target :: path))
      fun _ p' => s.NotesReferences p'
        ∧ (s.formula? target = none → s.Faithful (target :: path) p') := by
  have hcount := hp.count target
  refine (evaluateText_yields (s.resolveWithin depth target)
    (s.plainReference (target :: path)) (fun _ => s.Faithful (target :: path))
    (fun _ p' => s.NotesReferences p'
      ∧ (s.formula? target = none → s.Faithful (target :: path) p'))
    (fun e he earlier inner later p hrefs hp => (ih e he inner (by simp [hrefs]) p hp).imp
      (fun _ _ h => h) fun _ _ h => ⟨h, fun hnone => by simp [he] at hnone⟩)
    hcount (fun _ p' hp' _ => ?_)).imp (fun _ _ ⟨_, _, h⟩ => h) fun _ _ h => h
  rcases hp' with rfl | rfl
  · exact ⟨hp.references, fun _ => hp⟩
  · exact ⟨hcount.references, fun _ => hcount⟩

include hp ih in
/-- Resolving a reference to a new cell: its text is evaluated, and the result is kept. -/
theorem evaluateText_read (htrail : s.Trail path current) (hstep : s.RefersTo current target)
    (hlookup : s.lookup name = some target) (hmem : target ∉ path) :
    Yields
      (s.referenceValue target (s.evaluateText (s.resolveWithin depth target) target p).1,
        ((s.evaluateText (s.resolveWithin depth target) target p).2.leave target).remember target
          (s.referenceValue target (s.evaluateText (s.resolveWithin depth target) target p).1))
      (s.plainReference path name) (s.Faithful path) fun _ => s.NotesReferences := by
  obtain ⟨hvalue, hafter⟩ := evaluateText_faithful hp ih
  have hread : s.plainReference path name = s.referenceValue target
      (s.plainText (s.plainReference (target :: path)) target) := by
    rw [plainReference_of_lookup hlookup, if_neg hmem]
  rw [hvalue]
  refine ⟨hread.symm, ?_⟩
  cases hresult : s.plainReference path name with
  | error err =>
    show s.NotesReferences (s.evaluateText (s.resolveWithin depth target) target p).2
    cases hv : s.plainText (s.plainReference (target :: path)) target with
    | ok y => exact Faithful.references (hv ▸ hafter)
    | error err =>
      rw [hv] at hafter
      exact hafter.1
  | ok x =>
    have hworth := htrail.worth hstep hlookup hresult
    rw [← hread, hresult]
    refine Faithful.remember ?_ hworth
    cases hv : s.plainText (s.plainReference (target :: path)) target with
    | ok y =>
      rw [hv] at hafter
      exact hafter
    | error err =>
      rw [hv] at hafter
      exact hafter.2 (formula?_eq_none_of_covered hv (hread.symm.trans hresult))

end

/-- **Resolving a reference from memory yields what the plain evaluator reads** — along a path of
references, with depth left for every cell that is not on it. -/
theorem resolveWithin_yields : ∀ {depth : Nat} {path : List CellId} {current : CellId} {e : Expr}
    {name : String} {p : Pass}, s.Trail path current → s.slots.size < path.length + depth →
    s.formula? current = some e → name ∈ e.references → s.Faithful path p →
    Yields (s.resolveWithin depth current name p) (s.plainReference path name) (s.Faithful path)
      fun _ => s.NotesReferences := by
  intro depth
  induction depth with
  | zero =>
    intro path current e name p htrail hdepth
    exact absurd htrail.length_le (by omega)
  | succ depth ih =>
    intro path current e name p htrail hdepth he hname hp
    have hstep : ∀ target, s.lookup name = some target → s.RefersTo current target :=
      fun target hlookup => ⟨e, name, he, hname, hlookup⟩
    refine resolveWithin_cases (motive := fun step => Yields step (s.plainReference path name)
      (s.Faithful path) fun _ => s.NotesReferences) (fun hlookup => ?_)
      (fun target r hlookup hr => ?_) (fun target hlookup _ hback => ?_)
      fun target deeper hlookup _ hnew hdeeper => ?_
    · rw [plainReference_of_lookup_none hlookup]
      exact ⟨rfl, hp.references⟩
    · obtain ⟨x, rfl, hx⟩ := hp.results target r hr
      have hread := hx.reads path name hlookup
        (htrail.not_reaches (hstep target hlookup) hx.grounded)
      exact ⟨hread.symm, by rw [hread]; exact hp.note (hstep target hlookup)⟩
    · have hmem : target ∈ path := hp.inProgress ▸ hback.resolve_right (Nat.succ_ne_zero depth)
      rw [plainReference_of_lookup hlookup, if_pos hmem]
      exact ⟨rfl, (hp.note (hstep target hlookup)).references⟩
    · obtain rfl := Nat.succ.inj hdeeper
      rw [hp.inProgress] at hnew
      refine evaluateText_read (hp.enter (hstep target hlookup)) ?_ htrail (hstep target hlookup)
        hlookup hnew
      intro e' he' inner hinner p' hp'
      refine ih (htrail.cons (hstep target hlookup) hnew (isLive_of_formula? he')) ?_ he' hinner hp'
      rw [List.length_cons]
      omega

/-! ## A whole pass -/

/-- Before its first reference, a pass over a cell has that cell in progress and nothing else. -/
theorem faithful_start (id : CellId) :
    s.Faithful [id] ((Pass.start.enter id).count id) where
  inProgress := rfl
  results := by simp [Pass.result?, Pass.start, Pass.enter, Pass.count]
  references := by simp [NotesReferences, Pass.start, Pass.enter, Pass.count]

/-- Resolving the references of a cell in a pass over that cell. -/
theorem resolveWithin_yields_of_formula? {id : CellId} {e : Expr} {name : String} {p : Pass}
    (he : s.formula? id = some e) (hname : name ∈ e.references) (hp : s.Faithful [id] p) :
    Yields (s.resolveWithin s.slots.size id name p) (s.plainReference [id] name)
      (s.Faithful [id]) fun _ => s.NotesReferences :=
  resolveWithin_yields (Trail.singleton (isLive_of_formula? he)) (by simp) he hname hp

/-- **A pass yields what the plain evaluator does**, and every reference it met stands in the
formula of the cell that refers. -/
theorem runPass_yields (id : CellId) :
    (s.runPass id).1 = s.plainEvaluate id ∧ s.NotesReferences (s.runPass id).2 := by
  obtain ⟨hvalue, hafter⟩ := evaluateText_yields (s.resolveWithin s.slots.size id)
    (s.plainReference [id]) (fun _ => s.Faithful [id]) (fun _ => s.NotesReferences)
    (fun e he earlier name later p hrefs hp =>
      resolveWithin_yields_of_formula? he (by simp [hrefs]) hp)
    (faithful_start id)
    (fun _ p' hp' _ => by rcases hp' with rfl | rfl <;> exact (faithful_start id).references)
  refine ⟨hvalue, ?_⟩
  show s.NotesReferences (s.evaluateText _ id (Pass.start.enter id)).2
  cases hv : s.plainText (s.plainReference [id]) id with
  | ok y =>
    rw [hv] at hafter
    obtain ⟨_, _, hfaithful⟩ := hafter
    exact hfaithful.references
  | error err =>
    rw [hv] at hafter
    exact hafter

/-- An evaluation returns what the plain evaluator does. -/
theorem evaluate_fst (id : CellId) : (s.evaluate id).1 = s.plainEvaluate id := (runPass_yields id).1

end Sheet

/-- **An evaluator returns exactly what the plain evaluator returns**, whatever passes it ran
before — the same number and mark on success, and on failure the same error with the same name,
text and position. -/
theorem Evaluator.evaluate_eq_plainEvaluate (evaluator : Evaluator) (id : CellId) :
    (evaluator.evaluate id).1 = evaluator.sheet.plainEvaluate id :=
  (Sheet.runPass_yields id).1

end Spreadsheet
