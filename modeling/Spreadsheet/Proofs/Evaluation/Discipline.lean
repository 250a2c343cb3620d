import Spreadsheet.Proofs.Evaluation.Reads
import Spreadsheet.Proofs.Evaluation.Stored
import Spreadsheet.Proofs.Sheet.Indices

/-!
# Proofs/Evaluation/Discipline — how a pass keeps its books

Whatever becomes of an evaluation, a step of it leaves the cells in progress as it found them, and
a cell has been counted once when it is in progress or done and never otherwise (`Tidy`).  So the
path of references is a list of different cells, and a pass that may nest references once for each
further cell is as good as one that may nest them without end (`runPassWithin_eq`).  What is kept of
the cells that are done is of one piece as well: values as long as nothing failed, and after a
failure nothing but values and that very failure (`keepsOnly_resolveWithin`), since no cell with
references has a plain value that could stand in for it.
-/

namespace Spreadsheet

namespace Expr

/-- **Evaluating a formula uses how references are resolved only where the evaluation comes by.** -/
theorem evaluate_congr {resolve resolve' : String → Pass → PassResult Float} {along : Pass → Prop}
    (hkeep : ∀ name p, along p → along (resolve name p).2)
    (heq : ∀ name p, along p → resolve' name p = resolve name p) :
    ∀ (e : Expr) (p : Pass), along p → e.evaluate resolve' p = e.evaluate resolve p
  | number _, _, _ => rfl
  | reference name, p, hp => by rw [evaluate, evaluate, heq name p hp]
  | formula inner, p, hp => evaluate_congr hkeep heq inner p hp
  | unary sign operand, p, hp => by
      rw [evaluate_unary, evaluate_unary, evaluate_congr hkeep heq operand p hp]
  | call f argument, p, hp => by
      rw [evaluate_call, evaluate_call, evaluate_congr hkeep heq argument p hp]
  | binary op left right, p, hp => by
      have hafter : along (left.evaluate resolve p).2 :=
        evaluate_keeps (fun p q => along p → along q) (fun _ h => h)
          (fun _ _ _ h h' hp => h' (h hp)) hkeep left p hp
      rw [evaluate_binary, evaluate_binary, evaluate_congr hkeep heq left p hp]
      cases hleft : left.evaluate resolve p with
      | mk result p' =>
        rw [hleft] at hafter
        cases result with
        | error err => rfl
        | ok x =>
          dsimp only
          rw [evaluate_congr hkeep heq right p' hafter]

end Expr

namespace Pass

theorem evaluationCount_count {p : Pass} {id j : CellId} : (p.count id).evaluationCount j =
    if id = j then p.evaluationCount id + 1 else p.evaluationCount j := by
  simp only [evaluationCount, count, Std.TreeMap.getElem?_insert,
    Std.LawfulEqCmp.compare_eq_iff_eq]
  split <;> rfl

end Pass

namespace Sheet

variable {s : Sheet} {id current target : CellId} {p q : Pass}

/-! ## Cells in progress -/

/-- The books of a pass are in order. -/
structure Tidy (s : Sheet) (p : Pass) : Prop where
  nodup : p.inProgress.Nodup
  live : ∀ j ∈ p.inProgress, s.isLive j = true
  /-- No cell is in progress and done. -/
  apart : ∀ j ∈ p.inProgress, p.result? j = none
  /-- The text of a cell was evaluated once if the cell is in progress or done, and else never. -/
  counted : ∀ j, p.evaluationCount j = if j ∈ p.inProgress ∨ (p.result? j).isSome then 1 else 0

/-- Every cell that is done has a name. -/
def NamesDone (s : Sheet) (p : Pass) : Prop :=
  ∀ j, (p.result? j).isSome → ∃ name, s.lookup name = some j

/-- What every step of a pass keeps: the cells in progress, and the order of the books. -/
structure Balances (s : Sheet) (p q : Pass) : Prop where
  inProgress : q.inProgress = p.inProgress
  tidy : s.Tidy p → s.Tidy q
  named : s.NamesDone p → s.NamesDone q

theorem Balances.refl (p : Pass) : s.Balances p p := ⟨rfl, id, id⟩

theorem Balances.trans {r : Pass} (h : s.Balances p q) (h' : s.Balances q r) : s.Balances p r :=
  ⟨h'.inProgress.trans h.inProgress, h'.tidy ∘ h.tidy, h'.named ∘ h.named⟩

theorem balances_note (p : Pass) (target current : CellId) :
    s.Balances p (p.note target current) :=
  ⟨rfl, fun h => ⟨h.nodup, h.live, h.apart, h.counted⟩, id⟩

/-- There are no more cells in progress than cells. -/
theorem Tidy.length_le (h : s.Tidy p) : p.inProgress.length ≤ s.size := by
  rw [← length_liveIds]
  exact h.nodup.length_le_of_subset fun j hj => mem_liveIds_iff.mpr (h.live j hj)

/-- The evaluation of a text begins. -/
theorem Tidy.enter (h : s.Tidy p) (hlive : s.isLive id = true) (hnew : id ∉ p.inProgress)
    (hopen : p.result? id = none) : s.Tidy ((p.enter id).count id) where
  nodup := List.nodup_cons.mpr ⟨hnew, h.nodup⟩
  live j hj := (List.mem_cons.mp hj).elim (· ▸ hlive) (h.live j)
  apart j hj := (List.mem_cons.mp hj).elim (· ▸ hopen) (h.apart j)
  counted j := by
    have hcount : p.evaluationCount id = 0 := by simp [h.counted, hnew, hopen]
    rw [Pass.evaluationCount_count]
    show (if id = j then p.evaluationCount id + 1 else p.evaluationCount j)
      = if j ∈ id :: p.inProgress ∨ (p.result? j).isSome then 1 else 0
    by_cases hj : id = j
    · simp [← hj, hcount]
    · rw [if_neg hj, h.counted]
      simp [Ne.symm hj]

/-- The evaluation of a text ends, and its result is kept. -/
theorem Tidy.finish {path : List CellId} (h : s.Tidy p) (hpath : p.inProgress = id :: path)
    (r : Except EvalError Float) : s.Tidy ((p.leave id).remember id r) := by
  have hleft : ((p.leave id).remember id r).inProgress = path := Pass.inProgress_leave hpath
  have hkept : ∀ j, ((p.leave id).remember id r).result? j
      = if id = j then some r else p.result? j := fun j => Pass.result?_remember id j r _
  obtain ⟨hnew, hnodup⟩ := List.nodup_cons.mp (hpath ▸ h.nodup)
  have hne : ∀ j ∈ path, id ≠ j := fun j hj heq => hnew (heq ▸ hj)
  have hmem : ∀ j ∈ path, j ∈ p.inProgress := fun j hj => hpath ▸ List.mem_cons_of_mem _ hj
  constructor
  case nodup => exact hleft ▸ hnodup
  case live => exact fun j hj => h.live j (hmem j (hleft ▸ hj))
  case apart =>
    intro j hj
    rw [hleft] at hj
    rw [hkept, if_neg (hne j hj)]
    exact h.apart j (hmem j hj)
  case counted =>
    intro j
    show p.evaluationCount j = _
    rw [h.counted, hleft, hkept, hpath]
    by_cases hj : id = j
    · simp [← hj]
    · simp [hj, Ne.symm hj]

theorem NamesDone.finish {name : String} (h : s.NamesDone p) (hname : s.lookup name = some id)
    (r : Except EvalError Float) : s.NamesDone ((p.leave id).remember id r) := by
  intro j hj
  rw [Pass.result?_remember] at hj
  split at hj
  · rename_i heq
    exact ⟨name, heq ▸ hname⟩
  · exact h j hj

/-- Evaluating the text of a cell balances when resolving references does. -/
theorem balances_evaluateText {resolve : String → Pass → PassResult Float}
    (hlive : s.isLive id = true) (hstep : ∀ name p, s.Balances p (resolve name p).2) (p : Pass) :
    s.Balances (p.count id) (s.evaluateText resolve id p).2 := by
  obtain ⟨c, hc⟩ := isLive_iff.mp hlive
  simp only [evaluateText, hc]
  split
  · exact .refl _
  · exact Expr.evaluate_keeps s.Balances .refl (fun _ _ _ => .trans) hstep _ _

/-- **Resolving a reference balances**, whether or not it fails. -/
theorem balances_resolveWithin (hs : s.Consistent) : ∀ (depth : Nat) (current : CellId)
    (name : String) (p : Pass), s.Balances p (s.resolveWithin depth current name p).2 := by
  intro depth
  induction depth using Nat.strong_induction_on with
  | _ depth ih =>
    intro current name p
    refine resolveWithin_cases (motive := fun step => s.Balances p step.2) (fun _ => .refl p)
      (fun target _ _ _ => balances_note p target current)
      (fun target _ _ _ => balances_note p target current)
      fun target deeper hlookup hopen hnew hdeeper => (balances_note p target current).trans ?_
    have hlive := hs.isLive_of_lookup hlookup
    have hinner := balances_evaluateText hlive (ih deeper (by omega) target)
      ((p.note target current).enter target)
    constructor
    case inProgress => exact Pass.inProgress_leave hinner.inProgress
    case tidy =>
      exact fun h => (hinner.tidy (h.enter hlive hnew hopen)).finish hinner.inProgress _
    case named => exact fun h => (hinner.named h).finish hlookup _

/-! ## How deep references nest -/

/-- Evaluating the text of a cell, when its references may nest deeper to no effect. -/
theorem evaluateText_deeper (hs : s.Consistent) {depth more : Nat} {path : List CellId}
    (hmore : ∀ name q, s.Tidy q → q.inProgress = path →
      s.resolveWithin (depth + more) id name q = s.resolveWithin depth id name q)
    (hp : s.Tidy (p.count id)) (hpath : p.inProgress = path) :
    s.evaluateText (s.resolveWithin (depth + more) id) id p
      = s.evaluateText (s.resolveWithin depth id) id p := by
  have hkeep : ∀ name q, s.Tidy q ∧ q.inProgress = path →
      s.Tidy (s.resolveWithin depth id name q).2
        ∧ (s.resolveWithin depth id name q).2.inProgress = path := fun name q hq =>
    have hbalances := balances_resolveWithin hs depth id name q
    ⟨hbalances.tidy hq.1, hbalances.inProgress.trans hq.2⟩
  rw [evaluateText, evaluateText]
  split
  · rfl
  · split
    · rfl
    · exact Expr.evaluate_congr hkeep (fun name q hq => hmore name q hq.1 hq.2) _ _ ⟨hp, hpath⟩

/-- **Deeper references are not met** — with depth left for every cell that is not in progress, more
depth makes no difference. -/
theorem resolveWithin_add (hs : s.Consistent) (more : Nat) : ∀ (depth : Nat) (current : CellId)
    (name : String) (p : Pass), s.Tidy p → s.size ≤ p.inProgress.length + depth →
      s.resolveWithin (depth + more) current name p = s.resolveWithin depth current name p := by
  intro depth
  induction depth using Nat.strong_induction_on with
  | _ depth ih =>
    intro current name p hp hdepth
    refine resolveWithin_cases (motive := fun step => s.resolveWithin (depth + more) current name p
      = step) (fun hlookup => resolveWithin_of_missing hlookup)
      (fun target r hlookup hr => resolveWithin_of_done hlookup hr)
      (fun target hlookup hopen hback => resolveWithin_of_back hlookup hopen (.inl ?_))
      fun target deeper hlookup hopen hnew hdeeper => ?_
    · -- A new cell would be one more in progress than there are cells.
      by_contra hnew
      obtain rfl := hback.resolve_left hnew
      have hle : (target :: p.inProgress).length ≤ s.size :=
        (hp.enter (hs.isLive_of_lookup hlookup) hnew hopen).length_le
      rw [List.length_cons] at hle
      omega
    · subst hdeeper
      have hentered := ((balances_note (s := s) p target current).tidy hp).enter
        (hs.isLive_of_lookup hlookup) hnew hopen
      rw [Nat.add_right_comm, resolveWithin_of_new hlookup hopen hnew, resolveNew, resolveNew,
        evaluateText_deeper hs (fun inner q hq hpath => ih deeper (by omega) target inner q hq ?_)
          hentered rfl]
      rw [hpath]
      show s.size ≤ p.inProgress.length + 1 + deeper
      omega

/-- Before its first reference, a pass over a cell is tidy. -/
theorem tidy_start (hid : s.isLive id = true) : s.Tidy ((Pass.start.enter id).count id) := by
  have hempty : s.Tidy Pass.start := by
    constructor <;> simp [Pass.start, Pass.result?, Pass.evaluationCount]
  exact hempty.enter hid (by simp [Pass.start]) (by simp [Pass.start, Pass.result?])

/-- **A pass in which references may nest once for each further cell is a whole pass.** -/
theorem runPassWithin_eq (hs : s.Consistent) (hid : s.isLive id = true) {depth : Nat}
    (h : s.size ≤ depth + 1) : s.runPassWithin depth id = s.runPass id := by
  have hall : ∀ depth, s.size ≤ depth + 1 →
      s.runPassWithin depth id = s.runPassWithin (s.size - 1) id := by
    intro depth h
    obtain ⟨more, rfl⟩ := Nat.exists_eq_add_of_le (show s.size - 1 ≤ depth by omega)
    rw [runPassWithin, runPassWithin, evaluateText_deeper hs
      (fun name q hq hpath => resolveWithin_add hs more (s.size - 1) id name q hq ?_)
      (tidy_start hid) rfl]
    rw [hpath]
    show s.size ≤ 1 + (s.size - 1)
    omega
  have hsize : s.size ≤ s.slots.size := s.size_le_nextId
  rw [hall depth h, runPass, hall s.slots.size (by omega)]

/-! ## What is kept after a failure -/

/-- The results kept are values, and the given failure. -/
def KeepsOnly (s : Sheet) (err : EvalError) (p : Pass) : Prop :=
  ∀ j r, p.result? j = some r → (∃ x, r = .ok x ∧ s.Worth j x) ∨ r = .error err

theorem Faithful.keepsOnly {path : List CellId} (h : s.Faithful path p) (err : EvalError) :
    s.KeepsOnly err p := fun j r hr => .inl (h.results j r hr)

/-- What keeps only a failure does so still when a cell is done with that failure. -/
theorem KeepsOnly.remember {err : EvalError} (h : s.KeepsOnly err p) (id : CellId) :
    s.KeepsOnly err ((p.leave id).remember id (.error err)) := by
  intro j r hr
  rw [Pass.result?_remember] at hr
  split at hr
  · cases hr
    exact .inr rfl
  · exact h j r hr

/-- Evaluating the text of a cell keeps only its failure, when resolving references does. -/
theorem keepsOnly_evaluateText {resolve : String → Pass → PassResult Float} {path : List CellId}
    (hp : s.Faithful path (p.count id))
    (hyields : ∀ e, s.formula? id = some e → ∀ name ∈ e.references, ∀ p, s.Faithful path p →
      Yields (resolve name p) (s.plainReference path name) (s.Faithful path)
        fun _ => s.NotesReferences)
    (hkeeps : ∀ e, s.formula? id = some e → ∀ name ∈ e.references, ∀ p err, s.Faithful path p →
      (resolve name p).1 = .error err → s.KeepsOnly err (resolve name p).2) :
    Yields (s.evaluateText resolve id p) (s.plainText (s.plainReference path) id)
      (s.Faithful path) s.KeepsOnly := by
  refine (evaluateText_yields resolve (s.plainReference path) (fun _ => s.Faithful path)
    s.KeepsOnly (fun e he earlier name later p hrefs hp => ?_) hp fun err p' hp' _ => ?_).imp
    (fun _ _ ⟨_, _, h⟩ => h) fun _ _ h => h
  · have hname : name ∈ e.references := by simp [hrefs]
    have hyield := hyields e he name hname p hp
    exact hyield.imp (fun _ _ h => h) fun err herr _ =>
      hkeeps e he name hname p err hp (hyield.1.trans herr)
  · rcases hp' with rfl | rfl <;> exact hp.keepsOnly err

/-- **A reference that fails leaves values and its failure, and nothing else** — also in the cells
it led through: they refer to others, so they have no plain value that could stand in. -/
theorem keepsOnly_resolveWithin : ∀ {depth : Nat} {path : List CellId} {current : CellId} {e : Expr}
    {name : String} {p : Pass} {err : EvalError}, s.Trail path current →
    s.slots.size < path.length + depth → s.formula? current = some e → name ∈ e.references →
    s.Faithful path p → (s.resolveWithin depth current name p).1 = .error err →
    s.KeepsOnly err (s.resolveWithin depth current name p).2 := by
  intro depth
  induction depth with
  | zero =>
    intro path current e name p err htrail hdepth
    exact absurd htrail.length_le (by omega)
  | succ depth ih =>
    intro path current e name p err htrail hdepth he hname hp
    refine resolveWithin_cases (motive := fun step => step.1 = .error err → s.KeepsOnly err step.2)
      (fun _ _ => hp.keepsOnly err) (fun _ _ _ _ _ => hp.keepsOnly err)
      (fun _ _ _ _ _ => hp.keepsOnly err) fun target deeper hlookup _ hnew hdeeper herr => ?_
    obtain rfl := Nat.succ.inj hdeeper
    rw [hp.inProgress] at hnew
    have hstep : s.RefersTo current target := ⟨e, name, he, hname, hlookup⟩
    have htrail' := htrail.cons hstep hnew
    have hdepth' : s.slots.size < (target :: path).length + depth := by
      rw [List.length_cons]
      omega
    have hyields := keepsOnly_evaluateText ((hp.enter hstep).count target)
      (fun e' he' inner hinner p' hp' =>
        resolveWithin_yields (htrail' (isLive_of_formula? he')) hdepth' he' hinner hp')
      (fun e' he' inner hinner p' err' hp' =>
        ih (htrail' (isLive_of_formula? he')) hdepth' he' hinner hp')
    have hkept := (hyields.of_error (eq_error_of_referenceValue herr)).remember target
    rwa [← herr] at hkept

/-! ## The books of a whole pass -/

/-- What a cell is worth is what a reference to it reads in a pass of its own. -/
theorem Worth.referenceValue_evaluate {x : Float} {name : String} (h : s.Worth id x)
    (hname : s.lookup name = some id) : s.referenceValue id (s.evaluate id).1 = .ok x := by
  have hread := h.reads [] name hname fun _ hp => absurd hp List.not_mem_nil
  rw [plainReference_of_lookup hname, if_neg List.not_mem_nil] at hread
  rw [evaluate_fst]
  exact hread

/-- What a pass over a cell leaves behind, with the result it returns. -/
structure Disciplined (s : Sheet) (id : CellId) (outcome : Except EvalError Evaluated) (p : Pass) :
    Prop where
  /-- No cell is in progress. -/
  idle : ∀ j, p.isInProgress j = false
  /-- The text of a cell is evaluated at most once. -/
  once : ∀ j, p.evaluationCount j ≤ 1
  /-- The cells with a result are those evaluated once. -/
  done_iff : ∀ j, (p.result? j).isSome = true ↔ p.evaluationCount j = 1
  /-- References nest no deeper than there are cells: a pass that allows no deeper ones is the
  same. -/
  nested : ∀ depth, s.size ≤ depth + 1 → s.runPassWithin depth id = (outcome, p)
  /-- The evaluated cell has the result that is returned. -/
  own : p.result? id = some (outcome.map Evaluated.value)
  /-- After a success no failure is kept. -/
  succeeded : ∀ y, outcome = .ok y → ∀ j err, p.result? j ≠ some (.error err)
  /-- After a failure no other failure is kept. -/
  failed : ∀ err, outcome = .error err → ∀ j err', p.result? j = some (.error err') → err' = err
  /-- A number kept for another cell is what a reference to that cell reads in a pass of its
  own. -/
  numbers : ∀ j x, j ≠ id → p.result? j = some (.ok x) →
    s.referenceValue j (s.evaluate j).1 = .ok x

/-- Evaluating the text of the cell a pass is over. -/
theorem evaluateText_start_yields (s : Sheet) (id : CellId) :
    Yields (s.evaluateText (s.resolveWithin s.slots.size id) id (Pass.start.enter id))
      (s.plainEvaluate id) (s.Faithful [id]) s.KeepsOnly := by
  refine keepsOnly_evaluateText (faithful_start id)
    (fun e he name hname p hp => resolveWithin_yields_of_formula? he hname hp)
    fun e he name hname p err hp => ?_
  exact keepsOnly_resolveWithin (Trail.singleton (isLive_of_formula? he)) (by simp) he hname hp

/-- After a pass over a cell nothing is in progress, and the books are in order. -/
theorem tidy_runPass (hs : s.Consistent) (hid : s.isLive id = true) :
    s.Tidy (s.runPass id).2 ∧ (s.runPass id).2.inProgress = [] := by
  have hbalances := balances_evaluateText hid (balances_resolveWithin hs s.slots.size id)
    (Pass.start.enter id)
  exact ⟨(hbalances.tidy (tidy_start hid)).finish hbalances.inProgress _,
    Pass.inProgress_leave hbalances.inProgress⟩

/-- What a pass keeps: its own result, values of other cells, and of a failure nothing but it. -/
theorem kept_runPass (hs : s.Consistent) (hid : s.isLive id = true) {j : CellId}
    {r : Except EvalError Float} (hr : (s.runPass id).2.result? j = some r) :
    (j = id ∧ r = (s.runPass id).1.map Evaluated.value)
      ∨ (∃ name, s.lookup name = some j)
        ∧ ((∃ x, r = .ok x ∧ s.Worth j x)
          ∨ ∃ err, (s.runPass id).1 = .error err ∧ r = .error err) := by
  have hnamed := (balances_evaluateText hid (balances_resolveWithin hs s.slots.size id)
    (Pass.start.enter id)).named fun j hj => by
      simp [Pass.start, Pass.enter, Pass.count, Pass.result?] at hj
  have hyields := evaluateText_start_yields s id
  have hr' := (Pass.result?_remember id j _ _).symm.trans hr
  split at hr'
  · rename_i heq
    exact .inl ⟨heq.symm, (Option.some.inj hr').symm⟩
  · refine .inr ⟨hnamed j (Option.isSome_iff_exists.mpr ⟨r, hr'⟩), ?_⟩
    cases hresult : (s.runPass id).1 with
    | ok y => exact .inl ((hyields.of_ok hresult).results j r hr')
    | error err => exact (hyields.of_error hresult j r hr').imp_right fun h => ⟨err, rfl, h⟩

/-- A pass over a cell keeps its books in order. -/
theorem disciplined_runPass (hs : s.Consistent) (hid : s.isLive id = true) :
    s.Disciplined id (s.runPass id).1 (s.runPass id).2 := by
  obtain ⟨htidy, hidle⟩ := tidy_runPass hs hid
  have hcounted : ∀ j, (s.runPass id).2.evaluationCount j
      = if ((s.runPass id).2.result? j).isSome then 1 else 0 := fun j => by
    simp [htidy.counted, hidle]
  constructor
  case idle => exact fun j => by simp [Pass.isInProgress, hidle]
  case once =>
    intro j
    rw [hcounted]
    split <;> simp
  case done_iff =>
    intro j
    rw [hcounted]
    split <;> simp_all
  case nested => exact fun depth hdepth => runPassWithin_eq hs hid hdepth
  case own => exact (Pass.result?_remember id id _ _).trans (if_pos rfl)
  case succeeded =>
    intro y hy j err hr
    rcases kept_runPass hs hid hr with ⟨-, h⟩ | ⟨-, ⟨x, h, -⟩ | ⟨err', herr, -⟩⟩
    · simp [hy, Except.map] at h
    · cases h
    · cases hy.symm.trans herr
  case failed =>
    intro err herr j err' hr
    rcases kept_runPass hs hid hr with ⟨-, h⟩ | ⟨-, ⟨x, h, -⟩ | ⟨err'', herr', h⟩⟩
    · rw [herr] at h
      exact Except.error.inj h
    · cases h
    · cases h
      exact Except.error.inj (herr'.symm.trans herr)
  case numbers =>
    intro j x hj hr
    rcases kept_runPass hs hid hr with ⟨h, -⟩ | ⟨⟨name, hname⟩, ⟨x', h, hworth⟩ | ⟨err, -, h⟩⟩
    · exact absurd h hj
    · cases h
      exact hworth.referenceValue_evaluate hname
    · cases h

end Sheet

/-- **What a pass leaves behind is in order**, whatever passes were run before. -/
theorem Evaluator.evaluate_disciplined (evaluator : Evaluator) (id : CellId)
    (hs : evaluator.sheet.Consistent) (hid : evaluator.sheet.isLive id = true) :
    evaluator.sheet.Disciplined id (evaluator.evaluate id).1 (evaluator.evaluate id).2.pass :=
  Sheet.disciplined_runPass hs hid

/-- A cell that refers twice to a plain number, and fails at a cell that refers back to it. -/
def Sheet.returning : Sheet :=
  (((Sheet.blank 1 3).modifyCell ⟨0⟩ fun c => { c with text := "=B1 - C1" }).modifyCell ⟨1⟩ fun c =>
    { c with text := "1e5" }).modifyCell ⟨2⟩ fun c => { c with text := "B1 / A1" }

/-- The evaluator ran a pass over the number before. -/
theorem Evaluator.evaluate_disciplined_returning :
    ((ofSheet .returning).evaluate ⟨1⟩).2.sheet.Consistent
      ∧ ((ofSheet .returning).evaluate ⟨1⟩).2.sheet.isLive ⟨0⟩ = true
      ∧ ((ofSheet .returning).evaluate ⟨1⟩).2.sheet.Disciplined ⟨0⟩
        (((ofSheet .returning).evaluate ⟨1⟩).2.evaluate ⟨0⟩).1
        (((ofSheet .returning).evaluate ⟨1⟩).2.evaluate ⟨0⟩).2.pass := by
  have hs : Sheet.returning.Consistent :=
    (((Sheet.consistent_blank 1 3).enterText _ _).enterText _ _).enterText _ _
  have hbare : Sheet.returning.bare = ((ofSheet .returning).evaluate ⟨1⟩).2.sheet.bare :=
    (Sheet.bare_record _ _).symm
  have hlive : ((ofSheet .returning).evaluate ⟨1⟩).2.sheet.isLive ⟨0⟩ = true :=
    (Sheet.isLive_of_bare_eq hbare ⟨0⟩).symm.trans (by decide +kernel)
  have hafter := Sheet.Consistent.of_bare_eq hbare hs
  exact ⟨hafter, hlive, evaluate_disciplined _ ⟨0⟩ hafter hlive⟩

end Spreadsheet
