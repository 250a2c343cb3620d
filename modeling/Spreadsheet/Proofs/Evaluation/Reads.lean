import Spreadsheet.Proofs.Evaluation.Memory

/-!
# Proofs/Evaluation/Reads — the references a pass notes

The evaluation of a formula resolves its references up to the first that cannot be read; these are
the cells it `Reads`.  A pass notes every one of them (`mem_references_of_reads`), and notes nothing
but references that stand in formulas (`runPass_yields`).
-/

namespace Spreadsheet

namespace Expr

/-- What every resolution keeps, evaluating a formula keeps. -/
theorem evaluate_keeps {resolve : String → Pass → PassResult Float} (keeps : Pass → Pass → Prop)
    (hrefl : ∀ p, keeps p p) (htrans : ∀ p q r, keeps p q → keeps q r → keeps p r)
    (hstep : ∀ name p, keeps p (resolve name p).2) :
    ∀ (e : Expr) (p : Pass), keeps p (e.evaluate resolve p).2
  | number _, p => hrefl p
  | reference name, p => hstep name p
  | formula inner, p => evaluate_keeps keeps hrefl htrans hstep inner p
  | unary sign operand, p => by
      rw [evaluate_unary]
      exact evaluate_keeps keeps hrefl htrans hstep operand p
  | call f argument, p => by
      rw [evaluate_call]
      exact evaluate_keeps keeps hrefl htrans hstep argument p
  | binary op left right, p => by
      have hl := evaluate_keeps keeps hrefl htrans hstep left p
      rw [evaluate_binary]
      cases hleft : left.evaluate resolve p with
      | mk result p' =>
        rw [hleft] at hl
        cases result with
        | error err => exact hl
        | ok x => exact htrans _ _ _ hl (evaluate_keeps keeps hrefl htrans hstep right p')

end Expr

namespace Sheet

variable {s : Sheet} {id target : CellId}

/-! ## References only accumulate -/

theorem references_evaluateText {resolve : String → Pass → PassResult Float}
    (hstep : ∀ name p, p.references ⊆ (resolve name p).2.references) (id : CellId) (p : Pass) :
    p.references ⊆ (s.evaluateText resolve id p).2.references := by
  rw [evaluateText]
  split
  · exact List.Subset.refl _
  · split
    · exact List.Subset.refl _
    · exact Expr.evaluate_keeps (fun p q => p.references ⊆ q.references)
        (fun _ => List.Subset.refl _) (fun _ _ _ => List.Subset.trans) hstep _ (p.count id)

/-- **A reference is noted before anything can fail**, and nothing noted is lost. -/
theorem references_resolveWithin : ∀ (depth : Nat) (current : CellId) (name : String) (p : Pass),
    p.references ⊆ (s.resolveWithin depth current name p).2.references
      ∧ ∀ target, s.lookup name = some target →
        (target, current) ∈ (s.resolveWithin depth current name p).2.references := by
  intro depth
  induction depth using Nat.strong_induction_on with
  | _ depth ih =>
    intro current name p
    have hnote : ∀ target (q : Pass), s.lookup name = some target →
        (p.note target current).references ⊆ q.references → p.references ⊆ q.references
          ∧ ∀ target, s.lookup name = some target → (target, current) ∈ q.references :=
      fun target q hlookup hsub => ⟨fun r hr => hsub (List.mem_cons_of_mem _ hr),
        fun target' hlookup' =>
          Option.some.inj (hlookup.symm.trans hlookup') ▸ hsub List.mem_cons_self⟩
    refine resolveWithin_cases (motive := fun step => p.references ⊆ step.2.references
      ∧ ∀ target, s.lookup name = some target → (target, current) ∈ step.2.references)
      (fun hnone => ⟨List.Subset.refl _, fun _ h => by cases hnone.symm.trans h⟩)
      (fun target _ hlookup _ => hnote target _ hlookup (List.Subset.refl _))
      (fun target hlookup _ _ => hnote target _ hlookup (List.Subset.refl _))
      fun target deeper hlookup _ _ hdeeper => hnote target _ hlookup ?_
    exact references_evaluateText (fun name p => (ih deeper (by omega) target name p).1) target
      ((p.note target current).enter target)

/-! ## What the evaluation of a cell reads -/

/-- The formula of a cell has a name behind references that can all be read. -/
def Meets (s : Sheet) (id : CellId) (name : String) : Prop :=
  ∃ e earlier later, s.formula? id = some e ∧ e.references = earlier ++ name :: later
    ∧ ∀ n ∈ earlier, ∃ t, s.lookup n = some t ∧ s.Grounded t

/-- The formula of the first cell refers to the second behind references that can all be read. -/
def Reads (s : Sheet) (id target : CellId) : Prop :=
  ∃ name, s.Meets id name ∧ s.lookup name = some target

theorem Reads.refersTo (h : s.Reads id target) : s.RefersTo id target := by
  obtain ⟨name, ⟨e, earlier, later, he, hrefs, -⟩, hlookup⟩ := h
  exact ⟨e, name, he, by simp [hrefs], hlookup⟩

/-- The cells that the evaluation of the first one comes to. -/
abbrev Traces (s : Sheet) : CellId → CellId → Prop := Relation.ReflTransGen s.Reads

theorem Reaches.of_traces (h : s.Traces id target) : s.Reaches id target :=
  Relation.ReflTransGen.mono (fun _ _ => Reads.refersTo) _ _ h

/-- A grounded cell meets every name in its formula. -/
theorem Grounded.meets (h : s.Grounded id) {e : Expr} {name : String} (he : s.formula? id = some e)
    (hname : name ∈ e.references) : s.Meets id name := by
  obtain ⟨earlier, later, hrefs⟩ := List.append_of_mem hname
  cases h with
  | text hnone => simp [hnone] at he
  | formula he' hsome hall =>
    obtain rfl := Option.some.inj (he.symm.trans he')
    refine ⟨e, earlier, later, he, hrefs, fun n hn => ?_⟩
    have hmem : n ∈ e.references := hrefs ▸ List.mem_append_left _ hn
    obtain ⟨t, ht⟩ := Option.isSome_iff_exists.mp (hsome n hmem)
    exact ⟨t, ht, hall n hmem t ht⟩

/-- A grounded cell reads every cell it refers to. -/
theorem Grounded.reads (h : s.Grounded id) (ht : s.RefersTo id target) : s.Reads id target := by
  obtain ⟨e, name, he, hname, hlookup⟩ := ht
  exact ⟨name, h.meets he hname, hlookup⟩

theorem Grounded.traces (h : s.Grounded id) (ht : s.Reaches id target) : s.Traces id target := by
  induction ht with
  | refl => exact .refl
  | tail hreach hstep ih => exact ih.tail ((h.of_reaches hreach).reads hstep)

/-- A formula can be read behind its own cell exactly when its references are grounded. -/
theorem plainReference_singleton_iff {e : Expr} {name : String} (he : s.formula? id = some e)
    (hname : name ∈ e.references) : (∃ x, s.plainReference [id] name = .ok x)
      ↔ ∃ t, s.lookup name = some t ∧ s.Grounded t := by
  refine ⟨fun ⟨x, hx⟩ => grounded_of_plainReference hx, fun ⟨t, hlookup, hg⟩ => ?_⟩
  obtain ⟨x, hx⟩ := hg.exists_worth
  refine ⟨x, hx.reads [id] name hlookup fun p hp hback => ?_⟩
  rw [List.mem_singleton.mp hp] at hback
  exact hg.not_transGen (Relation.TransGen.tail' hback ⟨e, name, he, hname, hlookup⟩)

/-- Two places in a list: the later one is not reached before the earlier one. -/
theorem mem_of_append_eq {α : Type} {a b c d : List α} {x y : α}
    (h : a ++ x :: b = c ++ y :: d) (hx : x ∉ c) : y ∈ a ++ [x] := by
  rcases List.append_eq_append_iff.mp h with ⟨l, rfl, hl⟩ | ⟨l, rfl, hl⟩
  · cases l with
    | nil => simp at hl; simp [hl.1]
    | cons z l =>
      rw [List.cons_append] at hl
      exact absurd (by simp [List.cons.inj hl]) hx
  · cases l with
    | nil => simp at hl; simp [hl.1]
    | cons z l =>
      rw [List.cons_append] at hl
      simp [List.cons.inj hl]

/-- The pass has noted that the cell refers to all that the names stand for. -/
def HasNoted (s : Sheet) (id : CellId) (names : List String) (p : Pass) : Prop :=
  ∀ name ∈ names, ∀ target, s.lookup name = some target → (target, id) ∈ p.references

/-- Resolving a name adds it to the noted ones. -/
theorem HasNoted.resolveWithin {names : List String} {p : Pass} (h : s.HasNoted id names p)
    (depth : Nat) (name : String) :
    s.HasNoted id (names ++ [name]) (s.resolveWithin depth id name p).2 := by
  obtain ⟨hkept, hnew⟩ := references_resolveWithin (s := s) depth id name p
  intro n hn t ht
  rcases List.mem_append.mp hn with hn | hn
  · exact hkept (h n hn t ht)
  · exact hnew t (List.mem_singleton.mp hn ▸ ht)

/-- **A pass over a cell notes every reference that the cell reads.** -/
theorem mem_references_of_reads (h : s.Reads id target) :
    (target, id) ∈ (s.runPass id).2.references := by
  obtain ⟨name, ⟨e, earlier, later, he, hrefs, hearlier⟩, hlookup⟩ := h
  have hread : ∀ n ∈ earlier, ∃ x, s.plainReference [id] n = .ok x := fun n hn =>
    (plainReference_singleton_iff he (by simp [hrefs, hn])).mpr (hearlier n hn)
  -- A name that fails is not one of the earlier names, so by then the name has been resolved.
  obtain ⟨-, hafter⟩ := evaluateText_yields (s.resolveWithin s.slots.size id)
    (s.plainReference [id]) (fun names p => s.Faithful [id] p ∧ s.HasNoted id names p)
    (fun _ p => s.formula? id = some e → (target, id) ∈ p.references)
    (fun e' he' earlier' name' later' p hrefs' hp => by
      obtain rfl := Option.some.inj (he.symm.trans he')
      have hnoted := hp.2.resolveWithin s.slots.size name'
      refine (resolveWithin_yields_of_formula? he (by simp [hrefs']) hp.1).imp
        (fun _ _ h => ⟨h, hnoted⟩) fun err herr _ _ => ?_
      have hnot : name' ∉ earlier := fun hmem => by
        obtain ⟨x, hx⟩ := hread name' hmem
        cases hx.symm.trans herr
      exact hnoted name (mem_of_append_eq (hrefs'.symm.trans hrefs) hnot) target hlookup)
    ⟨faithful_start id, fun n hn => absurd hn List.not_mem_nil⟩
    (fun _ _ _ hnone hsome => by simp [hnone] at hsome)
  show (target, id) ∈ (s.evaluateText _ id (Pass.start.enter id)).2.references
  cases hv : s.plainText (s.plainReference [id]) id with
  | ok y =>
    rw [hv] at hafter
    obtain ⟨e', he', -, hnoted⟩ := hafter
    obtain rfl := Option.some.inj (he.symm.trans he')
    exact hnoted name (by simp [hrefs]) target hlookup
  | error err =>
    rw [hv] at hafter
    exact hafter he

end Sheet

end Spreadsheet
