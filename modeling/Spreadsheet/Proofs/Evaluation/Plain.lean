import Spreadsheet.Evaluation.Pass
import Spreadsheet.Proofs.Formula.PlainText
import Spreadsheet.Proofs.Sheet.Lookup

/-!
# Proofs/Evaluation/Plain — evaluation without a memory

The plain evaluator keeps no results: it evaluates a cell anew for every reference to it and carries
nothing but the path of references that led to the current one.  A reference onto that path is a
cycle.  It is the meaning of a pass, and the theory of evaluation is stated over it.
-/

namespace Spreadsheet

/-! ## Failures -/

/-- The failure of a step, if it failed. -/
def failure? {α : Type} : Except EvalError α → Option EvalError
  | .ok _ => none
  | .error e => some e

theorem failure?_eq_none_iff {α : Type} {r : Except EvalError α} :
    failure? r = none ↔ ∃ x, r = .ok x := by
  cases r <;> simp [failure?]

theorem failure?_eq_some_iff {α : Type} {r : Except EvalError α} {e : EvalError} :
    failure? r = some e ↔ r = .error e := by
  cases r <;> simp [failure?]

@[simp] theorem failure?_map {α β : Type} (f : α → β) (r : Except EvalError α) :
    failure? (r.map f) = failure? r := by
  cases r <;> rfl

namespace Expr

/-! ## Formulas -/

/-- The value of a formula, given what its references read.  Operands are evaluated from left to
right, and the first failure is the failure of the formula. -/
def value (read : String → Except EvalError Float) : Expr → Except EvalError Evaluated
  | number text => (literalValue text).map .number
  | reference name => (read name).map .number
  | formula inner => inner.value read
  | unary sign operand => (operand.value read).map fun x => .number (sign.apply x.value)
  | binary op left right =>
      match left.value read with
      | .error e => .error e
      | .ok x => (right.value read).map fun y => op.apply x.value y.value
  | call f argument => (argument.value read).map fun x => f.apply x.value

theorem Readable.left {op : BinaryOp} {left right : Expr} (h : (binary op left right).Readable) :
    left.Readable := fun text ht => h text (List.mem_append_left _ ht)

theorem Readable.right {op : BinaryOp} {left right : Expr} (h : (binary op left right).Readable) :
    right.Readable := fun text ht => h text (List.mem_append_right _ ht)

variable {read read' : String → Except EvalError Float} {e : Expr}

/-- **A formula fails exactly as the first of its references that fails.** -/
theorem failure?_value (he : e.Readable) :
    failure? (e.value read) = e.references.findSome? fun name => failure? (read name) := by
  induction e with
  | number text =>
    obtain ⟨x, hx⟩ := he text List.mem_cons_self
    simp [value, references, hx, Except.map, failure?]
  | reference name =>
    simp only [value, references, failure?_map, List.findSome?_cons, List.findSome?_nil]
    cases failure? (read name) <;> rfl
  | formula inner ih => exact ih he
  | unary sign operand ih => rw [value, failure?_map]; exact ih he
  | call f argument ih => rw [value, failure?_map]; exact ih he
  | binary op left right ihl ihr =>
    rw [references, List.findSome?_append, ← ihl he.left, ← ihr he.right, value]
    cases left.value read with
    | error err => rfl
    | ok x => exact failure?_map _ _

/-- A formula has a value exactly when all its references have one. -/
theorem exists_value_iff (he : e.Readable) :
    (∃ y, e.value read = .ok y) ↔ ∀ name ∈ e.references, ∃ x, read name = .ok x := by
  rw [← failure?_eq_none_iff, failure?_value he, List.findSome?_eq_none_iff]
  exact forall₂_congr fun _ _ => failure?_eq_none_iff

/-- A formula fails through a reference behind references that do not. -/
theorem value_eq_error_iff (he : e.Readable) {err : EvalError} :
    e.value read = .error err ↔ ∃ before name after, e.references = before ++ name :: after
      ∧ (∀ n ∈ before, ∃ x, read n = .ok x) ∧ read name = .error err := by
  rw [← failure?_eq_some_iff, failure?_value he, List.findSome?_eq_some_iff]
  constructor
  · rintro ⟨before, name, after, heq, hname, hbefore⟩
    exact ⟨before, name, after, heq, fun n hn => failure?_eq_none_iff.mp (hbefore n hn),
      failure?_eq_some_iff.mp hname⟩
  · rintro ⟨before, name, after, heq, hbefore, hname⟩
    exact ⟨before, name, after, heq, failure?_eq_some_iff.mpr hname,
      fun n hn => failure?_eq_none_iff.mpr (hbefore n hn)⟩

theorem value_congr_of_forall (h : ∀ name ∈ e.references, read name = read' name) :
    e.value read = e.value read' := by
  induction e with
  | number text => rfl
  | reference name => exact congrArg (Except.map _) (h name (by simp [references]))
  | formula inner ih => exact ih h
  | unary sign operand ih => exact congrArg (Except.map _) (ih h)
  | call f argument ih => exact congrArg (Except.map _) (ih h)
  | binary op left right ihl ihr =>
    rw [value, value, ihl fun n hn => h n (List.mem_append_left _ hn),
      ihr fun n hn => h n (List.mem_append_right _ hn)]

/-- **A formula depends on its references up to the first that fails.** -/
theorem value_congr (he : e.Readable) (h : ∀ before name after,
    e.references = before ++ name :: after → (∀ n ∈ before, ∃ x, read n = .ok x) →
      read name = read' name) : e.value read = e.value read' := by
  cases hv : e.value read with
  | ok y =>
    have hok := (exists_value_iff he).mp ⟨y, hv⟩
    rw [← hv]
    refine value_congr_of_forall fun name hname => ?_
    obtain ⟨before, after, heq⟩ := List.append_of_mem hname
    exact h before name after heq fun n hn => hok n (by rw [heq]; exact List.mem_append_left _ hn)
  | error err =>
    obtain ⟨before, name, after, heq, hbefore, hname⟩ := (value_eq_error_iff he).mp hv
    refine ((value_eq_error_iff he).mpr ⟨before, name, after, heq, fun n hn => ?_, ?_⟩).symm
    · obtain ⟨b, a, hba⟩ := List.append_of_mem hn
      rw [← h b n (a ++ name :: after) (by rw [heq, hba]; simp) fun m hm =>
        hbefore m (by rw [hba]; exact List.mem_append_left _ hm)]
      exact hbefore n hn
    · rw [← h before name after heq hbefore]
      exact hname

end Expr

namespace Sheet

/-! ## Cells -/

/-- Evaluates the text of a cell, given what its references read. -/
def plainText (s : Sheet) (read : String → Except EvalError Float) (id : CellId) :
    Except EvalError Evaluated :=
  match s.cell? id with
  | none => .error (.missing id.label)
  | some c =>
      match parseFormula c.text with
      | .error e => .error (.malformed e)
      | .ok e => e.value read

/-- What a reference reads whose path of references is given, innermost first. -/
def plainReference (s : Sheet) (path : List CellId) (name : String) : Except EvalError Float :=
  match _h : s.lookup name with
  | none => .error (.missing name)
  | some target =>
      if target ∈ path then .error (.cycle name)
      else s.referenceValue target
        (s.plainText (fun inner => s.plainReference (target :: path) inner) target)
termination_by (s.ids.filter (· ∉ path)).length
decreasing_by
  have hstep : s.ids.filter (· ∉ target :: path)
      = (s.ids.filter (· ∉ path)).filter (· ≠ target) := by
    rw [List.filter_filter]
    refine List.filter_congr fun id _ => ?_
    simp
  rw [hstep, List.length_filter_lt_length_iff_exists]
  refine ⟨target, List.mem_filter.mpr ⟨mem_ids_of_lookup _h, ?_⟩, ?_⟩ <;> simp_all

/-- Evaluates a cell. -/
def plainEvaluate (s : Sheet) (id : CellId) : Except EvalError Evaluated :=
  s.plainText (s.plainReference [id]) id

theorem plainReference_of_lookup {s : Sheet} {path : List CellId} {name : String} {target : CellId}
    (h : s.lookup name = some target) :
    s.plainReference path name = if target ∈ path then .error (.cycle name)
      else s.referenceValue target (s.plainText (s.plainReference (target :: path)) target) := by
  rw [plainReference]
  split <;> simp_all

theorem plainReference_of_lookup_none {s : Sheet} {path : List CellId} {name : String}
    (h : s.lookup name = none) : s.plainReference path name = .error (.missing name) := by
  rw [plainReference]
  split <;> simp_all

end Sheet

end Spreadsheet
