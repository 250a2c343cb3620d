import Spreadsheet.Evaluation.Value
import Spreadsheet.Formula.Parse
import Spreadsheet.Sheet.Basic
import Std.Data.TreeMap.Basic

/-!
# Evaluation/Pass — evaluating a cell

One pass evaluates one cell and, through its references, the cells it needs.  Each of them is
evaluated at most once: its result is kept for later references, and while it is being evaluated a
reference back to it is a cycle.  Evaluation reads texts and names only; the references it meets are
collected and recorded on the sheet when the pass is over.
-/

namespace Spreadsheet

/-- What one pass has found out so far. -/
structure Pass where
  /-- The cells being evaluated, innermost first. -/
  inProgress : List CellId
  /-- The results of the cells that are done. -/
  results : Std.TreeMap CellId (Except EvalError Float)
  /-- How often the text of each cell was evaluated. -/
  evaluations : Std.TreeMap CellId Nat
  /-- The references met, each as the cell referred to and the cell that refers, latest first. -/
  references : List (CellId × CellId)

namespace Pass

/-- Before anything is evaluated. -/
def start : Pass := ⟨[], ∅, ∅, []⟩

/-- The result of a cell that is done. -/
def result? (p : Pass) (id : CellId) : Option (Except EvalError Float) := p.results[id]?

/-- How often the text of a cell was evaluated. -/
def evaluationCount (p : Pass) (id : CellId) : Nat := (p.evaluations[id]?).getD 0

/-- Whether a cell is being evaluated. -/
def isInProgress (p : Pass) (id : CellId) : Bool := id ∈ p.inProgress

/-- Begins with a cell. -/
def enter (id : CellId) (p : Pass) : Pass := { p with inProgress := id :: p.inProgress }

/-- Is done with a cell. -/
def leave (id : CellId) (p : Pass) : Pass := { p with inProgress := p.inProgress.erase id }

/-- Keeps the result of a cell. -/
def remember (id : CellId) (result : Except EvalError Float) (p : Pass) : Pass :=
  { p with results := p.results.insert id result }

/-- Counts an evaluation of the text of a cell. -/
def count (id : CellId) (p : Pass) : Pass :=
  { p with evaluations := p.evaluations.insert id (p.evaluationCount id + 1) }

/-- Notes a reference. -/
def note (target current : CellId) (p : Pass) : Pass :=
  { p with references := (target, current) :: p.references }

end Pass

/-- A step of a pass: a result, or a failure, and the pass after it. -/
abbrev PassResult (α : Type) := Except EvalError α × Pass

/-! ## Formulas

Operands are evaluated from left to right, and the first failure ends the evaluation. -/

/-- Evaluates a formula; `resolve` evaluates its references. -/
def Expr.evaluate (resolve : String → Pass → PassResult Float) : Expr → Pass → PassResult Evaluated
  | .number text, p => ((literalValue text).map .number, p)
  | .reference name, p =>
      let (result, p) := resolve name p
      (result.map .number, p)
  | .formula inner, p => inner.evaluate resolve p
  | .unary sign operand, p =>
      match operand.evaluate resolve p with
      | (.ok x, p) => (.ok (.number (sign.apply x.value)), p)
      | (.error e, p) => (.error e, p)
  | .binary op left right, p =>
      match left.evaluate resolve p with
      | (.error e, p) => (.error e, p)
      | (.ok x, p) =>
          match right.evaluate resolve p with
          | (.error e, p) => (.error e, p)
          | (.ok y, p) => (.ok (op.apply x.value y.value), p)
  | .call f argument, p =>
      match argument.evaluate resolve p with
      | (.ok x, p) => (.ok (f.apply x.value), p)
      | (.error e, p) => (.error e, p)

namespace Sheet

/-! ## Cells -/

/-- Evaluates the text of a cell; `resolve` evaluates its references. -/
def evaluateText (s : Sheet) (resolve : String → Pass → PassResult Float) (id : CellId) (p : Pass) :
    PassResult Evaluated :=
  match s.cell? id with
  | none => (.error (.missing id.label), p)
  | some c =>
      match parseFormula c.text with
      | .error e => (.error (.malformed e), p.count id)
      | .ok e => e.evaluate resolve (p.count id)

/-- What a reference to a cell reads: its value, or, after a recoverable failure, the value of its
plain text if it has one. -/
def referenceValue (s : Sheet) (id : CellId) : Except EvalError Evaluated → Except EvalError Float
  | .ok x => .ok x.value
  | .error e =>
      if e.isRecoverable then
        match (s.cell? id).bind fun c => scalarValue? c.text with
        | some x => .ok x
        | none => .error e
      else .error e

/-- Evaluates a reference from a cell.  References nest at most `depth` deep: each level has entered
one more cell, so a reference nested deeper than there are cells leads back to one of them. -/
def resolveWithin (s : Sheet) : Nat → CellId → String → Pass → PassResult Float
  | depth, current, name, p =>
    match s.lookup name with
    | none => (.error (.missing name), p)
    | some target =>
        let p := p.note target current
        match p.result? target with
        | some result => (result, p)
        | none =>
            if p.isInProgress target then (.error (.cycle name), p)
            else match depth with
              | 0 => (.error (.cycle name), p)
              | depth + 1 =>
                  let (outcome, p) :=
                    s.evaluateText (s.resolveWithin depth target) target (p.enter target)
                  let result := s.referenceValue target outcome
                  (result, (p.leave target).remember target result)

/-- Records the references met in a pass, earliest first. -/
def record (s : Sheet) (references : List (CellId × CellId)) : Sheet :=
  references.foldr (fun reference s => s.addDependent reference.1 reference.2) s

/-- Evaluates a cell, allowing references to nest to a given depth. -/
def runPassWithin (s : Sheet) (depth : Nat) (id : CellId) : PassResult Evaluated :=
  let (outcome, p) := s.evaluateText (s.resolveWithin depth id) id (Pass.start.enter id)
  (outcome, (p.leave id).remember id (outcome.map Evaluated.value))

/-- Evaluates a cell in a pass of its own. -/
def runPass (s : Sheet) (id : CellId) : PassResult Evaluated := s.runPassWithin s.slots.size id

/-- Evaluates a cell and records the references met on the way. -/
def evaluate (s : Sheet) (id : CellId) : Except EvalError Evaluated × Sheet :=
  let (outcome, p) := s.runPass id
  (outcome, s.record p.references)

end Sheet

/-! ## Several passes -/

/-- A sheet and the latest pass over it. -/
structure Evaluator where
  sheet : Sheet
  pass : Pass

namespace Evaluator

/-- Before the first pass. -/
def ofSheet (s : Sheet) : Evaluator := ⟨s, .start⟩

/-- Evaluates a cell; nothing is kept of the pass before. -/
def evaluate (e : Evaluator) (id : CellId) : Except EvalError Evaluated × Evaluator :=
  let (outcome, p) := e.sheet.runPass id
  (outcome, ⟨e.sheet.record p.references, p⟩)

end Evaluator

end Spreadsheet
