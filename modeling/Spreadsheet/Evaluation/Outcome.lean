import Spreadsheet.Config
import Spreadsheet.Evaluation.Pass
import Spreadsheet.Number.Text
import Spreadsheet.Text.Lowercase

/-!
# Evaluation/Outcome — what a cell shows

The outcome of a cell follows from its text and its evaluation.  Values are shown as numbers or as
words for truth values; a cycle and a missing cell have error codes.  After any other failure a
single reference shows what the cell it names shows, a text that looks like a formula gets an error
code, and any other text is shown as it was typed.
-/

namespace Spreadsheet

open Text

/-- The code shown for a reference that leads back. -/
def cycleCode : String := "#CYCERROR"

/-- The code shown for a reference to nothing. -/
def missingCode : String := "#REF_ERROR"

/-- The code shown for a broken formula. -/
def malformedCode : String := "#SYNERROR"

/-- What a cell shows, and why. -/
inductive CellOutcome where
  /-- No text. -/
  | empty
  | logical (holds : Bool)
  | number (value : Float)
  | cycle (name : String)
  | missing (name : String)
  /-- A single reference that has no value: the cell it names and what that cell shows. -/
  | passthrough (source : CellId) (value : String)
  | malformed
  /-- A text that is no formula. -/
  | literal (text : String)

namespace CellOutcome

/-- The text a cell shows. -/
def render (config : Config) : CellOutcome → String
  | empty => ""
  | logical holds => config.logicalToken holds
  | number value => numberText value
  | cycle _ => cycleCode
  | missing _ => missingCode
  | passthrough _ value => value
  | malformed => malformedCode
  | literal text => text

/-- What the user is told about a failure. -/
def message : CellOutcome → Option String
  | cycle name => some (EvalError.cycle name).message
  | missing name => some (EvalError.missing name).message
  | _ => none

/-- The cell whose value is shown in place of a value of its own. -/
def source? : CellOutcome → Option CellId
  | passthrough source _ => some source
  | _ => none

end CellOutcome

/-- The ways a text begins that is meant as a formula. -/
def formulaOpenings : List (List Char) := [['='], ['n', 'o', 't'], ['i', 'n', 'c'], ['d', 'e', 'c']]

/-- Whether a text, blanks and case apart, begins like a formula. -/
def looksLikeFormula (cs : List Char) : Bool :=
  formulaOpenings.any (·.isPrefixOf (lower (trim cs)))

/-- An outcome and the failure it stands in for, if any. -/
structure Verdict where
  outcome : CellOutcome
  recoveredFrom : Option EvalError

namespace Sheet

/-- What a text shows that has no value. -/
def recover (s : Sheet) (text : String) : CellOutcome :=
  let tree := (parseFormula text).toOption
  match (tree.bind Expr.singleReference?).bind s.cellNamed? with
  | some c => .passthrough c.id c.value
  | none =>
      if looksLikeFormula text.toList || tree.any (!·.isPrimitive) then .malformed
      else .literal text

/-- What a text shows, given its evaluation. -/
def judge (s : Sheet) (text : String) : Except EvalError Evaluated → Verdict
  | .ok x => ⟨if x.logical then .logical (x.value != 0) else .number x.value, none⟩
  | .error (.cycle name) => ⟨.cycle name, none⟩
  | .error (.missing name) => ⟨.missing name, none⟩
  | .error e => ⟨s.recover text, some e⟩

/-- Evaluates a cell and decides what it shows. -/
def classify (s : Sheet) (id : CellId) : Verdict × Sheet :=
  match s.cell? id with
  | none => (⟨.empty, none⟩, s)
  | some c =>
      if c.hasText then
        let (result, s) := s.evaluate id
        (s.judge c.text result, s)
      else (⟨.empty, none⟩, s)

/-- Evaluates a cell and stores what it shows. -/
def refresh (s : Sheet) (config : Config) (id : CellId) : Verdict × Sheet :=
  let (verdict, s) := s.classify id
  (verdict, s.setValue id (verdict.outcome.render config))

/-! ## What evaluation leaves alone

Recording references and storing a value do not touch which cells are live. -/

theorem isLive_record (s : Sheet) (id : CellId) :
    ∀ references, (s.record references).isLive id = s.isLive id
  | [] => rfl
  | r :: references => by
      show ((s.record references).addDependent r.1 r.2).isLive id = _
      rw [addDependent, isLive_modifyCell, isLive_record s id references]

theorem size_slots_record (s : Sheet) :
    ∀ references, (s.record references).slots.size = s.slots.size
  | [] => rfl
  | r :: references => by
      show ((s.record references).addDependent r.1 r.2).slots.size = _
      rw [addDependent, size_slots_modifyCell, size_slots_record s references]

theorem classify_snd (s : Sheet) (id : CellId) :
    (s.classify id).2 = s ∨ ∃ references, (s.classify id).2 = s.record references := by
  unfold classify
  split
  · exact .inl rfl
  · split
    · exact .inr ⟨_, rfl⟩
    · exact .inl rfl

theorem isLive_refresh (s : Sheet) (config : Config) (id j : CellId) :
    (s.refresh config id).2.isLive j = s.isLive j := by
  show ((s.classify id).2.setValue id _).isLive j = _
  rw [setValue, isLive_modifyCell]
  rcases classify_snd s id with h | ⟨references, h⟩ <;> rw [h]
  exact isLive_record s j references

theorem size_slots_refresh (s : Sheet) (config : Config) (id : CellId) :
    (s.refresh config id).2.slots.size = s.slots.size := by
  show ((s.classify id).2.setValue id _).slots.size = _
  rw [setValue, size_slots_modifyCell]
  rcases classify_snd s id with h | ⟨references, h⟩ <;> rw [h]
  exact size_slots_record s references

end Sheet

end Spreadsheet
