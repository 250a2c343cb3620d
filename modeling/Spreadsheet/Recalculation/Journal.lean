import Spreadsheet.Evaluation.Outcome

/-!
# Recalculation/Journal — what is noted while a workbook is at work

Every notice has a level and a wording.  Warnings concern the user; the rest is of interest when the
work is followed in detail.
-/

namespace Spreadsheet

/-- How urgent a notice is. -/
inductive Level where
  | warn
  | debug
deriving DecidableEq, Repr

/-- Something worth noting. -/
inductive Notice where
  /-- A cell without a value shows something else. -/
  | recovered (cell : String) (cause : EvalError)
  /-- A committed cell now shows a failure. -/
  | failed (cell message : String)
  | committed (cell value : String)
  | propagated (cell value : String)
  | recalculated (count : Nat)
  | resized (rows cols : Nat)
  | saved (file : String)
  | loaded (count : Nat) (file : String)
deriving DecidableEq, Repr

/-- Notices in the order in which they arose. -/
abbrev Journal := List Notice

namespace Notice

def level : Notice → Level
  | failed .. => .warn
  | _ => .debug

def text : Notice → String
  | recovered cell cause => "recovering " ++ cell ++ " after: " ++ cause.message
  | failed cell message => cell ++ ": " ++ message
  | committed cell value => "committed " ++ cell ++ " = " ++ Text.quote value
  | propagated cell value => "propagated to " ++ cell ++ " = " ++ Text.quote value
  | recalculated count => "recalculated " ++ toString count ++ " cells"
  | resized rows cols => "sheet resized to " ++ toString rows ++ "x" ++ toString cols
  | saved file => "saved sheet to " ++ file
  | loaded count file => "loaded " ++ toString count ++ " cells from " ++ file

/-- A notice on one line, behind its level. -/
def line (notice : Notice) : String :=
  match notice.level with
  | .warn => "warn: " ++ notice.text
  | .debug => "debug: " ++ notice.text

end Notice

namespace Sheet

/-- What there is to note when a cell has been evaluated. -/
def recoveryNotice (s : Sheet) (id : CellId) (verdict : Verdict) : Journal :=
  match verdict.recoveredFrom with
  | some cause => [.recovered (s.nameOf id) cause]
  | none => []

end Sheet

end Spreadsheet
