import Spreadsheet.Formula.Fault

/-!
# Evaluation/Error — why a formula has no value

References that lead back and references to nothing are always shown as errors.  The other failures
are recoverable: where the failing cell is only referred to, its plain text may stand in.
-/

namespace Spreadsheet

/-- Why a formula has no value. -/
inductive EvalError where
  /-- A reference leads back to a cell that is being evaluated. -/
  | cycle (name : String)
  /-- A reference to a cell that does not exist. -/
  | missing (name : String)
  /-- A text that is no formula. -/
  | malformed (error : SyntaxError)
  /-- A number that cannot be read. -/
  | badLiteral (text : String)
deriving DecidableEq, Repr

namespace EvalError

def message : EvalError → String
  | cycle name => "circular reference to " ++ name
  | missing name => "cell " ++ name ++ " not found"
  | malformed error => "syntax error: " ++ error.text
  | badLiteral text => "could not parse " ++ Text.quote text ++ " as a number"

/-- Whether the plain text of the failing cell may stand in for its value. -/
def isRecoverable : EvalError → Bool
  | cycle _ | missing _ => false
  | malformed _ | badLiteral _ => true

end EvalError

end Spreadsheet
