import Spreadsheet.Formula.Scan

/-!
# Formula/Fault — why a text is no formula

A fault is a cause at a position: the offending item is a place where no token can be read, a token
that cannot stand where it stands, or the end of the text.  `SyntaxError` is the report of a fault,
its wording and its position.
-/

namespace Spreadsheet

/-- What stopped the reading of a formula.  An item that is `none` is the end of the text. -/
inductive FaultCause where
  | lexical (fault : LexicalFault)
  /-- A word with no meaning where an operand should start. -/
  | unknownIdentifier (name : String)
  /-- Anything else that starts no operand. -/
  | unexpected (found : Option Token)
  /-- A parenthesis is due. -/
  | expected (wanted : Token) (found : Option Token)
  /-- The formula is complete before this token. -/
  | trailing (found : Token)
deriving DecidableEq, Repr

namespace FaultCause

/-- The form in which messages show a token or the end of the text. -/
def describeItem : Option Token → String
  | some token => token.describe
  | none => "Eof"

def message : FaultCause → String
  | lexical fault => fault.message
  | unknownIdentifier name => "Unknown identifier: " ++ name
  | unexpected found => "Unexpected token: " ++ describeItem found
  | expected wanted found =>
      "Expected " ++ wanted.describe ++ ", found " ++ describeItem found
  | trailing found => "Unexpected token at end: " ++ found.describe

end FaultCause

/-- A cause and the position of the offending item. -/
structure Fault where
  cause : FaultCause
  position : Nat
deriving DecidableEq, Repr

/-- A fault as it is reported: its wording and its position. -/
structure SyntaxError where
  message : String
  position : Nat
deriving DecidableEq, Repr

namespace SyntaxError

/-- The report on one line. -/
def text (e : SyntaxError) : String := e.message ++ " at position " ++ toString e.position

end SyntaxError

/-- The report of a fault. -/
def Fault.report (fault : Fault) : SyntaxError := ⟨fault.cause.message, fault.position⟩

end Spreadsheet
