import Spreadsheet.Text.Quoted

/-!
# Formula/Token — the words and signs of a formula

Numbers, cell references, names without a meaning, the three function words, and single-character
signs.  `Token.describe` is the form in which messages show a token.
-/

namespace Spreadsheet

/-- The functions a formula may call. -/
inductive Builtin where
  | inc
  | dec
  | not
deriving DecidableEq, Repr

inductive Token where
  /-- A number as it is written, with either separator. -/
  | number (text : String)
  /-- A cell reference in capital letters. -/
  | reference (name : String)
  /-- A word that is neither a function nor a reference. -/
  | identifier (name : String)
  | function (f : Builtin)
  | plus
  | minus
  | times
  | divide
  | power
  | less
  | greater
  | equal
  | leftParen
  | rightParen
deriving DecidableEq, Repr

namespace Token

/-- A kind of token with its text. -/
private def describeText (kind text : String) : String := kind ++ "(" ++ Text.quote text ++ ")"

/-- The form in which messages show a token. -/
def describe : Token → String
  | number text => describeText "Number" text
  | reference name => describeText "CellRef" name
  | identifier name => describeText "Identifier" name
  | function .inc => "Inc"
  | function .dec => "Dec"
  | function .not => "Not"
  | plus => "Plus"
  | minus => "Minus"
  | times => "Multiply"
  | divide => "Divide"
  | power => "Power"
  | less => "Less"
  | greater => "Greater"
  | equal => "Equal"
  | leftParen => "LeftParen"
  | rightParen => "RightParen"

/-- The token a single character stands for. -/
def ofSign? : Char → Option Token
  | '+' => some plus
  | '-' => some minus
  | '*' => some times
  | '/' => some divide
  | '^' => some power
  | '<' => some less
  | '>' => some greater
  | '=' => some equal
  | '(' => some leftParen
  | ')' => some rightParen
  | _ => none

end Token

end Spreadsheet
