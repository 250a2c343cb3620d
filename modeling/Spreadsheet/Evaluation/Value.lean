import Spreadsheet.Evaluation.Error
import Spreadsheet.Formula.Expr
import Spreadsheet.Number.Decimal
import Spreadsheet.Text.Blank

/-!
# Evaluation/Value — the values of operations and of plain texts

Signs, operators and functions act on numbers; comparisons and `not` yield the numbers one and zero
and mark them as truth values.  A text that is no formula still has a value when it is empty or
plainly a number.
-/

namespace Spreadsheet

open Text

/-- The value of a formula, and whether its outermost operation yields a truth value. -/
structure Evaluated where
  value : Float
  logical : Bool

namespace Evaluated

/-- A plain number. -/
def number (value : Float) : Evaluated := ⟨value, false⟩

/-- A truth value. -/
def truth (holds : Bool) : Evaluated := ⟨if holds then 1 else 0, true⟩

end Evaluated

/-! ## Operations -/

/-- A sign before a number. -/
def Sign.apply : Sign → Float → Float
  | plus, x => x
  | minus, x => -x

/-- An operator between two numbers. -/
def BinaryOp.apply : BinaryOp → Float → Float → Evaluated
  | add, x, y => .number (x + y)
  | subtract, x, y => .number (x - y)
  | multiply, x, y => .number (x * y)
  | divide, x, y => .number (x / y)
  | power, x, y => .number (x ^ y)
  | equal, x, y => .truth (x == y)
  | less, x, y => .truth (x < y)
  | greater, x, y => .truth (y < x)

/-- A function of a number. -/
def Builtin.apply : Builtin → Float → Evaluated
  | inc, x => .number (x + 1)
  | dec, x => .number (x - 1)
  | not, x => .truth (x == 0)

/-! ## Texts -/

/-- The value of a number as a formula writes it, with either separator. -/
def literalValue (text : String) : Except EvalError Float :=
  match Decimal.read? (text.toList.map fun c => if c = ',' then '.' else c) with
  | some d => .ok d.toFloat
  | none => .error (.badLiteral text)

/-- Whether what follows a mantissa is nothing or a power of ten. -/
def isPowerText : List Char → Bool
  | [] => true
  | c :: cs =>
      let digits := (Decimal.splitSign cs).2
      Decimal.isExponentMark c && digits != [] && digits.all Char.isDigit

/-- Whether a text is plainly a number: an optional sign, digits with at most one point among them,
and an optional power of ten. -/
def isNumericText (cs : List Char) : Bool :=
  let body := (Decimal.splitSign cs).2
  let whole := body.takeWhile Char.isDigit
  match body.dropWhile Char.isDigit with
  | '.' :: rest =>
      let fraction := rest.takeWhile Char.isDigit
      (whole != [] || fraction != []) && isPowerText (rest.dropWhile Char.isDigit)
  | rest => whole != [] && isPowerText rest

/-- The value of a text that is no formula: zero when it is empty, the number it plainly shows, and
nothing otherwise. -/
def scalarValue? (text : String) : Option Float :=
  if text = "" then some 0
  else
    let plain := trim text.toList
    if isNumericText plain then (Decimal.read? plain).map Decimal.toFloat else none

end Spreadsheet
