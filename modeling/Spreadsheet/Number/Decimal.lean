import Spreadsheet.Text.Digits

/-!
# Number/Decimal — decimal notation and the number it denotes

A text in decimal notation is read in two steps.  `Decimal.read?` splits it into a sign, the digits
and a power of ten; `Decimal.toFloat` rounds that decimal once, to the nearest number.
-/

namespace Spreadsheet

/-- The decimal `± digits · 10 ^ exponent`. -/
structure Decimal where
  negative : Bool
  digits : Nat
  exponent : Int
deriving DecidableEq, Repr

namespace Decimal

open Text

/-! ## The number a decimal denotes

The power of ten of a text has no bound, so decimals beyond the reach of every finite number are
recognised by their number of digits before anything is computed. -/

/-- How many decimal digits a number has. -/
def digitCount (n : Nat) : Nat := (Nat.toDigits 10 n).length

/-- The nearest number to a decimal without its sign. -/
def magnitude (d : Decimal) : Float :=
  let top := d.exponent + digitCount d.digits
  if d.digits = 0 ∨ top < -330 then 0
  else if 310 < top then 1 / 0
  else Float.ofScientific d.digits (d.exponent < 0) d.exponent.natAbs

/-- The nearest number to a decimal; a sign negates it. -/
def toFloat (d : Decimal) : Float :=
  if d.negative then -d.magnitude else d.magnitude

/-! ## Reading -/

/-- Splits off a leading sign; a text without one is positive. -/
def splitSign : List Char → Bool × List Char
  | '-' :: cs => (true, cs)
  | '+' :: cs => (false, cs)
  | cs => (false, cs)

/-- Whether a character announces a power of ten. -/
def isExponentMark (c : Char) : Bool := c = 'e' || c = 'E'

/-- The digits of a mantissa and how many of them follow the point: digits around at most one
point, at least one digit in all. -/
def readMantissa? (cs : List Char) : Option (Nat × Nat) :=
  let whole := cs.takeWhile (· ≠ '.')
  let fraction := (cs.dropWhile (· ≠ '.')).drop 1
  let digits := whole ++ fraction
  if digits ≠ [] ∧ digits.all Char.isDigit then some (natOfDigits digits, fraction.length) else none

/-- The power of ten that follows a mantissa: nothing, or a mark, an optional sign and digits. -/
def readExponent? : List Char → Option Int
  | [] => some 0
  | _ :: cs =>
      let (negative, digits) := splitSign cs
      if digits ≠ [] ∧ digits.all Char.isDigit then
        some (if negative then -(natOfDigits digits : Int) else natOfDigits digits)
      else none

/-- Reads decimal notation: an optional sign, a mantissa, and an optional power of ten after `e` or
`E`.  The names of special values are no decimals. -/
def read? (cs : List Char) : Option Decimal := do
  let (negative, body) := splitSign cs
  let (digits, places) ← readMantissa? (body.takeWhile (!isExponentMark ·))
  let power ← readExponent? (body.dropWhile (!isExponentMark ·))
  return ⟨negative, digits, power - places⟩

end Decimal

end Spreadsheet
