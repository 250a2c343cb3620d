import Spreadsheet.Number.Decimal

/-!
# Number/Shortest — the fewest digits that identify a number

Every finite positive number is `mantissa · 2 ^ exponent`, and the reals that round to it form an
interval.  `Binary.shortest` tries decimal grids from coarse to fine: on each it tests the two
neighbours of the number by exact integer arithmetic, and the first grid with a hit gives the
digits.
-/

namespace Spreadsheet

/-- A positive number, `mantissa · 2 ^ exponent`. -/
structure Binary where
  mantissa : Nat
  exponent : Int
  /-- Whether the gap to the number below is half the gap to the number above. -/
  narrowBelow : Bool
deriving DecidableEq, Repr

namespace Binary

/-- The size of the finite number with these bits; the sign bit is ignored. -/
def ofBits (bits : UInt64) : Binary :=
  let biased := ((bits >>> 52) &&& 0x7FF).toNat
  let fraction := (bits &&& 0xFFFFFFFFFFFFF).toNat
  if biased = 0 then ⟨fraction, -1074, false⟩
  else ⟨0x10000000000000 + fraction, (biased : Int) - 1075, fraction = 0 && 1 < biased⟩

/-! ## Exact comparisons -/

/-- Compares `a · 10 ^ i` with `n · 2 ^ j`. -/
def compareScaled (a : Nat) (i : Int) (n : Nat) (j : Int) : Ordering :=
  compare (a * Nat.pow 10 i.toNat * Nat.pow 2 (-j).toNat)
    (n * Nat.pow 2 j.toNat * Nat.pow 10 (-i).toNat)

/-- Whether `digits · 10 ^ power` rounds to the number: it lies between the midpoints to the two
neighbours, which themselves belong to the number with the even mantissa. -/
def readsBack (x : Binary) (digits : Nat) (power : Int) : Bool :=
  let low := 4 * x.mantissa - (if x.narrowBelow then 1 else 2)
  let high := 4 * x.mantissa + 2
  let fromLow := compareScaled digits power low (x.exponent - 2)
  let fromHigh := compareScaled digits power high (x.exponent - 2)
  if x.mantissa % 2 = 0 then fromLow != .lt && fromHigh != .gt
  else fromLow == .gt && fromHigh == .lt

/-! ## The search -/

/-- The least power of ten above the number.  The binary length of the number fixes it up to one
step either way. -/
def scale (x : Binary) : Int :=
  let bits : Int := (Nat.log2 x.mantissa : Int) + 1 + x.exponent
  let guess := bits * 30103 / 100000
  ([guess - 1, guess, guess + 1].find? fun k =>
    compareScaled 1 k x.mantissa x.exponent == .gt).getD (guess + 2)

/-- The largest multiple of `10 ^ power` that is at most the number. -/
def gridBelow (x : Binary) (power : Int) : Nat :=
  (x.mantissa * Nat.pow 2 x.exponent.toNat * Nat.pow 10 (-power).toNat)
    / (Nat.pow 2 (-x.exponent).toNat * Nat.pow 10 power.toNat)

/-- The neighbour of the number on the grid of `10 ^ power` that reads back; of two the closer, and
the upper one when they are equally close. -/
def onGrid? (x : Binary) (power : Int) : Option Nat :=
  let below := x.gridBelow power
  let above := below + 1
  match x.readsBack below power, x.readsBack above power with
  | true, true =>
      if compareScaled (below + above) power (2 * x.mantissa) x.exponent = .gt then some below
      else some above
  | true, false => some below
  | false, true => some above
  | false, false => none

/-- Moves the trailing zeros of the digits into the power, at most `limit` of them. -/
def stripZeros : Nat → Nat → Int → Nat × Int
  | limit + 1, digits, power =>
      if digits ≠ 0 ∧ digits % 10 = 0 then stripZeros limit (digits / 10) (power + 1)
      else (digits, power)
  | 0, digits, power => (digits, power)

/-- The exact value of the number as digits and a power of ten. -/
def exactly (x : Binary) : Nat × Int :=
  (x.mantissa * Nat.pow 2 x.exponent.toNat * Nat.pow 5 (-x.exponent).toNat, min x.exponent 0)

/-- The fewest digits that read back to the number, with their power of ten.  Seventeen digits
always suffice. -/
def shortest (x : Binary) : Nat × Int :=
  let k := x.scale
  let found := (List.range 17).findSome? fun n =>
    let power := k - (n + 1 : Nat)
    (x.onGrid? power).map fun digits => stripZeros 20 digits power
  found.getD x.exactly

end Binary

end Spreadsheet
