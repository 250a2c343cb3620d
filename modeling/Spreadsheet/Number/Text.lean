import Spreadsheet.Number.Shortest

/-!
# Number/Text — how a cell shows a number

The fewest digits that identify the number, always in positional notation; whole numbers carry no
point, and a negative zero keeps its sign.
-/

namespace Spreadsheet

/-- Positional notation of `digits · 10 ^ power`. -/
def positional (digits : Nat) (power : Int) : List Char :=
  let ds := Nat.toDigits 10 digits
  if 0 ≤ power then ds ++ List.replicate power.toNat '0'
  else
    let places := (-power).toNat
    if places < ds.length then ds.take (ds.length - places) ++ '.' :: ds.drop (ds.length - places)
    else '0' :: '.' :: List.replicate (places - ds.length) '0' ++ ds

/-- The text of a number without its sign. -/
def magnitudeText (x : Binary) : List Char :=
  if x.mantissa = 0 then ['0']
  else
    let (digits, power) := x.shortest
    positional digits power

/-- The text a cell shows for a number. -/
def numberText (value : Float) : String :=
  if value.isNaN then "NaN"
  else
    let sign := if value.toBits >>> 63 = 1 then "-" else ""
    if value.isInf then sign ++ "∞"
    else sign ++ String.ofList (magnitudeText (Binary.ofBits value.toBits))

end Spreadsheet
