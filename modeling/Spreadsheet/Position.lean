import Spreadsheet.Text.Digits

/-!
# Position — places in the grid and their names

A position is a row and a column, both counted from zero.  Its name is the label of the column
followed by the row counted from one: `B3`.  Column labels count `A … Z, AA, AB, …`, a numeration
in base 26 whose digits run from one, so every column has exactly one label.
-/

namespace Spreadsheet

open Text

/-- A place in the grid, counted from zero. -/
structure Position where
  row : Nat
  col : Nat
deriving DecidableEq, Repr, Inhabited

/-! ## Labels and names -/

/-- The capital letter with a given number, counted from zero. -/
def capital (n : Nat) : Char := Char.ofNat ('A'.toNat + n)

/-- The letters of a column. -/
def columnLetters (col : Nat) : List Char :=
  if col < 26 then [capital col]
  else columnLetters (col / 26 - 1) ++ [capital (col % 26)]
termination_by col
decreasing_by omega

/-- The label of a column: `A` for the first one, `AA` for the one after `Z`. -/
def columnLabel (col : Nat) : String := String.ofList (columnLetters col)

namespace Position

/-- The letters and digits of the name of a position. -/
def nameChars (p : Position) : List Char := columnLetters p.col ++ Nat.toDigits 10 (p.row + 1)

/-- The name of a position, `B3` for the second column of the third row. -/
def name (p : Position) : String := String.ofList p.nameChars

end Position

/-! ## Reading names -/

/-- Rows and columns are counted in 64 bits; a name with a larger number denotes no position. -/
def indexLimit : Nat := UInt64.size

/-- The value of a letter in a column label, in either case, counted from one. -/
def letterValue (c : Char) : Nat := c.toUpper.toNat - 'A'.toNat + 1

/-- The number of a column label, counted from one. -/
def columnNumber (letters : List Char) : Nat :=
  letters.foldl (fun n c => 26 * n + letterValue c) 0

namespace Position

/-- Reads a name: letters, then digits, in any case and with any leading zeros.  There is no row
zero, and neither number may reach `indexLimit`. -/
def ofChars? (cs : List Char) : Option Position :=
  let letters := cs.takeWhile Char.isAlpha
  let digits := cs.dropWhile Char.isAlpha
  let col := columnNumber letters
  let row := natOfDigits digits
  if letters ≠ [] ∧ digits ≠ [] ∧ digits.all Char.isDigit ∧ 0 < row ∧ row < indexLimit
      ∧ col < indexLimit then
    some ⟨row - 1, col - 1⟩
  else none

/-- The position a name denotes. -/
def ofName? (name : String) : Option Position := ofChars? name.toList

end Position

/-- A name in capital letters; only ASCII letters change. -/
def canonicalName (name : String) : String := String.ofList (name.toList.map Char.toUpper)

end Spreadsheet
