/-!
# Text/Digits — runs of decimal digits

The value of a run of ASCII digits, most significant first.
-/

namespace Spreadsheet.Text

/-- The value of one digit. -/
def digitValue (c : Char) : Nat := c.toNat - '0'.toNat

/-- The value of a run of digits. -/
def natOfDigits (cs : List Char) : Nat := cs.foldl (fun n c => 10 * n + digitValue c) 0

@[simp] theorem natOfDigits_nil : natOfDigits [] = 0 := rfl

end Spreadsheet.Text
