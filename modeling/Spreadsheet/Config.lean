/-!
# Config — the size of a new sheet and the words for truth values
-/

namespace Spreadsheet

/-- The size of a new sheet, and what a cell shows for a comparison that holds or fails. -/
structure Config where
  rows : Nat := 10
  cols : Nat := 10
  trueToken : String := "TRUE"
  falseToken : String := "FALSE"
deriving DecidableEq, Repr, Inhabited

namespace Config

/-- The default size with Ukrainian words. -/
def ukrainian : Config := { trueToken := "ІСТИНА", falseToken := "ХИБА" }

/-- The word for a truth value. -/
def logicalToken (config : Config) (holds : Bool) : String :=
  if holds then config.trueToken else config.falseToken

end Config

end Spreadsheet
