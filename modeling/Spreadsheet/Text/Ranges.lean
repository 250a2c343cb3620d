/-!
# Text/Ranges — sets of characters as closed ranges of code points

A property of characters that a standard defines by listing code points is kept as the list of its
maximal ranges, in ascending order; membership is `inRanges`.
-/

namespace Spreadsheet.Text

/-- Closed ranges of code points, ascending and apart. -/
abbrev Ranges := List (Nat × Nat)

/-- Whether a character lies in one of the ranges. -/
def inRanges (ranges : Ranges) (c : Char) : Bool :=
  ranges.any fun r => r.1 ≤ c.toNat && c.toNat ≤ r.2

theorem inRanges_iff {ranges : Ranges} {c : Char} :
    inRanges ranges c = true ↔ ∃ r ∈ ranges, r.1 ≤ c.toNat ∧ c.toNat ≤ r.2 := by
  simp [inRanges]

end Spreadsheet.Text
