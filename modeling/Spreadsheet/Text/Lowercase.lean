import Spreadsheet.Text.Casing

/-!
# Text/Lowercase — the lower-case form of a text

Each character is mapped on its own, except the capital sigma, whose form depends on its
neighbours: at the end of a word it becomes the final sigma.  One character, the capital I with a
dot, has a lower-case form of two characters.
-/

namespace Spreadsheet.Text

/-- The lower-case form of one character, wherever it stands. -/
def lowerChar (c : Char) : List Char :=
  if c.toNat < 0x80 then [c.toLower]
  else if c.toNat = 0x130 then ['i', Char.ofNat 0x307]
  else match lowerRuns.find? (·.covers c.toNat) with
    | some run => [Char.ofNat (run.image + (c.toNat - run.first))]
    | none => [c]

/-- Whether the nearest character that is not case-ignorable has a case. -/
def meetsCased (cs : List Char) : Bool :=
  match cs.dropWhile isCaseIgnorable with
  | [] => false
  | c :: _ => isCased c

/-- The capital sigma. -/
def capitalSigma : Char := Char.ofNat 0x3A3

/-- The lower-case form of the capital sigma between two texts, the first of them reversed: final
after a letter that no letter follows. -/
def lowerSigma (before after : List Char) : Char :=
  if meetsCased before && !meetsCased after then Char.ofNat 0x3C2 else Char.ofNat 0x3C3

/-- The lower-case form of a text that follows another one, given reversed. -/
def lowerAfter : List Char → List Char → List Char
  | _, [] => []
  | before, c :: cs =>
      (if c = capitalSigma then [lowerSigma before cs] else lowerChar c) ++
        lowerAfter (c :: before) cs

/-- The lower-case form of a text. -/
def lower (cs : List Char) : List Char := lowerAfter [] cs

end Spreadsheet.Text
