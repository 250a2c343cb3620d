import Spreadsheet.Json.Value

/-!
# Json/Write — documents as text

On one line without blanks, or laid out with every item and member on a line of its own, indented by
two blanks for each open container.
-/

namespace Spreadsheet

namespace Json

/-! ## Strings -/

/-- A lower-case hexadecimal digit. -/
def hexDigit (n : Nat) : Char := Nat.digitChar n

/-- How a string writes one character. -/
def escapeChar (c : Char) : List Char :=
  if c = '"' then ['\\', '"']
  else if c = '\\' then ['\\', '\\']
  else if c.toNat = 8 then ['\\', 'b']
  else if c.toNat = 12 then ['\\', 'f']
  else if c = '\n' then ['\\', 'n']
  else if c = '\r' then ['\\', 'r']
  else if c = '\t' then ['\\', 't']
  else if c.toNat < 0x20 then
    ['\\', 'u', '0', '0', hexDigit (c.toNat / 16), hexDigit (c.toNat % 16)]
  else [c]

/-- A string between quotes. -/
def quoted (cs : List Char) : List Char := '"' :: cs.flatMap escapeChar ++ ['"']

/-- A string as a value or a name; one that is no text is written as the empty string. -/
def writeText (text : Option String) : List Char := quoted ((text.getD "").toList)

/-- A truth value. -/
def writeBool (b : Bool) : List Char :=
  if b then ['t', 'r', 'u', 'e'] else ['f', 'a', 'l', 's', 'e']

/-! ## On one line -/

mutual

/-- A document on one line. -/
def compact : Json → List Char
  | null => ['n', 'u', 'l', 'l']
  | bool b => writeBool b
  | number text => text
  | string text => writeText text
  | array items => '[' :: compactItems items ++ [']']
  | object members => '\x7b' :: compactMembers members ++ ['\x7d']

/-- Items with commas between them. -/
def compactItems : List Json → List Char
  | [] => []
  | [item] => compact item
  | item :: items => compact item ++ ',' :: compactItems items

/-- Members with commas between them. -/
def compactMembers : List (Option String × Json) → List Char
  | [] => []
  | [(name, value)] => writeText name ++ ':' :: compact value
  | (name, value) :: members =>
      writeText name ++ ':' :: compact value ++ ',' :: compactMembers members

end

/-! ## Laid out -/

/-- A new line at a depth. -/
def newLine (depth : Nat) : List Char := '\n' :: List.replicate (2 * depth) ' '

mutual

/-- A document laid out inside `depth` containers. -/
def laidOut (depth : Nat) : Json → List Char
  | null => ['n', 'u', 'l', 'l']
  | bool b => writeBool b
  | number text => text
  | string text => writeText text
  | array [] => ['[', ']']
  | array (item :: items) =>
      '[' :: newLine (depth + 1) ++ laidOut (depth + 1) item ++ laidOutItems (depth + 1) items ++
        newLine depth ++ [']']
  | object [] => ['\x7b', '\x7d']
  | object ((name, value) :: members) =>
      '\x7b' :: newLine (depth + 1) ++ writeText name ++ [':', ' '] ++ laidOut (depth + 1) value ++
        laidOutMembers (depth + 1) members ++ newLine depth ++ ['\x7d']

/-- Further items, each behind a comma and on a line of its own. -/
def laidOutItems (depth : Nat) : List Json → List Char
  | [] => []
  | item :: items => ',' :: newLine depth ++ laidOut depth item ++ laidOutItems depth items

/-- Further members, each behind a comma and on a line of its own. -/
def laidOutMembers (depth : Nat) : List (Option String × Json) → List Char
  | [] => []
  | (name, value) :: members =>
      ',' :: newLine depth ++ writeText name ++ [':', ' '] ++ laidOut depth value ++
        laidOutMembers depth members

end

/-- A document on one line. -/
def compactText (document : Json) : String := String.ofList document.compact

/-- A document laid out over lines. -/
def prettyText (document : Json) : String := String.ofList (document.laidOut 0)

end Json

end Spreadsheet
