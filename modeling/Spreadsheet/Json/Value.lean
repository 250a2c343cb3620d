import Spreadsheet.Text.Digits

/-!
# Json/Value — documents as values

A document is read as a tree.  Numbers are kept as they are written, and a string that holds half of
a surrogate pair is kept as `none`, since no text holds one: both matter only where a value is
asked for.  Records are taken from an object by the names of its members or from an array by
position.
-/

namespace Spreadsheet

inductive Json where
  | null
  | bool (b : Bool)
  /-- A number as it is written. -/
  | number (text : List Char)
  /-- A string, or `none` if it holds half of a surrogate pair. -/
  | string (text : Option String)
  | array (items : List Json)
  | object (members : List (Option String × Json))
deriving Repr, Inhabited

namespace Json

open Text

/-! ## Values asked for -/

/-- The limit below which counts lie. -/
def countLimit : Nat := UInt64.size

/-- A count: a number written with digits alone, below the limit. -/
def count? : Json → Option Nat
  | number text =>
      if text.all Char.isDigit ∧ natOfDigits text < countLimit then some (natOfDigits text)
      else none
  | _ => none

/-- A text. -/
def text? : Json → Option String
  | string text => text
  | _ => none

/-- The items of an array. -/
def items? : Json → Option (List Json)
  | array items => some items
  | _ => none

/-- The values of the members with a name. -/
def membersNamed (name : String) (members : List (Option String × Json)) : List Json :=
  members.filterMap fun m => if m.1 = some name then some m.2 else none

/-- The field of a record, if present; a field that is present twice is a fault. -/
def field? (members : List (Option String × Json)) (name : String) : Option (Option Json) :=
  match membersNamed name members with
  | [] => some none
  | [value] => some (some value)
  | _ => none

/-- The fields of a record in the order of their names.  An object may hold other members besides,
an array holds the first fields in order and nothing else. -/
def fields? (names : List String) : Json → Option (List (Option Json))
  | object members =>
      if members.all (·.1.isSome) then names.mapM (field? members) else none
  | array items =>
      if items.length ≤ names.length then
        some (items.map some ++ List.replicate (names.length - items.length) none)
      else none
  | _ => none

/-! ## Values made -/

/-- A count as a document. -/
def ofCount (n : Nat) : Json := number (Nat.toDigits 10 n)

/-- A text as a document. -/
def ofText (s : String) : Json := string (some s)

/-- A record as a document. -/
def ofFields (fields : List (String × Json)) : Json :=
  object (fields.map fun field => (some field.1, field.2))

end Json

end Spreadsheet
