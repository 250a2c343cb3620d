import Spreadsheet.Storage.Snapshot

/-!
# Storage/Table — texts in rows, with commas between them

A table file has one record a line and one field for each column.  A field that holds a comma, a
quote or a line break is written between quotes, with each of its quotes doubled.  Reading accepts
more than writing produces: any of the usual line ends, blank lines, records of different lengths,
and text behind a closing quote.
-/

namespace Spreadsheet

namespace Table

/-! ## Writing -/

/-- Whether a character makes quotes necessary. -/
def needsQuotes (c : Char) : Bool := c = ',' || c = '"' || c = '\n' || c = '\r'

/-- A field between quotes, its own quotes doubled. -/
def quoted (field : List Char) : List Char :=
  '"' :: field.flatMap (fun c => if c = '"' then ['"', '"'] else [c]) ++ ['"']

/-- A field as it is written. -/
def writeField (field : List Char) : List Char :=
  if field.any needsQuotes then quoted field else field

/-- A record on a line of its own.  A single empty field is written as a pair of quotes, since a
blank line is no record. -/
def writeRecord (record : List (List Char)) : List Char :=
  if record = [[]] then ['"', '"', '\n']
  else [','].intercalate (record.map writeField) ++ ['\n']

/-- The text of a table. -/
def write (records : List (List (List Char))) : List Char := records.flatMap writeRecord

/-! ## Reading

The reader looks at its input one symbol at a time and cares only for what the symbol means, so the
symbols may be characters or bytes. -/

/-- What a symbol means. -/
inductive Mark where
  | comma
  | quote
  | lineEnd
  | other
deriving DecidableEq, Repr

/-- What a character means. -/
def markOf (c : Char) : Mark :=
  if c = ',' then .comma
  else if c = '"' then .quote
  else if c = '\n' ∨ c = '\r' then .lineEnd
  else .other

/-- What a byte means: the same as the character with its number. -/
def markOfByte (byte : UInt8) : Mark := markOf (Char.ofNat byte.toNat)

/-- Where in a record the reader stands. -/
inductive Place where
  | recordStart
  | fieldStart
  /-- In a field without quotes, or behind the closing quote of one. -/
  | plain
  | quoted
  /-- Behind a quote inside a quoted field, which may close it. -/
  | quote
deriving DecidableEq, Repr

/-- A reader under way; everything collected stands latest first. -/
structure Reader (α : Type) where
  place : Place
  field : List α
  fields : List (List α)
  records : List (List (List α))

namespace Reader

variable {α : Type}

/-- Before the first symbol. -/
def initial : Reader α := ⟨.recordStart, [], [], []⟩

/-- Adds a symbol to the field. -/
def add (r : Reader α) (place : Place) (symbol : α) : Reader α :=
  { r with place, field := symbol :: r.field }

/-- Completes the field. -/
def endField (r : Reader α) : Reader α :=
  { r with place := .fieldStart, field := [], fields := r.field.reverse :: r.fields }

/-- Completes the field and the record. -/
def endRecord (r : Reader α) : Reader α :=
  let r := r.endField
  { r with place := .recordStart, fields := [], records := r.fields.reverse :: r.records }

/-- Reads a symbol of a field without quotes. -/
def stepPlain (r : Reader α) (symbol : α) : Mark → Reader α
  | .comma => r.endField
  | .lineEnd => r.endRecord
  | .quote | .other => r.add .plain symbol

/-- Reads one symbol. -/
def step (mark : α → Mark) (r : Reader α) (symbol : α) : Reader α :=
  match r.place, mark symbol with
  | .recordStart, .lineEnd => r
  | .recordStart, .quote | .fieldStart, .quote => { r with place := .quoted }
  | .quoted, .quote => { r with place := .quote }
  | .quoted, _ | .quote, .quote => r.add .quoted symbol
  | _, m => r.stepPlain symbol m

/-- The records, the last one complete or not. -/
def finish (r : Reader α) : List (List (List α)) :=
  match r.place with
  | .recordStart => r.records.reverse
  | _ => r.endRecord.records.reverse

end Reader

/-- The records in a sequence of symbols. -/
def records {α : Type} (mark : α → Mark) (symbols : List α) : List (List (List α)) :=
  (symbols.foldl (Reader.step mark) .initial).finish

/-- A sequence without the mark that may stand in front of it. -/
def withoutOrderMark {α : Type} [BEq α] (orderMark symbols : List α) : List α :=
  if orderMark.isPrefixOf symbols then symbols.drop orderMark.length else symbols

/-- The mark that may stand in front of a text. -/
def orderMark : List Char := [Char.ofNat 0xFEFF]

/-- The mark as it is encoded. -/
def encodedOrderMark : List UInt8 := [0xEF, 0xBB, 0xBF]

/-- The records of a text. -/
def read (cs : List Char) : List (List (List Char)) :=
  records markOf (withoutOrderMark orderMark cs)

/-- The records of a sequence of bytes, if every field is a text. -/
def readBytes? (bytes : List UInt8) : Option (List (List (List Char))) :=
  (records markOfByte (withoutOrderMark encodedOrderMark bytes)).mapM fun record =>
    record.mapM fun field => (String.fromUTF8? field.toByteArray).map String.toList

/-- The records of a file.  A file that is a text is read as one; in any other file the quotes may
still part bytes that make up a text without them. -/
def readFile? (bytes : ByteArray) : Option (List (List (List Char))) :=
  match String.fromUTF8? bytes with
  | some text => some (read text.toList)
  | none => readBytes? bytes.toList

/-! ## Sheets -/

/-- The texts of a sheet, row by row. -/
def ofSheet (s : Sheet) : List (List (List Char)) :=
  (List.range s.rows).map fun row =>
    (List.range s.cols).map fun col =>
      match s.cellAt ⟨row, col⟩ with
      | some c => c.text.toList
      | none => []

/-- The snapshot of one record: its fields that are not empty. -/
def storedRow (row : Nat) (record : List (List Char)) : List StoredCell :=
  record.zipIdx.filterMap fun (field, col) =>
    if field = [] then none else some ⟨row, col, String.ofList field⟩

/-- The snapshot of a table; its longest record decides how wide it is. -/
def snapshot (records : List (List (List Char))) : Snapshot :=
  { rows := records.length
    cols := records.foldl (fun cols record => max cols record.length) 0
    cells := records.zipIdx.flatMap fun (record, row) => storedRow row record }

/-- Builds a sheet from a table. -/
def toSheet (records : List (List (List Char))) : Except StorageError Sheet :=
  match records with
  | [] => .error .emptyTable
  | _ => (snapshot records).restore

end Table

end Spreadsheet
