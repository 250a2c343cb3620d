import Spreadsheet.Config
import Spreadsheet.Json.Read
import Spreadsheet.Json.Write
import Spreadsheet.Storage.Error

/-!
# Storage/ConfigFile — configurations as documents

A configuration file names what it changes; every other setting keeps its default.
-/

namespace Spreadsheet

namespace Config

/-- The value of a field that is there, or its default. -/
def setting {α : Type} (decode : Json → Option α) (default : α) : Option Json → Option α
  | some value => decode value
  | none => some default

/-- The configuration of a document. -/
def ofDocument? (document : Json) : Option Config := do
  let default : Config := {}
  match ← document.fields? ["rows", "cols", "true_token", "false_token"] with
  | [rows, cols, trueToken, falseToken] =>
      return {
        rows := ← setting Json.count? default.rows rows
        cols := ← setting Json.count? default.cols cols
        trueToken := ← setting Json.text? default.trueToken trueToken
        falseToken := ← setting Json.text? default.falseToken falseToken }
  | _ => none

/-- Reads the text of a configuration file. -/
def read (text : String) : Except StorageError Config :=
  match (Json.read? text).bind ofDocument? with
  | some config => .ok config
  | none => .error .notDocument

/-- A configuration as a document. -/
def document (config : Config) : Json :=
  .ofFields
    [("rows", .ofCount config.rows), ("cols", .ofCount config.cols),
      ("true_token", .ofText config.trueToken), ("false_token", .ofText config.falseToken)]

/-- A configuration as text on one line. -/
def write (config : Config) : String := config.document.compactText

end Config

end Spreadsheet
