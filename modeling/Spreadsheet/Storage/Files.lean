import Spreadsheet.Storage.ConfigFile
import Spreadsheet.Storage.Folder
import Spreadsheet.Storage.Table

/-!
# Storage/Files — sheets, tables and configurations in files
-/

namespace Spreadsheet

namespace Storage

/-- The text of a file that must be one. -/
def readText (path : String) : FileTask (Except StorageError String) := do
  match ← FileTask.readFile path with
  | .error e => return .error (.file e)
  | .ok bytes =>
      match String.fromUTF8? bytes with
      | some text => return .ok text
      | none => return .error (.file .notText)

/-- Saves the texts of a sheet. -/
def saveSheet (s : Sheet) (path : String) : FileTask (Except StorageError Unit) := do
  match ← FileTask.writeFile path (Snapshot.capture s).write.toUTF8 with
  | .ok _ => return .ok ()
  | .error e => return .error (.file e)

/-- Reads what is stored of a sheet. -/
def loadSnapshot (path : String) : FileTask (Except StorageError Snapshot) := do
  match ← readText path with
  | .error e => return .error e
  | .ok text => return Snapshot.read text

/-- Writes the texts of a sheet as a table. -/
def exportTable (s : Sheet) (path : String) : FileTask (Except StorageError Unit) := do
  match ← FileTask.writeFile path (String.ofList (Table.write (Table.ofSheet s))).toUTF8 with
  | .ok _ => return .ok ()
  | .error e => return .error (.tableFile e)

/-- Builds a sheet from a table. -/
def importTable (path : String) : FileTask (Except StorageError Sheet) := do
  match ← FileTask.readFile path with
  | .error e => return .error (.tableFile e)
  | .ok bytes =>
      match Table.readFile? bytes with
      | some records => return Table.toSheet records
      | none => return .error .tableText

/-- Reads a configuration. -/
def loadConfig (path : String) : FileTask (Except StorageError Config) := do
  match ← readText path with
  | .error e => return .error e
  | .ok text => return Config.read text

end Storage

end Spreadsheet
