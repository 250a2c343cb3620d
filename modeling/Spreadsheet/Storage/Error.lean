/-!
# Storage/Error — why a file cannot be read or written
-/

namespace Spreadsheet

/-- Why a file is out of reach. -/
inductive FileError where
  /-- The refusal of the system, with its code. -/
  | system (text : String) (code : Nat)
  /-- A refusal without a code. -/
  | other (text : String)
deriving DecidableEq, Repr

namespace FileError

def message : FileError → String
  | system text code => text ++ " (os error " ++ toString code ++ ")"
  | other text => text

def notFound : FileError := system "No such file or directory" 2
def notDirectory : FileError := system "Not a directory" 20
def isDirectory : FileError := system "Is a directory" 21
def nameTooLong : FileError := system "File name too long" 36
def nullInName : FileError := other "file name contained an unexpected NUL byte"
def notText : FileError := other "stream did not contain valid UTF-8"

end FileError

/-- The number of cells a stored sheet may have. -/
def maxCells : Nat := 1000000

/-- Why a stored sheet or configuration cannot be taken over. -/
inductive StorageError where
  | file (error : FileError)
  /-- The file is no document, or not of the expected form. -/
  | notDocument
  /-- A table file is out of reach. -/
  | tableFile (error : FileError)
  /-- A table file is no text. -/
  | tableText
  | emptyTable
  | rowOutOfRange (row : Nat)
  | columnOutOfRange (col : Nat)
  | tooLarge (rows cols : Nat)
deriving DecidableEq, Repr

namespace StorageError

/-- What kind of obstacle it is. -/
def category : StorageError → String
  | file _ => "Io"
  | notDocument => "Json"
  | tableFile _ | tableText => "Csv"
  | emptyTable | rowOutOfRange _ | columnOutOfRange _ | tooLarge .. => "Format"

def message : StorageError → String
  | file error => "IO error: " ++ error.message
  | notDocument => "Invalid file format - not a document of the expected form"
  | tableFile error => "CSV error: " ++ error.message
  | tableText => "CSV error: CSV parse error: invalid UTF-8"
  | emptyTable => "CSV file is empty"
  | rowOutOfRange row => "row " ++ toString row ++ " is out of range"
  | columnOutOfRange col => "column " ++ toString col ++ " is out of range"
  | tooLarge rows cols =>
      "Sheet of " ++ toString rows ++ "x" ++ toString cols ++ " exceeds the limit of " ++
        toString maxCells ++ " cells"

end StorageError

end Spreadsheet
