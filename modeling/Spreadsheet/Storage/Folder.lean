import Spreadsheet.Storage.Error

/-!
# Storage/Folder — requests for files, and a folder that answers them

Work with files is described by the requests it makes: a `FileTask` asks for a file to be read or
written and goes on with the answer.  `Folder` answers the requests from a list of files; it has no
folders inside it.
-/

namespace Spreadsheet

/-! ## Requests -/

/-- Work that may read and write files before it yields a result. -/
inductive FileTask (α : Type) where
  | done (result : α)
  | read (path : String) (next : Except FileError ByteArray → FileTask α)
  | write (path : String) (content : ByteArray) (next : Except FileError Unit → FileTask α)

namespace FileTask

variable {α β : Type}

/-- Goes on with the result. -/
def bind : FileTask α → (α → FileTask β) → FileTask β
  | done result, f => f result
  | read path next, f => read path fun answer => (next answer).bind f
  | write path content next, f => write path content fun answer => (next answer).bind f

instance : Monad FileTask where
  pure := done
  bind := bind

/-- Reads a file. -/
def readFile (path : String) : FileTask (Except FileError ByteArray) := read path done

/-- Writes a file. -/
def writeFile (path : String) (content : ByteArray) : FileTask (Except FileError Unit) :=
  write path content done

end FileTask

/-! ## A folder -/

/-- The files of a folder. -/
structure Folder where
  files : List (String × ByteArray)
deriving Inhabited

namespace Folder

/-- The content of a file. -/
def content? (folder : Folder) (name : String) : Option ByteArray := folder.files.lookup name

/-- Stores a file, in place of the one of that name if there is one. -/
def store (folder : Folder) (name : String) (content : ByteArray) : Folder :=
  match folder.content? name with
  | some _ => ⟨folder.files.map fun f => if f.1 = name then (name, content) else f⟩
  | none => ⟨folder.files ++ [(name, content)]⟩

/-- A folder that a path can lead through: this one, or one of those around it. -/
inductive Site where
  | here
  | outside
deriving DecidableEq

/-- What a path leads to: a folder, or a name in one.  A file of that name may exist or not. -/
inductive Place where
  | folder (site : Site)
  | entry (site : Site) (name : String)
deriving DecidableEq

/-- The longest name a file may have, in bytes. -/
def nameLimit : Nat := 255

/-- The length that no path may reach, in bytes. -/
def pathLimit : Nat := 4096

/-- The content of the file of a name; outside there are no files. -/
def find (folder : Folder) (site : Site) (name : String) : Except FileError ByteArray :=
  if nameLimit < name.utf8ByteSize then .error .nameTooLong
  else
    match site, folder.content? name with
    | .here, some content => .ok content
    | _, _ => .error .notFound

/-- One part of a path further.  A dot stays in a folder, two dots lead out of it, and nothing lies
behind a file. -/
def step (folder : Folder) : Place → String → Except FileError Place
  | .folder site, part =>
      .ok (if part = "." then .folder site
        else if part = ".." then .folder .outside
        else .entry site part)
  | .entry site name, _ => do
      let _ ← folder.find site name
      throw .notDirectory

/-- The parts of a path between slashes. -/
def parts (path : String) : List String := (path.splitOn "/").filter (· ≠ "")

/-- The folder where a path starts: outside if a slash is in front, otherwise here. -/
def start (path : String) : Site := if path.startsWith "/" then .outside else .here

/-- Where a path leads. -/
def place (folder : Folder) (path : String) : Except FileError Place :=
  if path.contains (Char.ofNat 0) then .error .nullInName
  else if path = "" then .error .notFound
  else if pathLimit ≤ path.utf8ByteSize then .error .nameTooLong
  else (parts path).foldlM folder.step (.folder (start path))

/-- Reads a file.  A slash behind its name asks for a folder. -/
def read (folder : Folder) (path : String) : Except FileError ByteArray := do
  match ← folder.place path with
  | .folder _ => throw .isDirectory
  | .entry site name =>
      let content ← folder.find site name
      if path.endsWith "/" then throw .notDirectory
      return content

/-- Writes a file.  A slash behind its name asks for a folder, whether there is such a file or not;
outside nothing can be written. -/
def write (folder : Folder) (path : String) (content : ByteArray) : Except FileError Folder := do
  match ← folder.place path with
  | .folder _ => throw .isDirectory
  | .entry site name =>
      if path.endsWith "/" then throw .isDirectory
      if nameLimit < name.utf8ByteSize then throw .nameTooLong
      if site = .outside then throw .notFound
      return folder.store name content

end Folder

/-- Does the work with the files of a folder. -/
def FileTask.runIn {α : Type} : FileTask α → Folder → α × Folder
  | done result, folder => (result, folder)
  | read path next, folder => (next (folder.read path)).runIn folder
  | write path content next, folder =>
      match folder.write path content with
      | .ok folder => (next (.ok ())).runIn folder
      | .error error => (next (.error error)).runIn folder

end Spreadsheet
