import Spreadsheet.Text.Blank
import Spreadsheet.Text.Lowercase

/-!
# Console/Command — the commands a user types

A line names a command with its first word, in any case.  A space ends the word, and what follows it
is the argument: a text is taken as it stands, a cell or a file name without the blanks around it.
-/

namespace Spreadsheet

open Text

/-- What a user can ask for. -/
inductive Command where
  /-- Enter a text and evaluate the cell. -/
  | set (cell text : String)
  /-- Show the text and the value of a cell. -/
  | get (cell : String)
  /-- Show the values of the sheet. -/
  | display
  /-- Evaluate every cell. -/
  | recalculate
  | addRow
  | addColumn
  | deleteRow
  | deleteColumn
  /-- Start over with an empty sheet. -/
  | newSheet
  /-- Save the texts of the sheet. -/
  | save (file : String)
  /-- Take over a saved sheet. -/
  | load (file : String)
  /-- Write the texts of the sheet as a table. -/
  | exportTable (file : String)
  /-- Take over the texts of a table. -/
  | importTable (file : String)
  | help
  | quit
deriving DecidableEq, Repr

/-- Why a line is no command. -/
inductive CommandError where
  | empty
  | unknown (word : String)
  /-- The command lacks its argument; this is how it is used. -/
  | usage (form : String)
deriving DecidableEq, Repr

namespace CommandError

def message : CommandError → String
  | empty => "empty command"
  | unknown word => "unknown command: " ++ word ++ " (try 'help')"
  | usage form => "usage: " ++ form

end CommandError

namespace Command

/-- The characters before the first space, and those behind it if there is one. -/
def splitAtSpace (cs : List Char) : List Char × Option (List Char) :=
  match cs.dropWhile (· ≠ ' ') with
  | [] => (cs, none)
  | _ :: rest => (cs.takeWhile (· ≠ ' '), some rest)

/-- The first word of a line and its argument.  Blanks other than the space belong to the word,
unless nothing but blanks follows it. -/
def splitLine (line : List Char) : List Char × List Char :=
  match splitAtSpace (trimStart line) with
  | (word, some rest) => (word, rest)
  | (word, none) => (trimEnd word, [])

/-- A command with one argument, without the blanks around it. -/
def withArgument (form : String) (command : String → Command) (rest : List Char) :
    Except CommandError Command :=
  match trim rest with
  | [] => .error (.usage form)
  | argument => .ok (command (String.ofList argument))

/-- The command to set a cell; one space stands between the cell and its text. -/
def parseSet (rest : List Char) : Except CommandError Command :=
  let (cell, text) := splitAtSpace rest
  if cell = [] then .error (.usage "set <cell> <text>")
  else .ok (.set (String.ofList cell) (String.ofList (text.getD [])))

/-- The command with a name in small letters. -/
def ofWord (word : String) (rest : List Char) : Except CommandError Command :=
  match word with
  | "set" => parseSet rest
  | "get" => withArgument "get <cell>" get rest
  | "show" => .ok display
  | "recalc" => .ok recalculate
  | "addrow" => .ok addRow
  | "addcol" => .ok addColumn
  | "delrow" => .ok deleteRow
  | "delcol" => .ok deleteColumn
  | "new" => .ok newSheet
  | "save" => withArgument "save <file>" save rest
  | "open" => withArgument "open <file>" load rest
  | "export" => withArgument "export <file>" exportTable rest
  | "import" => withArgument "import <file>" importTable rest
  | "help" | "?" => .ok help
  | "quit" | "exit" | "q" => .ok quit
  | "" => .error .empty
  | _ => .error (.unknown word)

/-- Reads a line. -/
def parse (line : String) : Except CommandError Command :=
  let (word, rest) := splitLine line.toList
  ofWord (String.ofList (lower word)) rest

end Command

end Spreadsheet
