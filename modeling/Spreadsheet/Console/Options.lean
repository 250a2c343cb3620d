/-!
# Console/Options — the arguments of the program

A sheet to open may be named, a configuration file with `-c` or `--config`, and `-v` or `--verbose`
asks for everything that is noted.  One-letter options may share a dash, and the last of them may
be followed by its value.
-/

namespace Spreadsheet

/-- What the program was started with. -/
structure Options where
  /-- The sheet to open. -/
  file : Option String := none
  /-- The configuration file. -/
  config : Option String := none
  /-- Whether to show everything that is noted. -/
  verbose : Bool := false
deriving DecidableEq, Repr

namespace Options

/-- How the program is used. -/
def usage : String := "usage: [--config FILE] [--verbose] [FILE]"

/-! ## Single settings

Nothing may be set twice. -/

/-- Names the sheet to open. -/
def setFile (o : Options) (file : String) : Option Options :=
  if o.file.isNone then some { o with file := some file } else none

/-- Names the configuration file. -/
def setConfig (o : Options) (file : String) : Option Options :=
  if o.config.isNone ∧ file ≠ "" then some { o with config := some file } else none

/-- Asks for everything that is noted. -/
def setVerbose (o : Options) : Option Options :=
  if o.verbose then none else some { o with verbose := true }

/-! ## Arguments -/

/-- Options so far, and whether the next argument names the configuration file. -/
inductive Reading where
  | free (options : Options)
  | needsConfig (options : Options)
  /-- Only file names follow. -/
  | filesOnly (options : Options)

/-- Reads letters behind one dash. -/
def readLetters (o : Options) : List Char → Option Reading
  | [] => some (.free o)
  | 'v' :: rest => do readLetters (← o.setVerbose) rest
  | 'c' :: rest =>
      match rest with
      | [] => some (.needsConfig o)
      | '=' :: file => (o.setConfig (String.ofList file)).map .free
      | file => (o.setConfig (String.ofList file)).map .free
  | _ => none

/-- What an argument is. -/
def readFree (o : Options) (argument : String) : Option Reading :=
  match argument.toList with
  | ['-', '-'] => some (.filesOnly o)
  | '-' :: '-' :: name =>
      if name = "verbose".toList then o.setVerbose.map .free
      else if name = "config".toList then some (.needsConfig o)
      else if "config=".toList.isPrefixOf name then
        (o.setConfig (String.ofList (name.drop "config=".length))).map .free
      else none
  | '-' :: letter :: letters => o.readLetters (letter :: letters)
  | _ => (o.setFile argument).map .free

/-- Reads the next argument. -/
def Reading.next : Reading → String → Option Reading
  | free o, argument => o.readFree argument
  | needsConfig o, argument =>
      match argument.toList with
      | '-' :: _ :: _ => none
      | _ => (o.setConfig argument).map free
  | filesOnly o, argument => (o.setFile argument).map filesOnly

/-- The options, if nothing is missing. -/
def Reading.finish : Reading → Option Options
  | free o | filesOnly o => some o
  | needsConfig _ => none

/-- Reads the arguments. -/
def parse (arguments : List String) : Option Options := do
  (← arguments.foldlM Reading.next (.free {})).finish

end Options

end Spreadsheet
