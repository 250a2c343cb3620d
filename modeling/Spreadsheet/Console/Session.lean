import Spreadsheet.Console.Execute
import Spreadsheet.Console.Options

/-!
# Console/Session — a dialogue with the user

A session shows where the workbook stands and then answers line after line, each behind a prompt,
until it is told to quit or the input ends.  `Session.start` and `Session.answer` yield one turn
each; `Session.run` strings them together over a whole input.
-/

namespace Spreadsheet

open Text

/-- A dialogue under way. -/
structure Session where
  workbook : Workbook
  /-- Whether to show everything that is noted. -/
  verbose : Bool

namespace Session

/-- What precedes every line of input. -/
def prompt : String := "> "

/-- How a turn ends. -/
inductive Next where
  /-- The session waits for a line. -/
  | listen (session : Session)
  /-- The program ends with this exit code. -/
  | exit (code : Nat)

/-- What a turn writes, and what follows it. -/
structure Turn where
  output : String
  diagnostics : String
  next : Next

/-- The notices to be shown, each on a line. -/
def noticeLines (verbose : Bool) (journal : Journal) : String :=
  let shown := journal.filter fun notice => verbose || notice.level = .warn
  "".intercalate (shown.map fun notice => notice.line ++ "\n")

/-- A text on lines of its own; an empty text takes no line. -/
def paragraph (text : String) : String := if text = "" then "" else text ++ "\n"

/-- A turn that ends the program because something is out of reach. -/
def abort (category message : String) : Turn :=
  ⟨"", "Error: " ++ category ++ " (" ++ message ++ ")\n", .exit 1⟩

/-! ## The first turn -/

/-- Opens the workbook and shows where it stands. -/
def start (options : Options) : FileTask Turn := do
  let config ← match options.config with
    | some file => Storage.loadConfig file
    | none => pure (.ok {})
  match config with
  | .error e => return abort e.category e.message
  | .ok config =>
      let b := Workbook.new config
      let opened ← match options.file with
        | some file => b.execute (.load file)
        | none => pure ⟨"", [], b⟩
      return {
        output := paragraph opened.text ++ paragraph opened.workbook.statusLine ++ prompt
        diagnostics := noticeLines options.verbose opened.journal
        next := .listen ⟨opened.workbook, options.verbose⟩ }

/-! ## The other turns -/

/-- A line without its end. -/
def withoutLineEnd (line : List UInt8) : List UInt8 :=
  match line.reverse with
  | 10 :: 13 :: rest | 10 :: rest => rest.reverse
  | _ => line

/-- The text of a line. -/
def decode? (line : List UInt8) : Option String :=
  String.fromUTF8? (withoutLineEnd line).toByteArray

/-- Answers a command; the message about the one before is gone. -/
def obey (s : Session) (command : Command) : FileTask Turn := do
  let b := s.workbook
  let reply ← { b with status := none : Workbook }.execute command
  return {
    output := paragraph reply.text ++ prompt
    diagnostics := noticeLines s.verbose reply.journal
    next := .listen { s with workbook := reply.workbook } }

/-- Takes leave. -/
def leave (s : Session) : FileTask Turn := do
  let reply ← s.workbook.execute .quit
  return ⟨paragraph reply.text, noticeLines s.verbose reply.journal, .exit 0⟩

/-- Answers a line.  A blank line is passed over, and one that is no text ends the program. -/
def answer (s : Session) (line : List UInt8) : FileTask Turn :=
  match decode? line with
  | none => return abort "Error" FileError.notText.message
  | some text =>
      if trim text.toList = [] then return ⟨prompt, "", .listen s⟩
      else match Command.parse text with
        | .error e => return ⟨paragraph ("error: " ++ e.message) ++ prompt, "", .listen s⟩
        | .ok .quit => s.leave
        | .ok command => s.obey command

/-! ## A whole dialogue -/

/-- The lines of an input, each with its end; the last one may have none. -/
def inputLines : List UInt8 → List (List UInt8)
  | [] => []
  | byte :: rest =>
      if byte = 10 then [byte] :: inputLines rest
      else match inputLines rest with
        | [] => [[byte]]
        | line :: lines => (byte :: line) :: lines

/-- What a session wrote, and its exit code. -/
structure Transcript where
  output : String
  diagnostics : String
  code : Nat

/-- Goes on from a turn with the lines of input that are left. -/
def follow : Turn → List (List UInt8) → FileTask Transcript
  | ⟨output, diagnostics, .exit code⟩, _ => return ⟨output, diagnostics, code⟩
  | ⟨output, diagnostics, .listen _⟩, [] => return ⟨output, diagnostics, 0⟩
  | ⟨output, diagnostics, .listen s⟩, line :: lines => do
      let turn ← s.answer line
      let rest ← follow turn lines
      return ⟨output ++ rest.output, diagnostics ++ rest.diagnostics, rest.code⟩

/-- Holds a whole dialogue. -/
def run (options : Options) (input : List UInt8) : FileTask Transcript := do
  follow (← start options) (inputLines input)

end Session

end Spreadsheet
