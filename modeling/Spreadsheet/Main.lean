import Spreadsheet.Console.Session

/-!
# Main — the program

The program holds a session over standard input and output, with the files of the machine.
-/

namespace Spreadsheet

/-- The refusal with a code of the system.  Some calls answer with the negated code. -/
def FileError.ofCode (details : String) (code : UInt32) : FileError :=
  match if code.toNat < UInt32.size / 2 then code.toNat else UInt32.size - code.toNat with
  | 2 => .notFound
  | 20 => .notDirectory
  | 21 => .isDirectory
  | 36 => .nameTooLong
  | n => .system details n

/-- The refusal of the system. -/
def FileError.ofSystem : IO.Error → FileError
  | .noFileOrDirectory _ code details | .inappropriateType _ code details
  | .permissionDenied _ code details | .resourceExhausted _ code details
  | .invalidArgument _ code details | .alreadyExists _ code details => .ofCode details code
  | e => .other (toString e)

/-- Does work with the files of the machine. -/
def FileTask.perform {α : Type} : FileTask α → IO α
  | done result => return result
  | read path next => do
      let answer ← (IO.FS.readBinFile path).toBaseIO
      (next (answer.mapError FileError.ofSystem)).perform
  | write path content next => do
      let answer ← (IO.FS.writeBinFile path content).toBaseIO
      (next (answer.mapError FileError.ofSystem)).perform

namespace Session

/-- Reads the bytes of a line with its end; there are none where the input ends. -/
partial def readLine (input : IO.FS.Stream) (before : List UInt8) : IO (List UInt8) := do
  match (← input.read 1).toList with
  | [] => return before.reverse
  | byte :: _ =>
      if byte = 10 then return (byte :: before).reverse else readLine input (byte :: before)

/-- Writes down a turn and goes on with the next one. -/
partial def converse (turn : Turn) : IO UInt32 := do
  let output ← IO.getStdout
  (← IO.getStderr).putStr turn.diagnostics
  output.putStr turn.output
  output.flush
  match turn.next with
  | .exit code => return code.toUInt32
  | .listen s =>
      match ← readLine (← IO.getStdin) [] with
      | [] => return 0
      | line => converse (← (s.answer line).perform)

end Session

end Spreadsheet

/-- Starts a session with the arguments of the program. -/
def main (arguments : List String) : IO UInt32 := do
  match Spreadsheet.Options.parse arguments with
  | some options => Spreadsheet.Session.converse (← (Spreadsheet.Session.start options).perform)
  | none =>
      IO.eprintln Spreadsheet.Options.usage
      return 2
