import Spreadsheet.Formula.Expr
import Spreadsheet.Formula.Fault

/-!
# Formula/Parse — reading a formula one token at a time

The reader keeps what it has seen as a stack of frames: markers, open parentheses and calls, and
signs and left operands that wait for an operand.  Each token either changes the stack or is a
fault, so a fault depends only on the tokens up to it.  Comparisons, sums and products group to the
left, powers to the right, and a sign binds tighter than a power.
-/

namespace Spreadsheet

/-- What waits for the operand being read, innermost first on a stack. -/
inductive Frame where
  | marker
  | sign (sign : Sign)
  | operator (left : Expr) (op : BinaryOp)
  | group
  | call (f : Builtin)
deriving DecidableEq, Repr

/-- What may come next. -/
inductive Mode where
  /-- A marker or an operand. -/
  | start
  /-- An operand. -/
  | operand
  /-- The parenthesis of a call. -/
  | argument (f : Builtin)
  /-- An operand has been read: an operator, a closing parenthesis or the end. -/
  | complete (e : Expr)
deriving DecidableEq, Repr

/-- The reader between two tokens. -/
structure ParseState where
  mode : Mode
  frames : List Frame
deriving DecidableEq, Repr

namespace ParseState

/-- Before the first token. -/
def initial : ParseState := ⟨.start, []⟩

/-- Gives an operand to the signs that wait for it. -/
def supply : List Frame → Expr → ParseState
  | .sign s :: frames, e => supply frames (.unary s e)
  | frames, e => ⟨.complete e, frames⟩

/-- Completes the waiting operators that bind at least as tightly as `level`. -/
def reduce (level : Nat) : List Frame → Expr → List Frame × Expr
  | .operator left op :: frames, e =>
      if level ≤ op.level then reduce level frames (.binary op left e)
      else (.operator left op :: frames, e)
  | frames, e => (frames, e)

/-- Reads a token that should start an operand. -/
def stepOperand (frames : List Frame) (token : Token) : Except FaultCause ParseState :=
  match token with
  | .number text => .ok (supply frames (.number text))
  | .reference name => .ok (supply frames (.reference name))
  | .identifier name => .error (.unknownIdentifier name)
  | .function f => .ok ⟨.argument f, frames⟩
  | .plus => .ok ⟨.operand, .sign .plus :: frames⟩
  | .minus => .ok ⟨.operand, .sign .minus :: frames⟩
  | .leftParen => .ok ⟨.operand, .group :: frames⟩
  | _ => .error (.unexpected (some token))

/-- Reads a token behind an operand that no operator continues: it should close a parenthesis. -/
def stepClosing (frames : List Frame) (e : Expr) (token : Token) : Except FaultCause ParseState :=
  match reduce 0 frames e with
  | (.group :: outer, inner) =>
      if token = .rightParen then .ok (supply outer inner)
      else .error (.expected .rightParen (some token))
  | (.call f :: outer, inner) =>
      if token = .rightParen then .ok (supply outer (.call f inner))
      else .error (.expected .rightParen (some token))
  | _ => .error (.trailing token)

/-- Reads a token behind an operand. -/
def stepComplete (frames : List Frame) (e : Expr) (token : Token) : Except FaultCause ParseState :=
  match BinaryOp.ofToken? token with
  | some op =>
      let (outer, left) := reduce op.takesFrom frames e
      .ok ⟨.operand, .operator left op :: outer⟩
  | none => stepClosing frames e token

/-- Reads one token. -/
def step (state : ParseState) (token : Token) : Except FaultCause ParseState :=
  match state.mode with
  | .start =>
      if token = .equal then .ok ⟨.start, .marker :: state.frames⟩
      else stepOperand state.frames token
  | .operand => stepOperand state.frames token
  | .argument f =>
      if token = .leftParen then .ok ⟨.operand, .call f :: state.frames⟩
      else .error (.expected .leftParen (some token))
  | .complete e => stepComplete state.frames e token

/-- Puts the markers at the bottom of the stack back in front of a complete formula; an open
parenthesis is a fault. -/
def unwind : List Frame → Expr → Except FaultCause Expr
  | [], e => .ok e
  | .marker :: frames, e => unwind frames (.formula e)
  | _, _ => .error (.expected .rightParen none)

/-- The formula, if it may end here. -/
def finish (state : ParseState) : Except FaultCause Expr :=
  match state.mode with
  | .start | .operand => .error (.unexpected none)
  | .argument _ => .error (.expected .leftParen none)
  | .complete e =>
      let (frames, e) := reduce 0 state.frames e
      unwind frames e

end ParseState

/-- Reads one token at its place. -/
def stepLexeme (state : ParseState) (lexeme : Lexeme) : Except Fault ParseState :=
  match state.step lexeme.token with
  | .ok state => .ok state
  | .error cause => .error ⟨cause, lexeme.start⟩

/-- Reads a sequence of tokens. -/
def readLexemes : ParseState → List Lexeme → Except Fault ParseState
  | state, [] => .ok state
  | state, lexeme :: lexemes =>
      match stepLexeme state lexeme with
      | .ok state => readLexemes state lexemes
      | .error fault => .error fault

/-- The formula of a scanned text. -/
def parseScan (scan : Scan) : Except Fault Expr :=
  match readLexemes .initial scan.lexemes with
  | .error fault => .error fault
  | .ok state =>
      match scan.ending with
      | .failed fault position => .error ⟨.lexical fault, position⟩
      | .finished position =>
          match state.finish with
          | .ok e => .ok e
          | .error cause => .error ⟨cause, position⟩

/-- Reads a text as a formula. -/
def parse (cs : List Char) : Except Fault Expr := parseScan (scan cs)

/-- Reads the text of a cell as a formula. -/
def parseFormula (text : String) : Except SyntaxError Expr :=
  match parse text.toList with
  | .ok e => .ok e
  | .error fault => .error fault.report

end Spreadsheet
