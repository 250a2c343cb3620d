import Spreadsheet.Json.Symbols
import Spreadsheet.Json.Value

/-!
# Json/Read — reading a document one symbol at a time

The reader keeps the arrays and objects that are open as a stack, so documents may nest to any
depth.
-/

namespace Spreadsheet

namespace Json

/-- An array or object under way; what it holds so far stands latest first. -/
inductive Container where
  | array (items : List Json)
  | object (members : List (Option String × Json))
  /-- An object whose member of this name is being read. -/
  | member (members : List (Option String × Json)) (name : Option String)

/-- What may come next. -/
inductive Expecting where
  | value
  /-- The first item of an array, or its end. -/
  | firstItem
  /-- The first name of an object, or its end. -/
  | firstName
  | name
  | colon
  /-- A comma, or the end of the container. -/
  | next
  /-- Nothing: the document is complete. -/
  | done (document : Json)

/-- The reader between two symbols. -/
structure ReadState where
  expecting : Expecting
  containers : List Container

namespace ReadState

/-- Before the first symbol. -/
def initial : ReadState := ⟨.value, []⟩

/-- Puts a complete value where it belongs. -/
def supply (value : Json) : List Container → ReadState
  | [] => ⟨.done value, []⟩
  | .array items :: outer => ⟨.next, .array (value :: items) :: outer⟩
  | .member members name :: outer => ⟨.next, .object ((name, value) :: members) :: outer⟩
  | .object members :: outer => ⟨.next, .object members :: outer⟩

/-- Reads a symbol with which a value begins. -/
def stepValue (containers : List Container) : Symbol → Option ReadState
  | .null => some (supply .null containers)
  | .bool b => some (supply (.bool b) containers)
  | .number text => some (supply (.number text) containers)
  | .string text => some (supply (.string text) containers)
  | .openBracket => some ⟨.firstItem, .array [] :: containers⟩
  | .openBrace => some ⟨.firstName, .object [] :: containers⟩
  | _ => none

/-- Reads the name of a member. -/
def stepName : List Container → Symbol → Option ReadState
  | .object members :: outer, .string name => some ⟨.colon, .member members name :: outer⟩
  | _, _ => none

/-- Reads a comma or the end of a container. -/
def stepNext : List Container → Symbol → Option ReadState
  | .array items :: outer, .comma => some ⟨.value, .array items :: outer⟩
  | .array items :: outer, .closeBracket => some (supply (.array items.reverse) outer)
  | .object members :: outer, .comma => some ⟨.name, .object members :: outer⟩
  | .object members :: outer, .closeBrace => some (supply (.object members.reverse) outer)
  | _, _ => none

/-- Reads one symbol. -/
def step (state : ReadState) (symbol : Symbol) : Option ReadState :=
  match state.expecting with
  | .value => stepValue state.containers symbol
  | .firstItem =>
      if symbol = .closeBracket then stepNext state.containers symbol
      else stepValue state.containers symbol
  | .firstName =>
      if symbol = .closeBrace then stepNext state.containers symbol
      else stepName state.containers symbol
  | .name => stepName state.containers symbol
  | .colon => if symbol = .colon then some ⟨.value, state.containers⟩ else none
  | .next => stepNext state.containers symbol
  | .done _ => none

/-- The document, if it is complete. -/
def document? (state : ReadState) : Option Json :=
  match state.expecting with
  | .done document => some document
  | _ => none

end ReadState

/-- Reads the rest of a document. -/
def readFrom (state : ReadState) : List Char → Option Json
  | [] => state.document?
  | c :: cs =>
      if isSpace c then readFrom state cs
      else match _h : readSymbol? c cs with
        | none => none
        | some (symbol, rest) =>
            match state.step symbol with
            | none => none
            | some next => readFrom next rest
termination_by cs => cs.length
decreasing_by
  · simp
  · have := length_readSymbol? ‹readSymbol? c cs = some (symbol, rest)›
    simp only [List.length_cons]
    omega

/-- Reads a document. -/
def read? (text : String) : Option Json := readFrom .initial text.toList

end Json

end Spreadsheet
