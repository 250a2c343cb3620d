import Spreadsheet.Text.Digits

/-!
# Json/Symbols — the symbols of a document

Brackets, separators, words, numbers and strings, with white space between them.  A string is read
in pieces first, since only two neighbouring escapes together may stand for one character.
-/

namespace Spreadsheet

namespace Json

open Text

inductive Symbol where
  | openBrace
  | closeBrace
  | openBracket
  | closeBracket
  | colon
  | comma
  | null
  | bool (b : Bool)
  | number (text : List Char)
  | string (text : Option String)
deriving DecidableEq, Repr

/-- The four characters that may stand between symbols. -/
def isSpace (c : Char) : Bool := c = ' ' || c = '\t' || c = '\n' || c = '\r'

/-! ## Strings -/

/-- A piece of a string: a character, or an escape for half of a surrogate pair. -/
inductive Piece where
  | char (c : Char)
  | half (unit : Nat)
deriving DecidableEq, Repr

/-- The value of a hexadecimal digit. -/
def hexValue? (c : Char) : Option Nat :=
  if c.isDigit then some (c.toNat - '0'.toNat)
  else if 'a' ≤ c ∧ c ≤ 'f' then some (c.toNat - 'a'.toNat + 10)
  else if 'A' ≤ c ∧ c ≤ 'F' then some (c.toNat - 'A'.toNat + 10)
  else none

/-- The number four hexadecimal digits denote. -/
def hexUnit? (a b c d : Char) : Option Nat := do
  return ((← hexValue? a) * 16 + (← hexValue? b)) * 256 + (← hexValue? c) * 16 + (← hexValue? d)

/-- The piece a sixteen-bit unit stands for. -/
def Piece.ofUnit (unit : Nat) : Piece :=
  if 0xD800 ≤ unit ∧ unit < 0xE000 then half unit else char (Char.ofNat unit)

/-- The character a letter behind a backslash stands for. -/
def escaped? : Char → Option Char
  | '"' => some '"'
  | '\\' => some '\\'
  | '/' => some '/'
  | 'b' => some (Char.ofNat 8)
  | 'f' => some (Char.ofNat 12)
  | 'n' => some '\n'
  | 'r' => some '\r'
  | 't' => some '\t'
  | _ => none

/-- Reads a string up to and including its closing quote. -/
def readPieces : List Char → Option (List Piece × List Char)
  | [] => none
  | '"' :: cs => some ([], cs)
  | '\\' :: 'u' :: a :: b :: c :: d :: cs => do
      let unit ← hexUnit? a b c d
      let (pieces, rest) ← readPieces cs
      return (.ofUnit unit :: pieces, rest)
  | '\\' :: e :: cs => do
      let c ← escaped? e
      let (pieces, rest) ← readPieces cs
      return (.char c :: pieces, rest)
  | c :: cs =>
      if c.toNat < 0x20 ∨ c = '\\' then none
      else do
        let (pieces, rest) ← readPieces cs
        return (.char c :: pieces, rest)

/-- The character a surrogate pair stands for. -/
def joinHalves (high low : Nat) : Char :=
  Char.ofNat (0x10000 + (high - 0xD800) * 0x400 + (low - 0xDC00))

/-- The text that pieces make up, unless a half stands alone. -/
def joinPieces : List Piece → Option (List Char)
  | [] => some []
  | .char c :: pieces => (joinPieces pieces).map (c :: ·)
  | .half high :: .half low :: pieces =>
      if high < 0xDC00 ∧ 0xDC00 ≤ low then (joinPieces pieces).map (joinHalves high low :: ·)
      else none
  | .half _ :: _ => none

/-! ## Numbers -/

/-- Whether a character may occur in a number. -/
def isNumberChar (c : Char) : Bool :=
  c.isDigit || c = '+' || c = '-' || c = '.' || c = 'e' || c = 'E'

/-- Whether a text is nothing or a power of ten. -/
def isPower (cs : List Char) : Bool :=
  match cs with
  | [] => true
  | mark :: rest =>
      let digits := match rest with
        | '+' :: digits | '-' :: digits => digits
        | digits => digits
      (mark = 'e' || mark = 'E') && digits != [] && digits.all Char.isDigit

/-- Whether a text is nothing or a fraction, and then nothing or a power of ten. -/
def isFraction (cs : List Char) : Bool :=
  match cs with
  | '.' :: rest => rest.takeWhile Char.isDigit != [] && isPower (rest.dropWhile Char.isDigit)
  | cs => isPower cs

/-- Whether a text is a number: an optional minus, digits without a leading zero unless they are a
single zero, an optional fraction and an optional power of ten. -/
def isNumber (cs : List Char) : Bool :=
  let body := match cs with
    | '-' :: body => body
    | body => body
  match body with
  | '0' :: rest => isFraction rest
  | c :: rest => c.isDigit && isFraction (rest.dropWhile Char.isDigit)
  | [] => false

/-! ## Symbols -/

/-- The symbol of a single character. -/
def sign? : Char → Option Symbol
  | '\x7b' => some .openBrace
  | '\x7d' => some .closeBrace
  | '[' => some .openBracket
  | ']' => some .closeBracket
  | ':' => some .colon
  | ',' => some .comma
  | _ => none

/-- Reads the symbol that begins with `c`. -/
def readSymbol? (c : Char) (cs : List Char) : Option (Symbol × List Char) :=
  if c = '"' then
    (readPieces cs).map fun (pieces, rest) =>
      (.string ((joinPieces pieces).map String.ofList), rest)
  else if c.isDigit || c = '-' then
    let text := c :: cs.takeWhile isNumberChar
    if isNumber text then some (.number text, cs.dropWhile isNumberChar) else none
  else match sign? c with
    | some symbol => some (symbol, cs)
    | none =>
        match c, cs with
        | 'n', 'u' :: 'l' :: 'l' :: rest => some (.null, rest)
        | 't', 'r' :: 'u' :: 'e' :: rest => some (.bool true, rest)
        | 'f', 'a' :: 'l' :: 's' :: 'e' :: rest => some (.bool false, rest)
        | _, _ => none

theorem length_readPieces :
    ∀ (cs : List Char) {pieces : List Piece} {rest : List Char},
      readPieces cs = some (pieces, rest) → rest.length < cs.length := by
  intro cs
  fun_induction readPieces cs with
  | case1 => intro _ _ h; cases h
  | case2 cs => intro _ _ h; cases h; simp
  | case3 a b c d cs ih =>
      intro _ _ h
      simp only [Option.bind_eq_bind, Option.bind_eq_some_iff, Option.pure_def,
        Option.some.injEq, Prod.mk.injEq] at h
      obtain ⟨_, _, ⟨_, _⟩, hr, _, rfl⟩ := h
      have := ih hr
      simp only [List.length_cons]
      omega
  | case4 e cs _ ih =>
      intro _ _ h
      simp only [Option.bind_eq_bind, Option.bind_eq_some_iff, Option.pure_def,
        Option.some.injEq, Prod.mk.injEq] at h
      obtain ⟨_, _, ⟨_, _⟩, hr, _, rfl⟩ := h
      have := ih hr
      simp only [List.length_cons]
      omega
  | case5 => intro _ _ h; cases h
  | case6 c cs _ _ _ _ ih =>
      intro _ _ h
      simp only [Option.bind_eq_bind, Option.bind_eq_some_iff, Option.pure_def,
        Option.some.injEq, Prod.mk.injEq] at h
      obtain ⟨⟨_, _⟩, hr, _, rfl⟩ := h
      have := ih hr
      simp only [List.length_cons]
      omega

/-- A symbol takes at least one character off the front. -/
theorem length_readSymbol? {c : Char} {cs rest : List Char} {symbol : Symbol}
    (h : readSymbol? c cs = some (symbol, rest)) : rest.length ≤ cs.length := by
  unfold readSymbol? at h
  split at h
  · simp only [Option.map_eq_some_iff, Prod.exists, Prod.mk.injEq] at h
    obtain ⟨_, _, hr, _, rfl⟩ := h
    exact Nat.le_of_lt (length_readPieces cs hr)
  · split at h
    · simp only at h
      split at h
      · cases h
        exact (List.dropWhile_suffix _).length_le
      · cases h
    · split at h
      · cases h
        exact Nat.le_refl _
      · split at h <;> first | (cases h; simp only [List.length_cons]; omega) | cases h

end Json

end Spreadsheet
