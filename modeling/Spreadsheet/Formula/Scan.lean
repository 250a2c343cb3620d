import Spreadsheet.Formula.Token
import Spreadsheet.Text.Blank

/-!
# Formula/Scan — a text as a sequence of tokens with their places

`scan` cuts a text into tokens, each the longest one that starts where the previous one ended or
after the white space behind it.  It stops at the end of the text or at the first place where no
token can be read; positions count characters from the start of the text.
-/

namespace Spreadsheet

open Text

/-- Why no token can be read at some place. -/
inductive LexicalFault where
  /-- A decimal separator that no digit follows. -/
  | missingDigits (separator : Char)
  /-- A character with which no token begins. -/
  | strayCharacter (c : Char)
deriving DecidableEq, Repr

namespace LexicalFault

def message : LexicalFault → String
  | missingDigits separator => "Expected digits after '" ++ separator.toString ++ "'"
  | strayCharacter c => "Unexpected character: '" ++ c.toString ++ "'"

end LexicalFault

/-! ## One token -/

/-- What stands at the beginning of a text. -/
inductive Reading where
  /-- A token, the characters it consists of, and the text behind it. -/
  | token (token : Token) (span rest : List Char)
  /-- No token, and how far into the text the fault lies. -/
  | fault (fault : LexicalFault) (offset : Nat)

/-- Whether a character separates the whole part of a number from its fraction. -/
def isSeparator (c : Char) : Bool := c = '.' || c = ','

/-- Whether a character continues a word. -/
def isWordChar (c : Char) : Bool := c.isAlphanum || c = '_'

/-- Whether a word is letters followed by digits. -/
def isReferenceWord (word : List Char) : Bool :=
  let digits := word.dropWhile Char.isAlpha
  word.takeWhile Char.isAlpha != [] && digits != [] && digits.all Char.isDigit

/-- The token of a word: function words match exactly, and letters followed by digits name a cell
in any case. -/
def wordToken (word : List Char) : Token :=
  if word = ['i', 'n', 'c'] then .function .inc
  else if word = ['d', 'e', 'c'] then .function .dec
  else if word = ['n', 'o', 't'] then .function .not
  else if isReferenceWord word then .reference (String.ofList (word.map Char.toUpper))
  else .identifier (String.ofList word)

/-- Reads digits and, after a separator, the digits of a fraction. -/
def readNumber (cs : List Char) : Reading :=
  let whole := cs.takeWhile Char.isDigit
  match cs.dropWhile Char.isDigit with
  | [] => .token (.number (String.ofList whole)) whole []
  | separator :: rest =>
      if isSeparator separator then
        let fraction := rest.takeWhile Char.isDigit
        if fraction = [] then .fault (.missingDigits separator) (whole.length + 1)
        else
          let span := whole ++ separator :: fraction
          .token (.number (String.ofList span)) span (rest.dropWhile Char.isDigit)
      else .token (.number (String.ofList whole)) whole (separator :: rest)

/-- Reads the token that begins with `c`. -/
def readToken (c : Char) (cs : List Char) : Reading :=
  if c.isDigit then readNumber (c :: cs)
  else if c.isAlpha then
    let word := c :: cs.takeWhile isWordChar
    .token (wordToken word) word (cs.dropWhile isWordChar)
  else match Token.ofSign? c with
    | some token => .token token [c] cs
    | none => .fault (.strayCharacter c) 0

/-- **A token is cut off the front of the text** — its characters and the rest are the text, and it
has at least one character. -/
theorem readToken_token {c : Char} {cs : List Char} {token : Token} {span rest : List Char}
    (h : readToken c cs = .token token span rest) : span ++ rest = c :: cs ∧ span ≠ [] := by
  unfold readToken at h
  split at h
  · rename_i hc
    unfold readNumber at h
    have hw : (c :: cs).takeWhile Char.isDigit ≠ [] := by simp [hc]
    have hsplit := List.takeWhile_append_dropWhile (p := Char.isDigit) (l := c :: cs)
    simp only at h
    split at h
    · rename_i hd
      injection h with _ hs hr
      subst hs hr
      rw [hd] at hsplit
      exact ⟨hsplit, hw⟩
    · rename_i separator rest' hd
      rw [hd] at hsplit
      split at h
      · split at h
        · cases h
        · injection h with _ hs hr
          subst hs hr
          refine ⟨?_, by simp⟩
          rw [List.append_assoc, List.cons_append, List.takeWhile_append_dropWhile]
          exact hsplit
      · injection h with _ hs hr
        subst hs hr
        exact ⟨hsplit, hw⟩
  · split at h
    · injection h with _ hs hr
      subst hs hr
      simp [List.takeWhile_append_dropWhile]
    · split at h
      · injection h with _ hs hr
        subst hs hr
        simp
      · cases h

/-! ## The whole text -/

/-- A token and the positions of its first character and of the character behind it. -/
structure Lexeme where
  token : Token
  start : Nat
  stop : Nat
deriving DecidableEq, Repr

/-- Where and why a sequence of tokens ends. -/
inductive Ending where
  /-- The text is used up. -/
  | finished (position : Nat)
  /-- No token can be read. -/
  | failed (fault : LexicalFault) (position : Nat)
deriving DecidableEq, Repr

/-- The tokens of a text and how it ends. -/
structure Scan where
  lexemes : List Lexeme
  ending : Ending
deriving DecidableEq, Repr

namespace Scan

/-- A sequence of tokens with one more in front. -/
def cons (lexeme : Lexeme) (scan : Scan) : Scan := ⟨lexeme :: scan.lexemes, scan.ending⟩

/-- The tokens without their places. -/
def tokens (scan : Scan) : List Token := scan.lexemes.map Lexeme.token

end Scan

/-- The tokens of a text that begins at the given position. -/
def scanFrom (position : Nat) : List Char → Scan
  | [] => ⟨[], .finished position⟩
  | c :: cs =>
      if isBlank c then scanFrom (position + 1) cs
      else match _h : readToken c cs with
        | .fault fault offset => ⟨[], .failed fault (position + offset)⟩
        | .token token span rest =>
            (scanFrom (position + span.length) rest).cons
              ⟨token, position, position + span.length⟩
termination_by cs => cs.length
decreasing_by
  · simp
  · have ⟨happ, hne⟩ := readToken_token ‹readToken c cs = .token token span rest›
    have hlen := congrArg List.length happ
    have : 0 < span.length := List.length_pos_iff.mpr hne
    simp only [List.length_append, List.length_cons] at hlen
    simp only [List.length_cons]
    omega

/-- The tokens of a text. -/
def scan (cs : List Char) : Scan := scanFrom 0 cs

end Spreadsheet
