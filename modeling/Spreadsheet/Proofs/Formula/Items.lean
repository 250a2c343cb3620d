import Spreadsheet.Proofs.Formula.Cuts

/-!
# Proofs/Formula/Items — what a scan shows, and where

A scan shows tokens, and behind them a place where no token can be read or the end of the text.
Whatever it shows at a place heads what is left of the text there, behind the tokens before it
(`Shows.exists_heads`).
-/

namespace Spreadsheet

open Text

variable {cs front rest : List Char} {c : Char} {ts : List Token} {position place offset : Nat}

/-! ## Items -/

/-- What reading may stop at. -/
inductive Item where
  | token (token : Token)
  /-- A place where no token can be read. -/
  | fault (fault : LexicalFault)
  /-- The end of the text. -/
  | ending

/-- **What stands at the front of a text**, and how far behind the front it is reported: a token and
a character with which none begins at once, missing digits behind the separator. -/
inductive Heads : Item → List Char → Nat → Prop
  | token {token : Token} {span rest : List Char} : Read token span rest →
      Heads (.token token) (span ++ rest) 0
  | stray {c : Char} {rest : List Char} : isBlank c = false → c.isDigit = false →
      c.isAlpha = false → Token.ofSign? c = none → Heads (.fault (.strayCharacter c)) (c :: rest) 0
  | missing {whole : List Char} {separator : Char} {rest : List Char} : whole ≠ [] →
      (∀ c ∈ whole, c.isDigit = true) → isSeparator separator = true → Stops Char.isDigit rest →
      Heads (.fault (.missingDigits separator)) (whole ++ separator :: rest) (whole.length + 1)
  | ending : Heads .ending [] 0

variable {item : Item}

theorem Heads.offset_le (h : Heads item rest offset) : offset ≤ rest.length := by
  cases h with
  | token | stray | ending => exact Nat.zero_le _
  | missing =>
    rw [List.length_append, List.length_cons]
    omega

theorem heads_of_readNumber {fault : LexicalFault} (hc : c.isDigit = true)
    (h : readNumber (c :: cs) = .fault fault offset) : Heads (.fault fault) (c :: cs) offset := by
  have hne : (c :: cs).takeWhile Char.isDigit ≠ [] := by simp [hc]
  have hsplit := List.takeWhile_append_dropWhile (p := Char.isDigit) (l := c :: cs)
  rw [readNumber] at h
  dsimp only at h
  split at h
  · cases h
  · rename_i separator tail hdrop
    rw [hdrop] at hsplit
    split at h
    · rename_i hsep
      split at h
      · rename_i hfraction
        cases h
        have hstops : Stops Char.isDigit tail := by
          have := stops_dropWhile Char.isDigit tail
          rwa [← List.takeWhile_append_dropWhile (p := Char.isDigit) (l := tail), hfraction]
        have hheads := Heads.missing hne (fun d hd => List.mem_takeWhile_imp hd) hsep hstops
        rwa [hsplit] at hheads
      · cases h
    · cases h

/-- **Where the scanner reads no token, the front of the text is faulty.** -/
theorem heads_of_fault {fault : LexicalFault} (hblank : isBlank c = false)
    (h : readToken c cs = .fault fault offset) : Heads (.fault fault) (c :: cs) offset := by
  rw [readToken] at h
  split at h
  · rename_i hc
    exact heads_of_readNumber hc h
  · rename_i hdigit
    split at h
    · cases h
    · rename_i halpha
      split at h
      · cases h
      · rename_i hsign
        cases h
        exact .stray hblank (by simpa using hdigit) (by simpa using halpha) hsign

/-! ## Places -/

/-- A scan shows an item at a place, behind the tokens before it. -/
inductive Shows : Scan → List Token → Item → Nat → Prop
  | token {lexeme : Lexeme} {lexemes : List Lexeme} {ending : Ending} :
      Shows ⟨lexeme :: lexemes, ending⟩ [] (.token lexeme.token) lexeme.start
  | failed {fault : LexicalFault} {position : Nat} :
      Shows ⟨[], .failed fault position⟩ [] (.fault fault) position
  | finished {position : Nat} : Shows ⟨[], .finished position⟩ [] .ending position
  | later {lexeme : Lexeme} {lexemes : List Lexeme} {ending : Ending} {ts : List Token}
      {item : Item} {place : Nat} : Shows ⟨lexemes, ending⟩ ts item place →
      Shows ⟨lexeme :: lexemes, ending⟩ (lexeme.token :: ts) item place

/-- **An item that a scan shows heads what is left of the text** behind the tokens before it. -/
theorem Shows.exists_heads (h : Shows (scanFrom position cs) ts item place) :
    ∃ front rest offset, cs = front ++ rest ∧ Cuts front rest ts ∧ Heads item rest offset
      ∧ place = position + front.length + offset := by
  fun_induction scanFrom position cs generalizing ts with
  | case1 position =>
    cases h
    exact ⟨[], [], 0, rfl, .nil, .ending, rfl⟩
  | case2 position c cs hc ih =>
    obtain ⟨front, rest, offset, rfl, hcuts, hheads, rfl⟩ := ih h
    refine ⟨c :: front, rest, offset, rfl, .blank hc hcuts, hheads, ?_⟩
    rw [List.length_cons]
    omega
  | case3 position c cs hc fault offset hread =>
    cases h
    exact ⟨[], c :: cs, offset, rfl, .nil, heads_of_fault (by simpa using hc) hread, rfl⟩
  | case4 position c cs hc token span rest hread ih =>
    obtain ⟨htext, hread⟩ := readToken_eq_token_iff.mp hread
    rw [← htext]
    generalize scanFrom (position + span.length) rest = scan at h ih
    cases h with
    | token => exact ⟨[], span ++ rest, 0, rfl, .nil, .token hread, rfl⟩
    | later h =>
      obtain ⟨front, rest, offset, rfl, hcuts, hheads, rfl⟩ := ih h
      refine ⟨span ++ front, rest, offset, (List.append_assoc _ _ _).symm, .token hread hcuts,
        hheads, ?_⟩
      rw [List.length_append]
      omega

theorem Shows.behind {ending : Ending} (h : Shows ⟨[], ending⟩ [] item place) :
    ∀ lexemes : List Lexeme, Shows ⟨lexemes, ending⟩ (lexemes.map Lexeme.token) item place
  | [] => h
  | _ :: lexemes => .later (h.behind lexemes)

end Spreadsheet
