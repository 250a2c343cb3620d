import Mathlib.Data.List.TakeWhile
import Spreadsheet.Json.Read
import Spreadsheet.Json.Write
import Spreadsheet.Proofs.Text.Characters

/-!
# Proofs/Json/Symbols — a written symbol is read back

A string is written character by character, and the reader takes back one piece for each of them
(`readPieces_flatMap`): every text has a string.  A number is read as far as its characters go, so it
is read back where none of them follows (`readSymbol?_number`).
-/

namespace Spreadsheet

namespace Json

open Text

variable {c : Char} {cs rest : List Char}

/-! ## Strings -/

theorem hexValue?_hexDigit : ∀ n < 16, hexValue? (hexDigit n) = some n := by decide

/-- A control character has the number its escape writes. -/
theorem hexUnit?_of_lt (h : c.toNat < 0x20) :
    hexUnit? '0' '0' (hexDigit (c.toNat / 16)) (hexDigit (c.toNat % 16)) = some c.toNat := by
  have hzero : hexValue? '0' = some 0 := by decide
  have hhigh := hexValue?_hexDigit (c.toNat / 16) (by omega)
  have hlow := hexValue?_hexDigit (c.toNat % 16) (by omega)
  simp only [hexUnit?, hzero, hhigh, hlow, Option.bind_eq_bind, Option.bind_some, Option.pure_def,
    Option.some.injEq]
  omega

theorem ofUnit_toNat (h : c.toNat < 0x20) : Piece.ofUnit c.toNat = .char c := by
  rw [Piece.ofUnit, if_neg (by omega), Char.ofNat_toNat]

/-- What a piece adds to a string that is read. -/
def addChar (c : Char) (r : List Piece × List Char) : List Piece × List Char := (.char c :: r.1, r.2)

/-- A character that needs no escape stands for itself. -/
theorem readPieces_cons (hquote : c ≠ '"') (hslash : c ≠ '\\') (hcontrol : ¬ c.toNat < 0x20) :
    readPieces (c :: rest) = (readPieces rest).map (addChar c) := by
  rw [readPieces]
  · rw [if_neg (by simp [hcontrol, hslash])]
    cases readPieces rest <;> rfl
  all_goals simp_all

/-- An escape of one letter stands for one character. -/
theorem readPieces_escape (letter : Char) (hunit : letter ≠ 'u') (h : escaped? letter = some c) :
    readPieces ('\\' :: letter :: rest) = (readPieces rest).map (addChar c) := by
  rw [readPieces]
  · rw [h]
    cases readPieces rest <;> rfl
  all_goals simp_all

/-- **What is written for a character is read as that character.** -/
theorem readPieces_escapeChar (c : Char) (rest : List Char) :
    readPieces (escapeChar c ++ rest) = (readPieces rest).map (addChar c) := by
  have hof : ∀ n, c.toNat = n → Char.ofNat n = c := fun n h => h ▸ Char.ofNat_toNat c
  unfold escapeChar
  split
  · subst_vars
    exact readPieces_escape '"' (by decide) rfl
  split
  · subst_vars
    exact readPieces_escape '\\' (by decide) rfl
  split
  · exact readPieces_escape 'b' (by decide) (congrArg some (hof 8 ‹_›))
  split
  · exact readPieces_escape 'f' (by decide) (congrArg some (hof 12 ‹_›))
  split
  · subst_vars
    exact readPieces_escape 'n' (by decide) rfl
  split
  · subst_vars
    exact readPieces_escape 'r' (by decide) rfl
  split
  · subst_vars
    exact readPieces_escape 't' (by decide) rfl
  split
  · rename_i hcontrol
    simp only [List.cons_append, List.nil_append, readPieces, hexUnit?_of_lt hcontrol,
      Option.bind_eq_bind, Option.bind_some, ofUnit_toNat hcontrol]
    cases readPieces rest <;> rfl
  · exact readPieces_cons ‹_› ‹_› ‹_›

theorem readPieces_flatMap : ∀ cs : List Char,
    readPieces (cs.flatMap escapeChar ++ '"' :: rest) = some (cs.map .char, rest)
  | [] => by simp [readPieces]
  | c :: cs => by
      rw [List.flatMap_cons, List.append_assoc, readPieces_escapeChar, readPieces_flatMap cs]
      rfl

theorem joinPieces_map : ∀ cs : List Char, joinPieces (cs.map .char) = some cs
  | [] => rfl
  | c :: cs => by rw [List.map_cons, joinPieces, joinPieces_map cs, Option.map_some]

/-- **A text is read back from the string written for it.** -/
theorem readSymbol?_writeText (text : String) (rest : List Char) :
    ∃ cs, writeText (some text) ++ rest = '"' :: cs
      ∧ readSymbol? '"' cs = some (.string (some text), rest) := by
  refine ⟨text.toList.flatMap escapeChar ++ '"' :: rest, by simp [writeText, quoted], ?_⟩
  unfold readSymbol?
  rw [if_pos rfl, readPieces_flatMap, Option.map_some]
  simp [joinPieces_map]

/-! ## Numbers -/

theorem isNumberChar_of_isDigit (h : c.isDigit = true) : isNumberChar c = true := by
  simp [isNumberChar, h]

theorem forall_isNumberChar_of_digits (h : cs.all Char.isDigit = true) :
    ∀ c ∈ cs, isNumberChar c = true :=
  fun c hc => isNumberChar_of_isDigit (List.all_eq_true.mp h c hc)

theorem isNumberChar_of_isPower (h : isPower cs = true) : ∀ c ∈ cs, isNumberChar c = true := by
  unfold isPower at h
  split at h
  · simp
  · rename_i mark rest
    simp only [Bool.and_eq_true, Bool.or_eq_true, decide_eq_true_eq] at h
    obtain ⟨⟨hmark, -⟩, hdigits⟩ := h
    rw [List.forall_mem_cons]
    refine ⟨by rcases hmark with rfl | rfl <;> rfl, ?_⟩
    split at hdigits
    · exact List.forall_mem_cons.mpr ⟨rfl, forall_isNumberChar_of_digits hdigits⟩
    · exact List.forall_mem_cons.mpr ⟨rfl, forall_isNumberChar_of_digits hdigits⟩
    · exact forall_isNumberChar_of_digits hdigits

/-- Digits and what follows them. -/
theorem isNumberChar_of_dropWhile
    (h : ∀ c ∈ cs.dropWhile Char.isDigit, isNumberChar c = true) :
    ∀ c ∈ cs, isNumberChar c = true := by
  intro c hc
  rw [← List.takeWhile_append_dropWhile (p := Char.isDigit) (l := cs), List.mem_append] at hc
  exact hc.elim (fun hc => isNumberChar_of_isDigit (List.mem_takeWhile_imp hc)) (h c)

theorem isNumberChar_of_isFraction (h : isFraction cs = true) :
    ∀ c ∈ cs, isNumberChar c = true := by
  unfold isFraction at h
  split at h
  · rw [Bool.and_eq_true] at h
    exact List.forall_mem_cons.mpr ⟨rfl, isNumberChar_of_dropWhile (isNumberChar_of_isPower h.2)⟩
  · exact isNumberChar_of_isPower h

/-- What follows a minus is a number without one. -/
theorem isNumber_of_minus (h : isNumber ('-' :: cs) = true) :
    isNumber cs = true ∧ cs.head? ≠ some '-' := by
  cases cs with
  | nil => cases h
  | cons c rest =>
    have hc : c ≠ '-' := by
      rintro rfl
      cases h
    exact ⟨by simpa [isNumber, hc] using h, by simpa using hc⟩

/-- A number without a minus begins with a digit. -/
theorem exists_of_isNumber_unsigned (h : isNumber cs = true) (hne : cs.head? ≠ some '-') :
    ∃ c rest, cs = c :: rest ∧ c.isDigit = true ∧ ∀ d ∈ rest, isNumberChar d = true := by
  cases cs with
  | nil => cases h
  | cons c rest =>
    have hc : c ≠ '-' := by simpa using hne
    refine ⟨c, rest, rfl, ?_⟩
    by_cases hzero : c = '0'
    · subst hzero
      exact ⟨rfl, isNumberChar_of_isFraction h⟩
    · have h : c.isDigit = true ∧ isFraction (rest.dropWhile Char.isDigit) = true := by
        simpa [isNumber, hc, hzero] using h
      exact ⟨h.1, isNumberChar_of_dropWhile (isNumberChar_of_isFraction h.2)⟩

/-- **A number consists of characters that may occur in one**, and begins with a digit or a
minus. -/
theorem exists_of_isNumber (h : isNumber cs = true) : ∃ c rest, cs = c :: rest
    ∧ (c.isDigit = true ∨ c = '-') ∧ ∀ d ∈ rest, isNumberChar d = true := by
  by_cases hminus : cs.head? = some '-'
  · obtain ⟨rest, rfl⟩ := List.head?_eq_some_iff.mp hminus
    obtain ⟨h, hne⟩ := isNumber_of_minus h
    obtain ⟨c, rest, rfl, hdigit, hrest⟩ := exists_of_isNumber_unsigned h hne
    exact ⟨'-', _, rfl, .inr rfl, List.forall_mem_cons.mpr
      ⟨isNumberChar_of_isDigit hdigit, hrest⟩⟩
  · obtain ⟨c, rest, rfl, hdigit, hrest⟩ := exists_of_isNumber_unsigned h hminus
    exact ⟨c, rest, rfl, .inl hdigit, hrest⟩

/-- Where nothing follows that may occur in a number. -/
def EndsNumber (rest : List Char) : Prop := ∀ c ∈ rest.head?, isNumberChar c = false

/-- **A number is read back where no character of a number follows.** -/
theorem readSymbol?_number {text : List Char} (h : isNumber text = true) (hrest : EndsNumber rest) :
    ∃ c cs, text ++ rest = c :: cs ∧ (c.isDigit = true ∨ c = '-')
      ∧ readSymbol? c cs = some (.number text, rest) := by
  obtain ⟨c, cs, rfl, hc, hcs⟩ := exists_of_isNumber h
  refine ⟨c, cs ++ rest, rfl, hc, ?_⟩
  have hnone : rest.takeWhile isNumberChar = [] := by
    cases rest with
    | nil => rfl
    | cons d rest => rw [List.takeWhile_cons_of_neg (by simp [hrest d rfl])]
  have htake : (cs ++ rest).takeWhile isNumberChar = cs := by
    rw [List.takeWhile_append_of_pos hcs, hnone, List.append_nil]
  have hdrop : (cs ++ rest).dropWhile isNumberChar = rest := by
    rw [List.dropWhile_append_of_pos hcs]
    cases rest with
    | nil => rfl
    | cons d rest => rw [List.dropWhile_cons_of_neg (by simp [hrest d rfl])]
  have hquote : c ≠ '"' := by
    rintro rfl
    revert hc
    decide
  unfold readSymbol?
  rw [if_neg hquote, if_pos (by simpa using hc)]
  dsimp only
  rw [htake, if_pos h, hdrop]

/-- A count is written as a number. -/
theorem isNumber_toDigits (n : Nat) : isNumber (Nat.toDigits 10 n) = true := by
  rcases Nat.eq_zero_or_pos n with rfl | hn
  · rw [Nat.toDigits_zero]
    rfl
  · obtain ⟨c, rest, heq, hzero⟩ := exists_toDigits hn
    have hdigits : ∀ d ∈ c :: rest, d.isDigit = true := fun d hd =>
      isDigit_of_mem_toDigits (heq ▸ hd)
    have hc := hdigits c List.mem_cons_self
    have hminus : c ≠ '-' := by
      rintro rfl
      cases hc
    have hrest : rest.dropWhile Char.isDigit = [] :=
      List.dropWhile_eq_nil_iff.mpr fun d hd => hdigits d (List.mem_cons_of_mem _ hd)
    simp [heq, isNumber, hminus, hc, hrest, isFraction, isPower]

end Json

end Spreadsheet
