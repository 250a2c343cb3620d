import Spreadsheet.Proofs.Formula.Cuts
import Spreadsheet.Proofs.Formula.ReferenceNames

/-!
# Proofs/Formula/Spelling — tokens written out are scanned again

A token is written as the characters it was cut from.  Behind it a blank ends every word and every
number, so a text of tokens with a blank behind each is cut into those tokens (`cuts_spell`).  The
scanner's own tokens are of the kind that can be written (`Read.isSpellable`), except for the words
without a meaning.
-/

namespace Spreadsheet

open Text

/-! ## Numbers -/

/-- The text of a number: digits, and perhaps a separator and more digits. -/
def IsNumberText (cs : List Char) : Prop :=
  ∃ whole, whole ≠ [] ∧ (∀ c ∈ whole, c.isDigit = true) ∧ (cs = whole ∨ ∃ separator fraction,
    isSeparator separator = true ∧ fraction ≠ [] ∧ (∀ c ∈ fraction, c.isDigit = true)
      ∧ cs = whole ++ separator :: fraction)

/-- The scanner reads such texts only. -/
theorem Read.isNumberText {text : String} {span rest : List Char}
    (h : Read (.number text) span rest) : IsNumberText text.toList := by
  generalize htoken : Token.number text = token at h
  match h with
  | .whole hne hdigits _ _ =>
    cases htoken
    exact ⟨_, hne, hdigits, .inl String.toList_ofList⟩
  | .decimal hne hdigits hsep hne' hdigits' _ =>
    cases htoken
    exact ⟨_, hne, hdigits, .inr ⟨_, _, hsep, hne', hdigits', String.toList_ofList⟩⟩
  | .word .. => exact absurd htoken.symm (wordToken_ne_number _ text)
  | .sign hsign => exact absurd htoken.symm ((ofSign?_spec hsign).2.2.2.1 text)

/-- **A number is read as far as neither a digit nor a separator is behind it.** -/
theorem IsNumberText.read {cs rest : List Char} (h : IsNumberText cs)
    (hdigit : Stops Char.isDigit rest) (hsep : Stops isSeparator rest) :
    Read (.number (String.ofList cs)) cs rest := by
  obtain ⟨whole, hne, hwhole, rfl | ⟨separator, fraction, hseparator, hne', hfraction, rfl⟩⟩ := h
  · exact .whole hne hwhole hdigit hsep
  · exact .decimal hne hwhole hseparator hne' hfraction hdigit

/-! ## Words -/

theorem isReferenceWord_of_isReferenceName {cs : List Char} (h : IsReferenceName cs) :
    isReferenceWord cs = true := by
  obtain ⟨letters, digits, hletters, hdigits, hupper, hdigit, rfl⟩ := h
  have hspan := span_letters (fun c hc => isAlpha_of_isUpper (hupper c hc)) hdigits hdigit
  simp only [isReferenceWord, hspan, Bool.and_eq_true, bne_iff_ne, List.all_eq_true]
  exact ⟨⟨hletters, hdigits⟩, hdigit⟩

/-- A reference in capitals is read as itself. -/
theorem wordToken_of_isReferenceName {cs : List Char} (h : IsReferenceName cs) :
    wordToken cs = .reference (String.ofList cs) := by
  rw [wordToken_of_isReferenceWord (isReferenceWord_of_isReferenceName h), h.map_toUpper]

theorem IsReferenceName.exists_cons {cs : List Char} (h : IsReferenceName cs) :
    ∃ c tail, cs = c :: tail ∧ c.isAlpha = true ∧ ∀ d ∈ tail, isWordChar d = true := by
  obtain ⟨letters, digits, hletters, -, hupper, hdigit, rfl⟩ := h
  cases letters with
  | nil => exact absurd rfl hletters
  | cons c letters =>
    refine ⟨c, letters ++ digits, rfl, isAlpha_of_isUpper (hupper c List.mem_cons_self), ?_⟩
    intro d hd
    rcases List.mem_append.mp hd with hd | hd
    · exact isWordChar_of_isAlpha (isAlpha_of_isUpper (hupper d (List.mem_cons_of_mem _ hd)))
    · exact isWordChar_of_isDigit (hdigit d hd)

/-! ## Tokens -/

namespace Token

/-- The characters of a token. -/
def spelling : Token → List Char
  | number text => text.toList
  | reference name => name.toList
  | identifier name => name.toList
  | function .inc => ['i', 'n', 'c']
  | function .dec => ['d', 'e', 'c']
  | function .not => ['n', 'o', 't']
  | plus => ['+']
  | minus => ['-']
  | times => ['*']
  | divide => ['/']
  | power => ['^']
  | less => ['<']
  | greater => ['>']
  | equal => ['=']
  | leftParen => ['(']
  | rightParen => [')']

/-- Whether a token has a meaning and is read again where it is written. -/
def IsSpellable : Token → Prop
  | number text => IsNumberText text.toList
  | reference name => IsReferenceName name.toList
  | identifier _ => False
  | _ => True

end Token

variable {token : Token}

/-- **A token with a blank behind it is read back.** -/
theorem read_spelling (h : token.IsSpellable) (rest : List Char) :
    Read token token.spelling (' ' :: rest) := by
  have hblank : ∀ p ∈ [Char.isDigit, isWordChar, isSeparator], Stops p (' ' :: rest) :=
    fun p hp => gentler_blank [] rest p hp stops_nil
  have hword : ∀ c cs, c.isAlpha = true → cs.all isWordChar = true →
      Read (wordToken (c :: cs)) (c :: cs) (' ' :: rest) := fun _ _ hc hcs =>
    .word hc (List.all_eq_true.mp hcs) (hblank _ (by simp))
  match token, h with
  | .number text, h =>
    have hread := IsNumberText.read h (hblank _ (by simp)) (hblank _ (by simp))
    rwa [String.ofList_toList] at hread
  | .reference name, h =>
    obtain ⟨c, cs, hname, hc, hcs⟩ := h.exists_cons
    have hread := hword c cs hc (List.all_eq_true.mpr hcs)
    rwa [← hname, wordToken_of_isReferenceName h, String.ofList_toList] at hread
  | .function .inc, _ => exact hword 'i' ['n', 'c'] (by decide) (by decide)
  | .function .dec, _ => exact hword 'd' ['e', 'c'] (by decide) (by decide)
  | .function .not, _ => exact hword 'n' ['o', 't'] (by decide) (by decide)
  | .plus, _ | .minus, _ | .times, _ | .divide, _ | .power, _ | .less, _ | .greater, _
  | .equal, _ | .leftParen, _ | .rightParen, _ => exact .sign rfl

/-- The scanner's own tokens can be written, except for words without a meaning. -/
theorem Read.isSpellable {span rest : List Char} (h : Read token span rest)
    (hword : ∀ name, token ≠ .identifier name) : token.IsSpellable := by
  match token, h with
  | .number text, h => exact h.isNumberText
  | .reference name, h => exact h.isReferenceName
  | .identifier name, _ => exact hword name rfl
  | .function _, _ | .plus, _ | .minus, _ | .times, _ | .divide, _ | .power, _ | .less, _
  | .greater, _ | .equal, _ | .leftParen, _ | .rightParen, _ => trivial

/-! ## Lists of tokens -/

/-- Tokens written out, with a blank behind each. -/
def spell (tokens : List Token) : List Char := tokens.flatMap fun token => token.spelling ++ [' ']

/-- **Tokens that are written out are scanned again.** -/
theorem cuts_spell : ∀ {tokens : List Token}, (∀ token ∈ tokens, token.IsSpellable) →
    Cuts (spell tokens) [] tokens
  | [], _ => .nil
  | token :: tokens, h => by
      obtain ⟨htoken, htokens⟩ := List.forall_mem_cons.mp h
      have hspell : spell (token :: tokens) = token.spelling ++ ' ' :: spell tokens := by
        rw [spell, List.flatMap_cons, List.append_assoc, List.singleton_append]
        rfl
      rw [hspell]
      exact (read_spelling htoken _).whole_cuts (.blank (by decide) (cuts_spell htokens))

end Spreadsheet
