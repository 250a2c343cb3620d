import Mathlib.Data.List.TakeWhile
import Spreadsheet.Formula.Scan
import Spreadsheet.Proofs.Text.Characters

/-!
# Proofs/Formula/Read — what is read off the front of a text

A token is read off the front of a text up to a character that does not continue it.  `Read` says so
without the scanner, one case for each kind of token, and the scanner reads what it says
(`readToken_eq_token_iff`): all that is proved about the tokens of a text is proved about `Read`.
Behind a token, a text matters only by what continues the token (`Read.gentler`).
-/

namespace Spreadsheet

open Text

variable {p : Char → Bool} {c : Char} {cs rest rest' span after after' : List Char}
  {token : Token} {position : Nat}

/-! ## Classes of characters -/

theorem isDigit_of_isSeparator (h : isSeparator c = true) : c.isDigit = false := by
  simp only [isSeparator, Bool.or_eq_true, decide_eq_true_eq] at h
  rcases h with rfl | rfl <;> decide

theorem not_isSeparator_of_isAlpha (h : c.isAlpha = true) : isSeparator c = false := by
  have ha := isAlpha_iff.mp h
  have hdot : c ≠ '.' := by rintro rfl; simp at ha
  have hcomma : c ≠ ',' := by rintro rfl; simp at ha
  simp [isSeparator, hdot, hcomma]

theorem isWordChar_of_isAlpha (h : c.isAlpha = true) : isWordChar c = true := by
  simp [isWordChar, Char.isAlphanum, h]

theorem isWordChar_of_isDigit (h : c.isDigit = true) : isWordChar c = true := by
  simp [isWordChar, Char.isAlphanum, h]

/-! ## Reading up to a character -/

/-- A text whose first character, if it has one, is not of a kind. -/
def Stops (p : Char → Bool) (cs : List Char) : Prop := ∀ c ∈ cs.head?, p c = false

theorem stops_nil : Stops p [] := nofun

theorem stops_cons : Stops p (c :: cs) ↔ p c = false := by simp [Stops]

theorem stops_dropWhile (p : Char → Bool) (cs : List Char) : Stops p (cs.dropWhile p) := by
  intro c hc
  have hne : cs.dropWhile p ≠ [] := by rintro h; simp [h] at hc
  have hhead := List.head_dropWhile_not p hne
  rw [List.head?_eq_some_head hne] at hc
  rwa [Option.mem_some_iff.mp hc] at hhead

theorem span_of_stops (hspan : ∀ c ∈ span, p c = true) (hrest : Stops p rest) :
    (span ++ rest).takeWhile p = span ∧ (span ++ rest).dropWhile p = rest := by
  rw [List.takeWhile_append_of_pos hspan, List.dropWhile_append_of_pos hspan]
  match rest, hrest with
  | [], _ => simp
  | c :: rest, h => simp [stops_cons.mp h]

/-- Letters end where digits begin. -/
theorem span_letters {letters digits : List Char} (hletters : ∀ c ∈ letters, c.isAlpha = true)
    (hne : digits ≠ []) (hdigits : ∀ c ∈ digits, c.isDigit = true) :
    (letters ++ digits).takeWhile Char.isAlpha = letters
      ∧ (letters ++ digits).dropWhile Char.isAlpha = digits := by
  obtain ⟨d, digits, rfl⟩ := List.exists_cons_of_ne_nil hne
  have hd : d.isAlpha = false := Bool.eq_false_iff.mpr fun halpha => by
    have hdigit := hdigits d List.mem_cons_self
    rw [not_isDigit_of_isAlpha halpha] at hdigit
    cases hdigit
  exact span_of_stops hletters (stops_cons.mpr hd)

/-! ## Tokens -/

/-- **What is read off the front of a text**: the token, its characters and what is left. -/
inductive Read : Token → List Char → List Char → Prop
  | whole {whole rest : List Char} : whole ≠ [] → (∀ c ∈ whole, c.isDigit = true) →
      Stops Char.isDigit rest → Stops isSeparator rest →
      Read (.number (String.ofList whole)) whole rest
  | decimal {whole : List Char} {separator : Char} {fraction rest : List Char} : whole ≠ [] →
      (∀ c ∈ whole, c.isDigit = true) → isSeparator separator = true → fraction ≠ [] →
      (∀ c ∈ fraction, c.isDigit = true) → Stops Char.isDigit rest →
      Read (.number (String.ofList (whole ++ separator :: fraction)))
        (whole ++ separator :: fraction) rest
  | word {c : Char} {cs rest : List Char} : c.isAlpha = true → (∀ d ∈ cs, isWordChar d = true) →
      Stops isWordChar rest → Read (wordToken (c :: cs)) (c :: cs) rest
  | sign {c : Char} {token : Token} {rest : List Char} : Token.ofSign? c = some token →
      Read token [c] rest

/-- No word is a number. -/
theorem wordToken_ne_number (word : List Char) (text : String) :
    wordToken word ≠ .number text := by
  rw [wordToken]
  repeat' split
  all_goals simp

/-- A sign is no number and no word. -/
theorem ofSign?_spec (h : Token.ofSign? c = some token) :
    c.isDigit = false ∧ c.isAlpha = false ∧ isBlank c = false
      ∧ (∀ text, token ≠ .number text) ∧ ∀ name, token ≠ .reference name := by
  simp only [Token.ofSign?] at h
  split at h <;> cases h <;> simp <;> decide

/-! ### The scanner reads tokens -/

theorem read_of_readNumber (hc : c.isDigit = true)
    (h : readNumber (c :: cs) = .token token span rest) : Read token span rest := by
  have hne : (c :: cs).takeWhile Char.isDigit ≠ [] := by simp [hc]
  have hdigits : ∀ {l : List Char}, ∀ d ∈ l.takeWhile Char.isDigit, d.isDigit = true :=
    fun d hd => List.mem_takeWhile_imp hd
  have hstops := stops_dropWhile Char.isDigit (c :: cs)
  rw [readNumber] at h
  dsimp only at h
  split at h
  · cases h
    exact .whole hne hdigits stops_nil stops_nil
  · rename_i separator tail hdrop
    rw [hdrop] at hstops
    split at h
    · rename_i hsep
      split at h
      · cases h
      · rename_i hfraction
        cases h
        exact .decimal hne hdigits hsep hfraction hdigits (stops_dropWhile _ _)
    · rename_i hsep
      cases h
      exact .whole hne hdigits hstops (stops_cons.mpr (by simpa using hsep))

theorem readNumber_of_read_whole (hdigits : ∀ c ∈ span, c.isDigit = true)
    (hstops : Stops Char.isDigit rest) (hsep : Stops isSeparator rest) :
    readNumber (span ++ rest) = .token (.number (String.ofList span)) span rest := by
  obtain ⟨htake, hdrop⟩ := span_of_stops hdigits hstops
  rw [readNumber, htake, hdrop]
  rcases rest with _ | ⟨c, rest⟩
  · rfl
  · simp [stops_cons.mp hsep]

theorem readNumber_of_read_decimal {whole fraction : List Char}
    (hwhole : ∀ c ∈ whole, c.isDigit = true) (hsep : isSeparator c = true) (hne : fraction ≠ [])
    (hfraction : ∀ c ∈ fraction, c.isDigit = true) (hstops : Stops Char.isDigit rest) :
    readNumber (whole ++ c :: fraction ++ rest) = .token
      (.number (String.ofList (whole ++ c :: fraction))) (whole ++ c :: fraction) rest := by
  have hpoint : Stops Char.isDigit (c :: (fraction ++ rest)) :=
    stops_cons.mpr (isDigit_of_isSeparator hsep)
  obtain ⟨htake, hdrop⟩ := span_of_stops hwhole hpoint
  obtain ⟨htake', hdrop'⟩ := span_of_stops hfraction hstops
  rw [List.append_assoc, List.cons_append, readNumber, htake, hdrop]
  simp only [hsep, htake', hdrop', if_true, if_neg hne]

/-- **The scanner reads what `Read` says.** -/
theorem readToken_eq_token_iff :
    readToken c cs = .token token span rest ↔ span ++ rest = c :: cs ∧ Read token span rest := by
  constructor
  · intro h
    refine ⟨(readToken_token h).1, ?_⟩
    rw [readToken] at h
    split at h
    · rename_i hc
      exact read_of_readNumber hc h
    · split at h
      · rename_i hc
        cases h
        exact .word hc (fun d hd => List.mem_takeWhile_imp hd) (stops_dropWhile _ _)
      · split at h
        · rename_i hsign
          cases h
          exact .sign hsign
        · cases h
  · rintro ⟨htext, h⟩
    have hnumber : ∀ {whole tail : List Char}, whole ≠ [] → (∀ c ∈ whole, c.isDigit = true) →
        whole ++ tail = c :: cs → readToken c cs = readNumber (c :: cs) := by
      intro whole tail hne hdigits htext
      obtain ⟨d, whole, rfl⟩ := List.exists_cons_of_ne_nil hne
      obtain ⟨rfl, -⟩ := List.cons.inj htext
      exact if_pos (hdigits d List.mem_cons_self)
    cases h with
    | whole hne hdigits hstops hsep =>
      rw [hnumber hne hdigits htext, ← htext]
      exact readNumber_of_read_whole hdigits hstops hsep
    | decimal hne hdigits hsep hfraction hdigits' hstops =>
      rw [hnumber hne hdigits ((List.append_assoc _ _ _).symm.trans htext), ← htext]
      exact readNumber_of_read_decimal hdigits hsep hfraction hdigits' hstops
    | @word _ word _ hc hcs hstops =>
      obtain ⟨rfl, htail⟩ := List.cons.inj htext
      obtain ⟨htake, hdrop⟩ := span_of_stops hcs hstops
      change word ++ rest = cs at htail
      simp only [readToken, not_isDigit_of_isAlpha hc, hc, ← htail, htake, hdrop, if_true]
      rfl
    | sign hsign =>
      obtain ⟨rfl, rfl⟩ := List.cons.inj htext
      obtain ⟨hdigit, halpha, -⟩ := ofSign?_spec hsign
      rw [readToken, if_neg (by simp [hdigit]), if_neg (by simp [halpha]), hsign]
      rfl

/-! ### What a token begins with, and what is behind it -/

/-- A token begins with a character that is not blank. -/
theorem Read.exists_cons (h : Read token span rest) :
    ∃ c cs, span = c :: cs ∧ isBlank c = false := by
  match h with
  | .whole hne hdigits _ _ =>
    obtain ⟨d, tail, rfl⟩ := List.exists_cons_of_ne_nil hne
    exact ⟨d, tail, rfl, not_isBlank_of_isDigit (hdigits d List.mem_cons_self)⟩
  | .decimal hne hdigits _ _ _ _ =>
    obtain ⟨d, tail, rfl⟩ := List.exists_cons_of_ne_nil hne
    exact ⟨d, _, rfl, not_isBlank_of_isDigit (hdigits d List.mem_cons_self)⟩
  | .word hc _ _ => exact ⟨_, _, rfl, not_isBlank_of_isAlpha hc⟩
  | .sign hsign => exact ⟨_, _, rfl, (ofSign?_spec hsign).2.2.1⟩

/-- A reference is read off a word. -/
theorem Read.word_of_reference {name : String} (h : Read (.reference name) span rest) :
    ∃ c cs, span = c :: cs ∧ c.isAlpha = true ∧ (∀ d ∈ cs, isWordChar d = true)
      ∧ Stops isWordChar rest ∧ wordToken span = .reference name := by
  generalize htoken : Token.reference name = token at h
  match h with
  | .whole .. | .decimal .. => cases htoken
  | .word hc hcs hstops => exact ⟨_, _, rfl, hc, hcs, hstops, rfl⟩
  | .sign hsign => exact absurd htoken.symm ((ofSign?_spec hsign).2.2.2.2 name)

/-- The second text continues no token that the first one does not continue. -/
def Gentler (rest rest' : List Char) : Prop :=
  ∀ p ∈ [Char.isDigit, isWordChar, isSeparator], Stops p rest → Stops p rest'

theorem Gentler.refl (rest : List Char) : Gentler rest rest := fun _ _ h => h

theorem Gentler.append (h : Gentler after after') (cs : List Char) :
    Gentler (cs ++ after) (cs ++ after') := by
  match cs with
  | [] => exact h
  | _ :: _ => exact fun p _ hstops => stops_cons.mpr (stops_cons.mp hstops)

/-- **A token depends on nothing behind it but whether it is continued.** -/
theorem Read.gentler (h : Read token span rest) (hrest : Gentler rest rest') :
    Read token span rest' := by
  have hdigit := hrest Char.isDigit (by simp)
  have hword := hrest isWordChar (by simp)
  have hsep := hrest isSeparator (by simp)
  match h with
  | .whole hne hdigits hstops hstops' => exact .whole hne hdigits (hdigit hstops) (hsep hstops')
  | .decimal hne hdigits hs hne' hdigits' hstops =>
    exact .decimal hne hdigits hs hne' hdigits' (hdigit hstops)
  | .word hc hcs hstops => exact .word hc hcs (hword hstops)
  | .sign hsign => exact .sign hsign

theorem not_of_isBlank (hc : isBlank c = true) (hp : p ∈ [Char.isDigit, isWordChar, isSeparator]) :
    p c = false := by
  have hdigit : c.isDigit = false := Bool.eq_false_iff.mpr fun h => by
    simp [not_isBlank_of_isDigit h] at hc
  have hscore : c ≠ '_' := by rintro rfl; revert hc; decide
  have hpoint : c ≠ '.' := by rintro rfl; revert hc; decide
  have hcomma : c ≠ ',' := by rintro rfl; revert hc; decide
  simp only [List.mem_cons, List.not_mem_nil, or_false] at hp
  rcases hp with rfl | rfl | rfl
  · exact hdigit
  · simp [isWordChar, Char.isAlphanum, not_isAlpha_of_isBlank hc, hdigit, hscore]
  · simp [isSeparator, hpoint, hcomma]

theorem gentler_blank (after rest : List Char) : Gentler after (' ' :: rest) :=
  fun _ hp _ => stops_cons.mpr (not_of_isBlank (by decide) hp)

/-- Blanks continue no token. -/
theorem gentler_blanks (hcs : ∀ c ∈ cs, isBlank c = true) (after : List Char) :
    Gentler after (cs ++ after) := by
  match cs, hcs with
  | [], _ => exact .refl after
  | c :: cs, hcs =>
    intro p hp _
    exact stops_cons.mpr (not_of_isBlank (hcs c List.mem_cons_self) hp)

/-! ## Scanning -/

/-- White space before a token only moves it. -/
theorem scanFrom_blanks (cs : List Char) : ∀ (blanks : List Char) (position : Nat),
    (∀ c ∈ blanks, isBlank c = true) →
      scanFrom position (blanks ++ cs) = scanFrom (position + blanks.length) cs
  | [], position, _ => rfl
  | b :: blanks, position, h => by
      rw [List.cons_append, scanFrom, if_pos (h b List.mem_cons_self),
        scanFrom_blanks cs blanks _ fun c hc => h c (List.mem_cons_of_mem _ hc), List.length_cons]
      congr 1
      omega

theorem scanFrom_token (position : Nat) (hc : isBlank c = false)
    (h : readToken c cs = .token token span rest) :
    scanFrom position (c :: cs) = (scanFrom (position + span.length) rest).cons
      ⟨token, position, position + span.length⟩ := by
  rw [scanFrom, if_neg (by simp [hc])]
  split
  · simp_all
  · rename_i token' span' rest' h'
    rw [h] at h'
    cases h'
    rfl

/-- A token that is read off the front of a text is scanned first. -/
theorem scanFrom_of_read (position : Nat) (h : Read token span rest) :
    scanFrom position (span ++ rest) = (scanFrom (position + span.length) rest).cons
      ⟨token, position, position + span.length⟩ := by
  obtain ⟨c, tail, rfl, hc⟩ := h.exists_cons
  exact scanFrom_token position hc (readToken_eq_token_iff.mpr ⟨rfl, h⟩)

theorem scanFrom_fault {fault : LexicalFault} {offset : Nat} (position : Nat)
    (hc : isBlank c = false) (h : readToken c cs = .fault fault offset) :
    scanFrom position (c :: cs) = ⟨[], .failed fault (position + offset)⟩ := by
  rw [scanFrom, if_neg (by simp [hc])]
  split <;> simp_all

/-- What holds of every token that can be read off a part of a text holds of every token of the
text. -/
theorem forall_mem_tokens {P : Token → Prop} (position : Nat) (cs : List Char)
    (hP : ∀ {token span rest}, span ⊆ cs → Read token span rest → P token) :
    ∀ token ∈ (scanFrom position cs).tokens, P token := by
  fun_induction scanFrom position cs with
  | case1 => exact nofun
  | case2 position c cs hc ih => exact ih fun hspan => hP (List.subset_cons_of_subset _ hspan)
  | case3 => exact nofun
  | case4 position c cs hc token span rest h ih =>
    obtain ⟨htext, hread⟩ := readToken_eq_token_iff.mp h
    intro t ht
    rcases List.mem_cons.mp ht with rfl | ht
    · exact hP (htext ▸ List.subset_append_left _ _) hread
    · have hrest : rest ⊆ c :: cs := htext ▸ List.subset_append_right _ _
      exact ih (fun hspan => hP (List.Subset.trans hspan hrest)) t ht

end Spreadsheet
