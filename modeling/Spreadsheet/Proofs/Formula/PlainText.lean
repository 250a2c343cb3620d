import Spreadsheet.Proofs.Formula.Leaves
import Spreadsheet.Proofs.Formula.Read
import Spreadsheet.Proofs.Number.Notation
import Spreadsheet.Proofs.Text.Blanks

/-!
# Proofs/Formula/PlainText — formulas beside texts that have a value of their own

Two facts about the text of a cell, on which every evaluation rests.  The numbers of a formula can
always be read (`readable_of_parse`), so a formula fails only through its references.  And a
text with a value of its own is no formula with references (`references_eq_nil_of_scalarValue?`),
so a failed reference is never covered by the plain text of the cell that holds it.
-/

namespace Spreadsheet

open Text

/-! ## Number tokens -/

/-- A number token as the scanner writes it: digits, and digits behind a separator. -/
def IsNumeral (cs : List Char) : Prop :=
  ∃ whole fraction, whole ≠ [] ∧ (∀ c ∈ whole ++ fraction, c.isDigit = true)
    ∧ (cs = whole ∧ fraction = [] ∨ ∃ separator, isSeparator separator = true
      ∧ cs = whole ++ separator :: fraction)

theorem Read.isNumeral {text : String} {span rest : List Char}
    (h : Read (.number text) span rest) : IsNumeral text.toList := by
  generalize htoken : Token.number text = token at h
  match h with
  | .whole hne hdigits _ _ =>
    cases htoken
    exact ⟨_, [], hne, by simpa using hdigits, .inl ⟨String.toList_ofList, rfl⟩⟩
  | @Read.decimal front separator fraction _ hne hdigits hsep _ hdigits' _ =>
    cases htoken
    refine ⟨front, fraction, hne, fun c hc => ?_, .inr ⟨separator, hsep, String.toList_ofList⟩⟩
    exact (List.mem_append.mp hc).elim (hdigits c) (hdigits' c)
  | .word .. => exact absurd htoken.symm (wordToken_ne_number _ text)
  | .sign hsign => exact absurd htoken.symm ((ofSign?_spec hsign).2.2.2.1 text)

/-! ## Reading the numbers of a formula -/

/-- Whether every number of a formula can be read. -/
def Expr.Readable (e : Expr) : Prop :=
  ∀ text, .number text ∈ e.leaves → ∃ x, literalValue text = .ok x

/-- A number in a formula has the value that it denotes with a point for its separator. -/
theorem literalValue_of_denotes {text : String} {d : Decimal}
    (h : Denotes (text.toList.map fun c => if c = ',' then '.' else c) d) :
    literalValue text = .ok d.toFloat := by
  rw [literalValue, h.read?]

/-- **A number as the scanner writes it can be read.** -/
theorem literalValue_of_isNumeral {text : String} (h : IsNumeral text.toList) :
    ∃ x, literalValue text = .ok x := by
  obtain ⟨whole, fraction, hne, hdigits, hcs⟩ := h
  have hkeep : ∀ l : List Char, (∀ c ∈ l, c.isDigit = true) →
      l.map (fun c => if c = ',' then '.' else c) = l := by
    intro l hl
    rw [List.map_congr_left fun c hc => if_neg (ne_of_isDigit (hl c hc) (by decide)), List.map_id']
  obtain ⟨hwhole, hfraction⟩ := List.forall_mem_append.mp hdigits
  refine ⟨_, literalValue_of_denotes (denotes_mantissa (by simp [hne]) hdigits ?_)⟩
  obtain ⟨hcs, rfl⟩ | ⟨separator, hsep, hcs⟩ := hcs
  · rw [hcs]
    exact .inl ⟨hkeep _ hwhole, rfl⟩
  · right
    rw [hcs, List.map_append, List.map_cons, hkeep whole hwhole, hkeep fraction hfraction]
    simp only [isSeparator, Bool.or_eq_true, decide_eq_true_eq] at hsep
    rcases hsep with rfl | rfl <;> rfl

/-- **The numbers of a formula can be read.** -/
theorem readable_of_parse {text : String} {e : Expr} (h : parseFormula text = .ok e) :
    e.Readable := by
  intro number hn
  rw [leaves_of_parse (parseFormula_ok h), List.mem_filter] at hn
  have hshape := forall_mem_tokens (P := fun token => ∀ text, token = .number text →
    IsNumeral text.toList) 0 text.toList fun {token span rest} _ hread => by
      rintro text rfl
      exact hread.isNumeral
  exact literalValue_of_isNumeral (hshape _ hn.1 number rfl)

/-! ## Number texts are no formulas with references

A reference begins with a letter, and the only letter of a number text announces its power of ten.
The scanner reads that letter as a word right behind a number, and no formula goes on like that. -/

/-- A word stands for a function, a reference or a name. -/
def IsWord : Token → Prop
  | .function _ | .reference _ | .identifier _ => True
  | _ => False

theorem isWord_wordToken (word : List Char) : IsWord (wordToken word) := by
  rw [wordToken]
  repeat' split
  all_goals trivial

/-- Behind an operand, no word can be read. -/
theorem step_complete_word (e : Expr) {token : Token} (h : IsWord token) :
    ∃ cause, ParseState.step ⟨.complete e, []⟩ token = .error cause := by
  cases token <;> simp only [IsWord] at h
  all_goals exact ⟨_, rfl⟩

/-- A number with a word behind it, also behind a sign, is no formula. -/
theorem readLexemes_number_word {state : ParseState} {e : Expr} (number word : Lexeme)
    (hn : state.step number.token = .ok ⟨.complete e, []⟩) (hw : IsWord word.token)
    (lexemes : List Lexeme) :
    ∃ fault, readLexemes state (number :: word :: lexemes) = .error fault := by
  obtain ⟨cause, hcause⟩ := step_complete_word e hw
  exact ⟨⟨cause, word.start⟩, by simp [readLexemes, stepLexeme, hn, hcause]⟩

/-! ### Scanning a number text -/

/-- A letter begins a word. -/
theorem readToken_letter {c : Char} (h : c.isAlpha = true) (cs : List Char) :
    readToken c cs = .token (wordToken (c :: cs.takeWhile isWordChar))
      (c :: cs.takeWhile isWordChar) (cs.dropWhile isWordChar) := by
  simp [readToken, not_isDigit_of_isAlpha h, h]

/-- A mantissa that neither a digit nor a separator continues is scanned as a number or not at
all. -/
theorem readToken_mantissa {mantissa rest : List Char} (hm : IsMantissa mantissa)
    (hdigit : Stops Char.isDigit rest) (hsep : Stops isSeparator rest) :
    ∃ first tail, mantissa ++ rest = first :: tail ∧ isBlank first = false
      ∧ (Read (.number (String.ofList mantissa)) mantissa rest
        ∨ ∃ fault offset, readToken first tail = .fault fault offset) := by
  obtain ⟨whole, fraction, hne, hdigits, hcs⟩ := hm
  obtain ⟨hwhole, hfraction⟩ := List.forall_mem_append.mp hdigits
  cases whole with
  | nil =>
    obtain ⟨rfl, rfl⟩ | rfl := hcs
    · simp at hne
    · exact ⟨'.', _, rfl, by decide, .inr ⟨.strayCharacter '.', 0, rfl⟩⟩
  | cons d whole =>
    have hd : d.isDigit = true := hwhole d List.mem_cons_self
    obtain ⟨rfl, rfl⟩ | rfl := hcs
    · exact ⟨d, whole ++ rest, rfl, not_isBlank_of_isDigit hd,
        .inl (.whole (List.cons_ne_nil _ _) hwhole hdigit hsep)⟩
    · refine ⟨d, whole ++ '.' :: (fraction ++ rest), by simp, not_isBlank_of_isDigit hd, ?_⟩
      cases fraction with
      | nil =>
        -- A separator with no digit behind it is a fault.
        obtain ⟨htake, hdrop⟩ := span_of_stops hwhole (stops_cons.mpr isDigit_point)
        have hnone : rest.takeWhile Char.isDigit = [] :=
          (span_of_stops (List.forall_mem_nil _) hdigit).1
        refine .inr ⟨.missingDigits '.', (d :: whole).length + 1, ?_⟩
        rw [readToken, if_pos hd, ← List.cons_append, readNumber, htake, hdrop]
        simp [hnone, isSeparator]
      | cons f fraction =>
        exact .inl (.decimal (List.cons_ne_nil _ _) hwhole (by decide) (List.cons_ne_nil _ _)
          hfraction hdigit)

/-- A sign is scanned as one token, behind which the reader still waits for an operand. -/
theorem scan_sign {sign : List Char} (hs : IsSignText sign) (position : Nat) (cs : List Char) :
    ∃ state next, (∀ text, ∃ e, ParseState.step state (.number text) = .ok ⟨.complete e, []⟩)
      ∧ readLexemes .initial (scanFrom position (sign ++ cs)).lexemes
        = readLexemes state (scanFrom next cs).lexemes
      ∧ (scanFrom position (sign ++ cs)).ending = (scanFrom next cs).ending := by
  obtain rfl | rfl | rfl := hs
  · exact ⟨.initial, position, fun text => ⟨_, rfl⟩, rfl, rfl⟩
  · have hplus : isBlank '+' = false := by decide
    have htoken : readToken '+' cs = .token .plus ['+'] cs := rfl
    refine ⟨⟨.operand, [.sign .plus]⟩, position + 1, fun text => ⟨_, rfl⟩, ?_⟩
    rw [List.singleton_append, scanFrom_token position hplus htoken]
    exact ⟨rfl, rfl⟩
  · have hminus : isBlank '-' = false := by decide
    have htoken : readToken '-' cs = .token .minus ['-'] cs := rfl
    refine ⟨⟨.operand, [.sign .minus]⟩, position + 1, fun text => ⟨_, rfl⟩, ?_⟩
    rw [List.singleton_append, scanFrom_token position hminus htoken]
    exact ⟨rfl, rfl⟩

/-- The mantissa at the start of a formula is scanned as a number, also behind a sign. -/
theorem read_mantissa_of_parse {blanks sign mantissa rest : List Char} {e : Expr}
    (hb : ∀ c ∈ blanks, isBlank c = true) (hs : IsSignText sign) (hm : IsMantissa mantissa)
    (hdigit : Stops Char.isDigit rest) (hsep : Stops isSeparator rest)
    (h : parse (blanks ++ (sign ++ (mantissa ++ rest))) = .ok e) :
    Read (.number (String.ofList mantissa)) mantissa rest := by
  obtain ⟨-, -, -, position, hend⟩ := parse_ok h
  obtain ⟨-, next, -, -, hending⟩ := scan_sign hs (0 + blanks.length) (mantissa ++ rest)
  rw [scan, scanFrom_blanks _ _ _ hb, hending] at hend
  obtain ⟨first, tail, heq, hfirst, hread | ⟨fault, offset, hfault⟩⟩ :=
    readToken_mantissa hm hdigit hsep
  · exact hread
  · simp [heq, scanFrom_fault next hfirst hfault] at hend

/-- **A number with a word behind it is no formula**, also behind a sign. -/
theorem parse_number_word {blanks sign mantissa : List Char} (hb : ∀ c ∈ blanks, isBlank c = true)
    (hs : IsSignText sign) (hm : IsMantissa mantissa) {c : Char} (hc : c.isAlpha = true)
    (tail : List Char) (e : Expr) :
    parse (blanks ++ (sign ++ (mantissa ++ c :: tail))) ≠ .ok e := by
  intro hparse
  have hnumber := read_mantissa_of_parse hb hs hm (stops_cons.mpr (not_isDigit_of_isAlpha hc))
    (stops_cons.mpr (not_isSeparator_of_isAlpha hc)) hparse
  obtain ⟨final, hread, -, -, -⟩ := parse_ok hparse
  obtain ⟨state, next, hstep, hlexemes, -⟩ :=
    scan_sign hs (0 + blanks.length) (mantissa ++ c :: tail)
  rw [scan, scanFrom_blanks _ _ _ hb, hlexemes, scanFrom_of_read next hnumber,
    scanFrom_token _ (not_isBlank_of_isAlpha hc) (readToken_letter hc tail)] at hread
  obtain ⟨operand, hoperand⟩ := hstep (String.ofList mantissa)
  obtain ⟨fault, hfault⟩ := readLexemes_number_word ⟨.number (String.ofList mantissa), _, _⟩
    ⟨wordToken _, _, _⟩ hoperand (isWord_wordToken _) _
  cases hfault.symm.trans hread

/-! ### The two kinds of text -/

/-- A token without letters is no word. -/
theorem Read.not_isWord {token : Token} {span rest : List Char} (h : Read token span rest)
    (hspan : ∀ c ∈ span, c.isAlpha = false) : ¬ IsWord token := by
  match h with
  | .whole .. | .decimal .. => exact id
  | .word hc _ _ =>
    rw [hspan _ List.mem_cons_self] at hc
    cases hc
  | .sign hsign =>
    simp only [Token.ofSign?] at hsign
    split at hsign <;> cases hsign <;> exact id

/-- A formula of a text without letters has no references. -/
theorem references_eq_nil_of_not_isAlpha {cs : List Char} {e : Expr} (h : parse cs = .ok e)
    (hc : ∀ c ∈ cs, c.isAlpha = false) : e.references = [] := by
  refine List.eq_nil_iff_forall_not_mem.mpr fun name hname => ?_
  rw [Expr.mem_references_iff, leaves_of_parse h, List.mem_filter] at hname
  exact forall_mem_tokens (P := fun token => ¬ IsWord token) 0 cs
    (fun hspan hread => hread.not_isWord fun c hmem => hc c (hspan hmem)) _ hname.1 trivial

/-- No character of a sign or a mantissa is a letter. -/
theorem not_isAlpha_of_number {sign mantissa : List Char} (hs : IsSignText sign)
    (hm : IsMantissa mantissa) : ∀ c ∈ sign ++ mantissa, c.isAlpha = false := by
  have hdigit : ∀ c : Char, c.isDigit = true → c.isAlpha = false := fun c hd => by
    by_contra ha
    simp [not_isDigit_of_isAlpha (c := c) (by simpa only [Bool.not_eq_false] using ha)] at hd
  intro c hc
  rcases List.mem_append.mp hc with hc | hc
  · obtain rfl | rfl | rfl := hs
    · simp at hc
    · rw [List.mem_singleton.mp hc]; decide
    · rw [List.mem_singleton.mp hc]; decide
  · rcases hm.isDigit_or_eq_point c hc with hd | rfl
    · exact hdigit c hd
    · decide

/-- **A text with a value of its own is no formula with references.** -/
theorem references_eq_nil_of_scalarValue? {text : String} {e : Expr} {x : Float}
    (h : parseFormula text = .ok e) (hx : scalarValue? text = some x) : e.references = [] := by
  have hp := parseFormula_ok h
  rcases scalarValue?_isSome_iff.mp (Option.isSome_of_eq_some hx) with rfl | hn
  · exact references_eq_nil_of_not_isAlpha hp (by simp)
  obtain ⟨d, hd⟩ := denotes_of_isNumericText hn
  obtain ⟨before, after, hbefore, hafter, htext⟩ := exists_blanks_trim text.toList
  generalize trim text.toList = plain at hd htext
  cases hd with
  | @parts sign mantissa power whole fraction _ hs hne hdigits hmantissa hpower =>
    have hm : IsMantissa mantissa := ⟨whole, fraction, hne, hdigits, hmantissa⟩
    cases hpower with
    | absent =>
      refine references_eq_nil_of_not_isAlpha hp fun c hc => ?_
      rw [htext, List.append_nil, List.mem_append, List.mem_append] at hc
      rcases hc with hc | hc | hc
      · exact not_isAlpha_of_isBlank (hbefore c hc)
      · exact not_isAlpha_of_number hs hm c hc
      · exact not_isAlpha_of_isBlank (hafter c hc)
    | marked hmark =>
      rw [htext] at hp
      simp only [List.append_assoc, List.cons_append] at hp
      exact absurd hp (parse_number_word hbefore hs hm (isAlpha_of_mark hmark) _ e)

end Spreadsheet
