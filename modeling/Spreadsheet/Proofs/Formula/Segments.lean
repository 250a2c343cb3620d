import Spreadsheet.Proofs.Formula.Items
import Spreadsheet.Proofs.Formula.Spelling

/-!
# Proofs/Formula/Segments — a scan loses nothing, and takes the longest tokens

A scan cuts the text into pieces that follow each other, with nothing but blanks between them, up to
the end of the text or to the first place where no token can be read (`scan_segments`).  Each piece
is its token on its own, and with more of the text behind it, it is no token (`Read.longest`): a
token read off a text would be read again off the longer piece, with something left over.  So blanks
can be put between tokens without harm.
-/

namespace Spreadsheet

open Text

variable {cs before after rest span more : List Char} {c : Char} {ts : List Token}
  {token token' : Token} {lexeme : Lexeme} {i : Nat}

/-! ## Tokens at their places -/

section

variable {position : Nat}

/-- A token of a scan is read off what is left of the text at its place. -/
theorem exists_read_of_mem (h : lexeme ∈ (scanFrom position cs).lexemes) :
    ∃ before span after, cs = before ++ (span ++ after) ∧ Read lexeme.token span after
      ∧ lexeme.start = position + before.length ∧ lexeme.stop = lexeme.start + span.length := by
  fun_induction scanFrom position cs with
  | case1 => cases h
  | case2 position c cs hc ih =>
    obtain ⟨before, span, after, rfl, hread, hstart, hstop⟩ := ih h
    refine ⟨c :: before, span, after, rfl, hread, ?_, hstop⟩
    rw [hstart, List.length_cons]
    omega
  | case3 => cases h
  | case4 position c cs hc token span rest hread ih =>
    obtain ⟨htext, hread⟩ := readToken_eq_token_iff.mp hread
    rcases List.mem_cons.mp h with rfl | h
    · exact ⟨[], span, rest, htext.symm, hread, rfl, rfl⟩
    · obtain ⟨before, span', after, rfl, hread', hstart, hstop⟩ := ih h
      refine ⟨span ++ before, span', after, ?_, hread', ?_, hstop⟩
      · rw [← htext, List.append_assoc]
      · rw [hstart, List.length_append]
        omega

end

/-- Tokens stand one behind the other. -/
theorem pairwise_lexemes (position : Nat) (cs : List Char) :
    (scanFrom position cs).lexemes.Pairwise fun a b => a.stop ≤ b.start := by
  fun_induction scanFrom position cs with
  | case1 => exact .nil
  | case2 position c cs hc ih => exact ih
  | case3 => exact .nil
  | case4 position c cs hc token span rest hread ih =>
    exact .cons (fun lexeme h => le_start_of_mem h) ih

/-- **A character that is not blank lies in a token**, if the text is cut up to there. -/
theorem Cuts.exists_mem (h : Cuts before after ts) (hi : before[i]? = some c)
    (hc : isBlank c = false) (position : Nat) :
    ∃ lexeme ∈ (scanFrom position (before ++ after)).lexemes,
      lexeme.start ≤ position + i ∧ position + i < lexeme.stop := by
  induction h generalizing position i with
  | nil => cases hi
  | @blank b cs after ts hb _ ih =>
    rw [List.cons_append, scanFrom, if_pos hb]
    rcases i with _ | i
    · obtain rfl := Option.some.inj hi
      rw [hb] at hc
      cases hc
    · obtain ⟨lexeme, hmem, hle, hlt⟩ := ih hi (position + 1)
      exact ⟨lexeme, hmem, by omega, by omega⟩
  | @token token span cs after ts hread _ ih =>
    rw [List.append_assoc, scanFrom_of_read position hread]
    rcases Nat.lt_or_ge i span.length with hlt | hge
    · exact ⟨_, List.mem_cons_self, Nat.le_add_right _ _, Nat.add_lt_add_left hlt _⟩
    · rw [List.getElem?_append_right hge] at hi
      obtain ⟨lexeme, hmem, hle, hlt⟩ := ih hi (position + span.length)
      exact ⟨lexeme, List.mem_cons_of_mem _ hmem, by omega, by omega⟩

/-! ## One token -/

/-- A text is one token, from its first character to its last. -/
def IsOneToken (cs : List Char) (token : Token) : Prop :=
  scan cs = ⟨[⟨token, 0, cs.length⟩], .finished cs.length⟩

theorem isOneToken_iff : IsOneToken cs token ↔ Read token cs [] := by
  constructor
  · intro h
    have hmem : (⟨token, 0, cs.length⟩ : Lexeme) ∈ (scan cs).lexemes := by
      rw [show scan cs = _ from h]
      exact List.mem_cons_self
    obtain ⟨before, span, after, htext, hread, hstart, hstop⟩ := exists_read_of_mem hmem
    have hlength := congrArg List.length htext
    simp only [List.length_append] at hlength hstart hstop
    obtain rfl : before = [] := List.eq_nil_of_length_eq_zero (by omega)
    obtain rfl : after = [] := List.eq_nil_of_length_eq_zero (by omega)
    rwa [htext, List.nil_append, List.append_nil]
  · intro h
    have hscan := scanFrom_of_read 0 h
    rw [List.append_nil, scanFrom, Nat.zero_add] at hscan
    exact hscan

/-- What is read off the front of a text is a token of its own. -/
theorem Read.alone (h : Read token span rest) : Read token span [] :=
  h.gentler fun _ _ _ => stops_nil

/-- **No token goes on for longer**: with more of the text behind it, it is no token any more. -/
theorem Read.longest (h : Read token span rest) (hmore : more ≠ []) (hrest : more <+: rest) :
    ¬Read token' (span ++ more) [] := by
  intro hlonger
  have hgentler : Gentler rest more := by
    obtain ⟨d, more, rfl⟩ := List.exists_cons_of_ne_nil hmore
    obtain ⟨tail, rfl⟩ := hrest
    exact fun p _ hstops => stops_cons.mpr (stops_cons.mp hstops)
  obtain ⟨c, tail, rfl, -⟩ := h.exists_cons
  have hread : readToken c (tail ++ more) = .token token (c :: tail) more :=
    readToken_eq_token_iff.mpr ⟨rfl, h.gentler hgentler⟩
  have hread' : readToken c (tail ++ more) = .token token' (c :: tail ++ more) [] :=
    readToken_eq_token_iff.mpr ⟨List.append_nil _, hlonger⟩
  injection hread.symm.trans hread' with _ _ hnil
  exact hmore hnil

/-- No blank is part of a token. -/
theorem Read.not_isBlank (h : Read token span rest) : ∀ c ∈ span, isBlank c = false := by
  have hclass : ∀ {p : Char → Bool}, p ∈ [Char.isDigit, isWordChar, isSeparator] → ∀ {c : Char},
      p c = true → isBlank c = false := fun hp c hc =>
    Bool.eq_false_iff.mpr fun hblank => by simp [not_of_isBlank hblank hp] at hc
  cases h with
  | whole _ hdigits => exact fun c hc => hclass (by simp) (hdigits c hc)
  | decimal _ hdigits hsep _ hdigits' =>
    intro c hc
    rcases List.mem_append.mp hc with hc | hc
    · exact hclass (by simp) (hdigits c hc)
    · rcases List.mem_cons.mp hc with rfl | hc
      · exact hclass (by simp) hsep
      · exact hclass (by simp) (hdigits' c hc)
  | word hc hcs =>
    exact List.forall_mem_cons.mpr ⟨not_isBlank_of_isAlpha hc, fun d hd =>
      hclass (by simp) (hcs d hd)⟩
  | sign hsign => exact List.forall_mem_singleton.mpr (ofSign?_spec hsign).2.2.1

/-- Whether a token is spelled with some characters: a reference with their capitals, every other
token with the characters as they are. -/
def Token.IsSpelledBy : Token → List Char → Prop
  | .reference name, span => name.toList = span.map Char.toUpper
  | token, span => token.spelling = span

theorem isSpelledBy_wordToken (word : List Char) : (wordToken word).IsSpelledBy word := by
  rw [wordToken]
  split
  · exact Eq.symm ‹_›
  · split
    · exact Eq.symm ‹_›
    · split
      · exact Eq.symm ‹_›
      · split
        · exact String.toList_ofList
        · exact String.toList_ofList

theorem Read.isSpelledBy (h : Read token span rest) : token.IsSpelledBy span := by
  cases h with
  | whole | decimal => exact String.toList_ofList
  | word => exact isSpelledBy_wordToken _
  | sign hsign =>
    simp only [Token.ofSign?] at hsign
    split at hsign <;> cases hsign <;> rfl

/-! ## Blanks between tokens -/

/-- A token further on in a text. -/
def Lexeme.moved (n : Nat) (lexeme : Lexeme) : Lexeme :=
  ⟨lexeme.token, lexeme.start + n, lexeme.stop + n⟩

/-- An ending further on in a text. -/
def Ending.moved (n : Nat) : Ending → Ending
  | finished position => finished (position + n)
  | failed fault position => failed fault (position + n)

/-- A text further on is scanned alike. -/
theorem scanFrom_add (position n : Nat) (cs : List Char) : scanFrom (position + n) cs =
    ⟨(scanFrom position cs).lexemes.map (Lexeme.moved n),
      (scanFrom position cs).ending.moved n⟩ := by
  fun_induction scanFrom position cs with
  | case1 => rw [scanFrom]; rfl
  | case2 position c cs hc ih => rw [scanFrom, if_pos hc, Nat.add_right_comm, ih]
  | case3 position c cs hc fault offset hread =>
    rw [scanFrom_fault _ (by simpa using hc) hread, Nat.add_right_comm]
    rfl
  | case4 position c cs hc token span rest hread ih =>
    rw [scanFrom_token _ (by simpa using hc) hread, Nat.add_right_comm, ih]
    rfl

theorem tokens_scanFrom_add (position n : Nat) (cs : List Char) :
    (scanFrom (position + n) cs).tokens = (scanFrom position cs).tokens := by
  rw [scanFrom_add, Scan.tokens, List.map_map]
  rfl

/-- **Blanks behind whole tokens leave all tokens as they are**, and move the ending. -/
theorem Cuts.scan_blanks {blanks : List Char} (h : Cuts before after ts)
    (hblanks : ∀ c ∈ blanks, isBlank c = true) :
    (scan (before ++ (blanks ++ after))).tokens = (scan (before ++ after)).tokens
      ∧ (scan (before ++ (blanks ++ after))).ending
        = (scan (before ++ after)).ending.moved blanks.length := by
  obtain ⟨lexemes, htokens, -, hscan⟩ := h.scanFrom_append 0
  obtain ⟨lexemes', htokens', -, hscan'⟩ :=
    (h.gentler (gentler_blanks hblanks after)).scanFrom_append 0
  rw [scanFrom_blanks _ _ _ hblanks] at hscan'
  rw [scan, scan, hscan, hscan']
  constructor
  · have hrest := tokens_scanFrom_add (0 + before.length) blanks.length after
    rw [Scan.tokens, Scan.tokens, List.map_append, List.map_append, htokens, htokens']
    exact congrArg (ts ++ ·) hrest
  · rw [scanFrom_add]

/-! ## Where a scan ends -/

/-- What the end of a scan is about. -/
def Ending.item : Ending → Item
  | finished _ => .ending
  | failed fault _ => .fault fault

/-- Where a scan ends. -/
def Ending.position : Ending → Nat
  | finished position | failed _ position => position

theorem Scan.shows_ending (scan : Scan) :
    Shows scan scan.tokens scan.ending.item scan.ending.position := by
  obtain ⟨lexemes, ending⟩ := scan
  cases ending with
  | finished => exact Shows.behind .finished lexemes
  | failed => exact Shows.behind .failed lexemes

/-- **Where a scan ends**, and up to where there are tokens: at the end of the text, or at a
character with which no token begins, or behind a separator that no digit follows, where the tokens
end before the number. -/
inductive Ends : List Char → Ending → Nat → Prop
  | finished (cs : List Char) : Ends cs (.finished cs.length) cs.length
  | stray {front : List Char} {c : Char} {rest : List Char} : isBlank c = false →
      (∀ tail, (scan (c :: tail)).lexemes = []) →
      Ends (front ++ c :: rest) (.failed (.strayCharacter c) front.length) front.length
  | missing {front whole : List Char} {separator : Char} {rest : List Char} : whole ≠ [] →
      (∀ c ∈ whole, c.isDigit = true) → isSeparator separator = true → Stops Char.isDigit rest →
      Ends (front ++ (whole ++ separator :: rest))
        (.failed (.missingDigits separator) (front ++ (whole ++ [separator])).length) front.length

/-- A text that is scanned to its end has tokens up to its end. -/
theorem Ends.of_finished {position limit : Nat} (h : Ends cs (.finished position) limit) :
    position = cs.length ∧ limit = cs.length := by
  cases h
  exact ⟨rfl, rfl⟩

/-- **A scan reads tokens up to where it ends.** -/
theorem exists_cuts_ends (cs : List Char) : ∃ front rest, cs = front ++ rest
    ∧ Cuts front rest (scan cs).tokens ∧ Ends cs (scan cs).ending front.length := by
  obtain ⟨front, rest, offset, hcs, hcuts, hheads, hplace⟩ := (scan cs).shows_ending.exists_heads
  refine ⟨front, rest, hcs, hcuts, ?_⟩
  rw [Nat.zero_add] at hplace
  cases hending : (scan cs).ending with
  | finished position =>
    rw [hending] at hheads hplace
    cases hheads
    obtain rfl : cs = front := hcs.trans (List.append_nil front)
    obtain rfl : position = cs.length := hplace
    exact .finished cs
  | failed fault position =>
    rw [hending] at hheads hplace
    obtain rfl : position = front.length + offset := hplace
    rw [hcs]
    cases hheads with
    | @stray c rest hblank hdigit halpha hsign =>
      refine .stray hblank fun tail => ?_
      have hread : readToken c tail = .fault (.strayCharacter c) 0 := by
        simp only [readToken, hdigit, halpha, hsign, Bool.false_eq_true, if_false]
      rw [scan, scanFrom_fault 0 hblank hread]
    | @missing whole separator rest hne hdigits hsep hstops =>
      have hlength : front.length + (whole.length + 1)
          = (front ++ (whole ++ [separator])).length := by
        simp only [List.length_append, List.length_singleton]
      rw [hlength]
      exact .missing hne hdigits hsep hstops

/-! ## The pieces of a text -/

/-- **A token at its place in a text.**  Its characters, with no more and no less of the text, are
that token. -/
structure Lexeme.Stands (lexeme : Lexeme) (cs span after : List Char) : Prop where
  place : ∃ before, cs = before ++ (span ++ after) ∧ lexeme.start = before.length
    ∧ lexeme.stop = before.length + span.length
  ne_nil : span ≠ []
  alone : IsOneToken span lexeme.token
  spelled : lexeme.token.IsSpelledBy span
  longest : ∀ more token, more ≠ [] → more <+: after → ¬IsOneToken (span ++ more) token

/-- **Tokens that make up a text, up to some place.** -/
structure Segments (cs : List Char) (lexemes : List Lexeme) (limit : Nat) : Prop where
  stands : ∀ lexeme ∈ lexemes, lexeme.stop ≤ limit ∧ ∃ span after, lexeme.Stands cs span after
  ordered : lexemes.Pairwise fun a b => a.stop ≤ b.start
  covers : ∀ i c, cs[i]? = some c → i < limit → (isBlank c = false ↔
    ∃! lexeme, lexeme ∈ lexemes ∧ lexeme.start ≤ i ∧ i < lexeme.stop)

theorem exists_stands (h : lexeme ∈ (scan cs).lexemes) :
    ∃ span after, Read lexeme.token span after ∧ lexeme.Stands cs span after := by
  obtain ⟨before, span, after, htext, hread, hstart, hstop⟩ := exists_read_of_mem h
  rw [Nat.zero_add] at hstart
  obtain ⟨c, tail, hspan, -⟩ := hread.exists_cons
  exact ⟨span, after, hread, ⟨before, htext, hstart, hstart ▸ hstop⟩,
    hspan ▸ List.cons_ne_nil c tail, isOneToken_iff.mpr hread.alone, hread.isSpelledBy,
    fun more token hmore hafter hone => hread.longest hmore hafter (isOneToken_iff.mp hone)⟩

/-- No character lies in two tokens. -/
theorem eq_of_overlap {lexemes : List Lexeme} {a b : Lexeme}
    (h : lexemes.Pairwise fun a b => a.stop ≤ b.start) (ha : a ∈ lexemes) (hb : b ∈ lexemes)
    (hai : a.start ≤ i ∧ i < a.stop) (hbi : b.start ≤ i ∧ i < b.stop) : a = b := by
  induction h with
  | nil => cases ha
  | cons hfirst _ ih =>
    rcases List.mem_cons.mp ha with rfl | htail <;> rcases List.mem_cons.mp hb with rfl | htail'
    · rfl
    · have := hfirst b htail'
      omega
    · have := hfirst a htail
      omega
    · exact ih htail htail'

theorem segments_scan {front : List Char} (hcs : cs = front ++ rest)
    (hcuts : Cuts front rest (scan cs).tokens) : Segments cs (scan cs).lexemes front.length := by
  have hordered : (scan cs).lexemes.Pairwise fun a b => a.stop ≤ b.start := pairwise_lexemes 0 cs
  refine ⟨fun lexeme hmem => ⟨?_, ?_⟩, hordered, fun i c hi hlt => ⟨fun hc => ?_, ?_⟩⟩
  · -- The rest has no tokens: all tokens of the text are those of its front.
    obtain ⟨lexemes, htokens, hstop, hscan⟩ := hcuts.scanFrom_append 0
    rw [← hcs] at hscan
    have hlexemes : (scan cs).lexemes = _ := congrArg Scan.lexemes hscan
    rw [Scan.tokens, hlexemes, List.map_append, List.self_eq_append_right, List.map_eq_nil_iff]
      at htokens
    rw [hlexemes, htokens, List.append_nil] at hmem
    have := hstop lexeme hmem
    rwa [Nat.zero_add] at this
  · obtain ⟨span, after, -, hstands⟩ := exists_stands hmem
    exact ⟨span, after, hstands⟩
  · rw [hcs, List.getElem?_append_left hlt] at hi
    obtain ⟨lexeme, hmem, hle, hlt⟩ := hcuts.exists_mem hi hc 0
    rw [← hcs] at hmem
    rw [Nat.zero_add] at hle hlt
    exact ⟨lexeme, ⟨hmem, hle, hlt⟩, fun other ⟨hother, hi⟩ =>
      eq_of_overlap hordered hother hmem hi ⟨hle, hlt⟩⟩
  · rintro ⟨lexeme, ⟨hmem, hle, hlt⟩, -⟩
    obtain ⟨span, after, hread, ⟨before, rfl, hstart, hstop⟩, -⟩ := exists_stands hmem
    refine hread.not_isBlank c ?_
    rw [List.getElem?_append_right (by omega), List.getElem?_append_left (by omega)] at hi
    exact List.mem_of_getElem? hi

/-- **A scan cuts a text into the longest tokens, and loses nothing.**  Up to where it ends, the
characters that are not blank are those of its tokens, in their order; and blanks that are put
between two tokens change no token. -/
theorem scan_segments (cs : List Char) :
    ∃ limit, Ends cs (scan cs).ending limit ∧ Segments cs (scan cs).lexemes limit
      ∧ ∀ before after blanks, cs = before ++ after → before.length ≤ limit →
          (∀ lexeme ∈ (scan cs).lexemes,
            before.length ≤ lexeme.start ∨ lexeme.stop ≤ before.length) →
          (∀ c ∈ blanks, isBlank c = true) →
            (scan (before ++ (blanks ++ after))).tokens = (scan cs).tokens
              ∧ (scan (before ++ (blanks ++ after))).ending
                = (scan cs).ending.moved blanks.length := by
  obtain ⟨front, rest, hcs, hcuts, hends⟩ := exists_cuts_ends cs
  refine ⟨front.length, hends, segments_scan hcs hcuts, ?_⟩
  intro before after blanks htext hle hplace hblanks
  obtain ⟨middle, hfront, hafter⟩ := exists_eq_append_of_length_le (htext.symm.trans hcs) hle
  have hcut : ∀ lexeme ∈ (scanFrom 0 (front ++ rest)).lexemes,
      0 + before.length ≤ lexeme.start ∨ lexeme.stop ≤ 0 + before.length := by
    rw [← hcs, Nat.zero_add]
    exact hplace
  obtain ⟨us, vs, hus, -⟩ := hcuts.exists_cut hfront hcut
  rw [← hafter] at hus
  rw [htext]
  exact hus.scan_blanks hblanks

/-- A sum is spread out before its sign. -/
theorem scan_segments_sum :
    let cs := "1,5+aB2".toList
    Segments cs (scan cs).lexemes 7
      ∧ (scan ("1,5".toList ++ ("\t ".toList ++ "+aB2".toList))).tokens
        = [.number "1,5", .plus, .reference "AB2"]
      ∧ (scan ("1,5".toList ++ ("\t ".toList ++ "+aB2".toList))).ending = .finished 9 := by
  intro cs
  have hscan : scan cs = ⟨[⟨.number "1,5", 0, 3⟩, ⟨.plus, 3, 4⟩, ⟨.reference "AB2", 4, 7⟩],
      .finished 7⟩ := by decide +kernel
  obtain ⟨limit, hends, hsegments, hspread⟩ := scan_segments cs
  have hspread := hspread "1,5".toList "+aB2".toList "\t ".toList rfl
  rw [hscan] at hends hspread
  obtain rfl : limit = 7 := hends.of_finished.2
  have hblanks : "\t ".toList.all isBlank = true := by decide
  exact ⟨hsegments, hspread (by decide) (by decide) (List.all_eq_true.mp hblanks)⟩

end Spreadsheet
