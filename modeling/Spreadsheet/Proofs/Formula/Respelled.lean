import Mathlib.Logic.Relation
import Spreadsheet.Proofs.Formula.Cuts
import Spreadsheet.Proofs.Formula.Texts

/-!
# Proofs/Formula/Respelled — formulas that are spelled differently

A formula may be marked once more, spread out with blanks, refer to cells in either case and have
either separator in its numbers.  Each such change leaves the tokens as they are, but for a marker
in front and the separators (`Respelled.cuts`), and the grammar looks at neither
(`Derives.respelled`).  So what is read is the same tree, up to markers and separators
(`exists_parseFormula_respelled`).
-/

namespace Spreadsheet

open Text

/-! ## Markers and separators aside -/

/-- A number with a point for its separator. -/
def plainNumber (text : String) : String :=
  String.ofList (text.toList.map fun c => if c = ',' then '.' else c)

/-- A token with a point for its separator. -/
def Token.plain : Token → Token
  | number text => number (plainNumber text)
  | token => token

/-- A formula without markers and with points for its separators. -/
def Expr.plain : Expr → Expr
  | number text => number (plainNumber text)
  | reference name => reference name
  | unary sign operand => unary sign operand.plain
  | binary op left right => binary op left.plain right.plain
  | call f argument => call f argument.plain
  | formula inner => inner.plain

theorem Token.plain_of_ne_number {token : Token} (h : ∀ text, token ≠ .number text) :
    token.plain = token := by
  match token, h with
  | .number text, h => exact absurd rfl (h text)
  | .reference _, _ | .identifier _, _ | .function _, _ | .plus, _ | .minus, _ | .times, _
  | .divide, _ | .power, _ | .less, _ | .greater, _ | .equal, _ | .leftParen, _
  | .rightParen, _ => rfl

/-- Only the separators of numbers are made plain. -/
theorem Token.eq_of_plain_eq {token token' : Token} (h : token'.plain = token.plain)
    (hne : ∀ text, token ≠ .number text) : token' = token := by
  rw [plain_of_ne_number hne] at h
  by_cases hnumber : ∃ text, token' = .number text
  · obtain ⟨text, rfl⟩ := hnumber
    exact absurd h.symm (hne _)
  · rwa [plain_of_ne_number fun text heq => hnumber ⟨text, heq⟩] at h

theorem Token.ne_number_of_operator {token : Token} {op : BinaryOp}
    (h : BinaryOp.ofToken? token = some op) (text : String) : token ≠ .number text := by
  rintro rfl
  cases h

section

variable {ts us : List Token} {token : Token}

/-- Tokens that are plainly the same begin with the same token. -/
theorem exists_cons_of_map_plain (h : us.map Token.plain = (token :: ts).map Token.plain)
    (hne : ∀ text, token ≠ .number text) :
    ∃ us', us = token :: us' ∧ us'.map Token.plain = ts.map Token.plain := by
  obtain ⟨token', us', rfl, htoken, hus⟩ := List.map_eq_cons_iff.mp h
  exact ⟨us', by rw [Token.eq_of_plain_eq htoken hne], hus⟩

theorem eq_singleton_of_map_plain (h : us.map Token.plain = [token].map Token.plain)
    (hne : ∀ text, token ≠ .number text) : us = [token] := by
  obtain ⟨us', rfl, hus⟩ := exists_cons_of_map_plain h hne
  rw [List.map_eq_nil_iff.mp hus]

end

/-- **The grammar does not look at the separators of numbers.** -/
theorem Derives.respelled {category : Category} {ts : List Token} {e : Expr}
    (h : Derives category ts e) : ∀ {us : List Token},
      us.map Token.plain = ts.map Token.plain →
        ∃ e', Derives category us e' ∧ e'.plain = e.plain := by
  have happend : ∀ {ts ts' us : List Token},
      us.map Token.plain = (ts ++ ts').map Token.plain →
        ∃ vs vs', us = vs ++ vs' ∧ vs.map Token.plain = ts.map Token.plain
          ∧ vs'.map Token.plain = ts'.map Token.plain := fun h =>
    List.map_eq_append_iff.mp (h.trans List.map_append)
  induction h with
  | marked _ ih =>
    intro us hus
    obtain ⟨vs, rfl, hvs⟩ := exists_cons_of_map_plain hus nofun
    obtain ⟨e', he', hplain⟩ := ih hvs
    exact ⟨_, .marked he', hplain⟩
  | unmarked _ ih =>
    intro us hus
    obtain ⟨e', he', hplain⟩ := ih hus
    exact ⟨e', .unmarked he', hplain⟩
  | operand _ ih =>
    intro us hus
    obtain ⟨e', he', hplain⟩ := ih hus
    exact ⟨e', .operand he', hplain⟩
  | operation _ hop _ ihleft ihright =>
    intro us hus
    obtain ⟨vs, ws, rfl, hvs, hws⟩ := happend hus
    obtain ⟨ws, rfl, hws'⟩ := exists_cons_of_map_plain hws
      (Token.ne_number_of_operator (Tier.operator_spec hop).1)
    obtain ⟨left, hleft, hplain⟩ := ihleft hvs
    obtain ⟨right, hright, hplain'⟩ := ihright hws'
    exact ⟨_, .operation hleft hop hright, by rw [Expr.plain, hplain, hplain', Expr.plain]⟩
  | base _ ih =>
    intro us hus
    obtain ⟨e', he', hplain⟩ := ih hus
    exact ⟨e', .base he', hplain⟩
  | power _ _ ihleft ihright =>
    intro us hus
    obtain ⟨vs, ws, rfl, hvs, hws⟩ := happend hus
    obtain ⟨ws, rfl, hws'⟩ := exists_cons_of_map_plain hws nofun
    obtain ⟨left, hleft, hplain⟩ := ihleft hvs
    obtain ⟨right, hright, hplain'⟩ := ihright hws'
    exact ⟨_, .power hleft hright, by rw [Expr.plain, hplain, hplain', Expr.plain]⟩
  | sign s _ ih =>
    intro us hus
    obtain ⟨vs, rfl, hvs⟩ := exists_cons_of_map_plain hus (by cases s <;> exact nofun)
    obtain ⟨e', he', hplain⟩ := ih hvs
    exact ⟨_, .sign s he', by rw [Expr.plain, hplain, Expr.plain]⟩
  | unsigned _ ih =>
    intro us hus
    obtain ⟨e', he', hplain⟩ := ih hus
    exact ⟨e', .unsigned he', hplain⟩
  | number text =>
    intro us hus
    obtain ⟨token, vs, rfl, htoken, hvs⟩ := List.map_eq_cons_iff.mp hus
    obtain rfl := List.map_eq_nil_iff.mp hvs
    by_cases hnumber : ∃ text', token = .number text'
    · obtain ⟨text', rfl⟩ := hnumber
      exact ⟨_, .number text', congrArg Expr.number (Token.number.inj htoken)⟩
    · rw [Token.plain_of_ne_number fun text' heq => hnumber ⟨text', heq⟩] at htoken
      exact absurd ⟨_, htoken⟩ hnumber
  | reference name =>
    intro us hus
    obtain rfl := eq_singleton_of_map_plain hus nofun
    exact ⟨_, .reference name, rfl⟩
  | call f _ ih =>
    intro us hus
    obtain ⟨vs, rfl, hvs⟩ := exists_cons_of_map_plain hus nofun
    obtain ⟨ws, rfl, hws⟩ := exists_cons_of_map_plain hvs nofun
    obtain ⟨inner, close, rfl, hinner, hclose⟩ := happend hws
    obtain rfl := eq_singleton_of_map_plain hclose nofun
    obtain ⟨e', he', hplain⟩ := ih hinner
    exact ⟨_, .call f he', by rw [Expr.plain, hplain, Expr.plain]⟩
  | group _ ih =>
    intro us hus
    obtain ⟨vs, rfl, hvs⟩ := exists_cons_of_map_plain hus nofun
    obtain ⟨inner, close, rfl, hinner, hclose⟩ := happend hvs
    obtain rfl := eq_singleton_of_map_plain hclose nofun
    obtain ⟨e', he', hplain⟩ := ih hinner
    exact ⟨e', .group he', hplain⟩

/-! ## One change of spelling -/

/-- **A change of spelling**: a marker in front, blanks at a place that lies in no token, another
case for the letters of a reference, or another separator for a number. -/
inductive Respelled : List Char → List Char → Prop
  | mark (cs : List Char) : Respelled cs ('=' :: cs)
  | space {before after blanks : List Char} : (∀ c ∈ blanks, isBlank c = true) →
      (∀ lexeme ∈ (scan (before ++ after)).lexemes,
        before.length ≤ lexeme.start ∨ lexeme.stop ≤ before.length) →
      Respelled (before ++ after) (before ++ (blanks ++ after))
  | recase {before span span' after : List Char} {name : String} :
      ⟨.reference name, before.length, before.length + span.length⟩
        ∈ (scan (before ++ (span ++ after))).lexemes →
      span'.map Char.toUpper = span.map Char.toUpper →
      Respelled (before ++ (span ++ after)) (before ++ (span' ++ after))
  | separator {before whole fraction after : List Char} {c c' : Char} {text : String} :
      ⟨.number text, before.length, before.length + (whole ++ c :: fraction).length⟩
        ∈ (scan (before ++ (whole ++ c :: fraction ++ after))).lexemes →
      isSeparator c = true → isSeparator c' = true →
      Respelled (before ++ (whole ++ c :: fraction ++ after))
        (before ++ (whole ++ c' :: fraction ++ after))

/-- Letters in either case are letters, and all else has one case. -/
theorem eq_or_isAlpha_of_toUpper {c c' : Char} (h : c'.toUpper = c.toUpper) :
    c' = c ∨ c.isAlpha = true ∧ c'.isAlpha = true := by
  have halpha : c'.isAlpha = c.isAlpha := by rw [← isAlpha_toUpper, h, isAlpha_toUpper]
  match hc : c.isAlpha with
  | true => exact .inr ⟨rfl, halpha.trans hc⟩
  | false =>
    rw [toUpper_of_not_isAlpha hc, toUpper_of_not_isAlpha (halpha.trans hc)] at h
    exact .inl h

/-- No class of characters that a token looks for tells capitals from small letters. -/
theorem class_of_toUpper {p : Char → Bool} (hp : p ∈ [Char.isDigit, isWordChar, isSeparator])
    {c c' : Char} (h : c'.toUpper = c.toUpper) : p c' = p c := by
  rcases eq_or_isAlpha_of_toUpper h with rfl | ⟨hc, hc'⟩
  · rfl
  · simp only [List.mem_cons, List.not_mem_nil, or_false] at hp
    rcases hp with rfl | rfl | rfl
    · rw [not_isDigit_of_isAlpha hc, not_isDigit_of_isAlpha hc']
    · rw [isWordChar_of_isAlpha hc, isWordChar_of_isAlpha hc']
    · rw [not_isSeparator_of_isAlpha hc, not_isSeparator_of_isAlpha hc']

section

variable {cs cs' word word' span span' rest after : List Char} {name : String}

theorem isReferenceWord_map_toUpper (word : List Char) :
    isReferenceWord (word.map Char.toUpper) = isReferenceWord word := by
  have halpha : Char.isAlpha ∘ Char.toUpper = Char.isAlpha := funext isAlpha_toUpper
  have hdigit : Char.isDigit ∘ Char.toUpper = Char.isDigit := funext isDigit_toUpper
  rw [isReferenceWord, isReferenceWord, List.takeWhile_map, List.dropWhile_map, halpha]
  simp only [bne, List.all_map, hdigit]
  congr 3 <;> simp

/-- A reference in another case is the same token. -/
theorem wordToken_recase (h : wordToken word = .reference name)
    (hcase : word'.map Char.toUpper = word.map Char.toUpper) :
    wordToken word' = .reference name := by
  obtain ⟨hword, hname⟩ := wordToken_eq_reference_iff.mp h
  refine wordToken_eq_reference_iff.mpr ⟨?_, by rw [hname, hcase]⟩
  rw [← isReferenceWord_map_toUpper, hcase, isReferenceWord_map_toUpper, hword]

/-- **A reference is read in either case.** -/
theorem Read.recase (h : Read (.reference name) span rest)
    (hcase : span'.map Char.toUpper = span.map Char.toUpper) :
    Read (.reference name) span' rest := by
  obtain ⟨c, cs, rfl, hc, hcs, hstops, hword⟩ := h.word_of_reference
  obtain ⟨c', cs', rfl, hc', hcs'⟩ := List.map_eq_cons_iff.mp hcase
  have halpha : c'.isAlpha = true := by rw [← isAlpha_toUpper, hc', isAlpha_toUpper, hc]
  have hchars : ∀ d ∈ cs', isWordChar d = true := by
    intro d hd
    have hmem : d.toUpper ∈ cs.map Char.toUpper := hcs' ▸ List.mem_map_of_mem hd
    obtain ⟨x, hx, hupper⟩ := List.mem_map.mp hmem
    have hclass : isWordChar d = isWordChar x := class_of_toUpper (by simp) hupper.symm
    rw [hclass, hcs x hx]
  rw [← wordToken_recase hword hcase]
  exact .word halpha hchars hstops

/-- Letters continue a token in either case or in none. -/
theorem gentler_recase (hcase : span'.map Char.toUpper = span.map Char.toUpper)
    (after : List Char) : Gentler (span ++ after) (span' ++ after) := by
  match span, hcase with
  | [], hcase =>
    obtain rfl := List.map_eq_nil_iff.mp hcase
    exact .refl after
  | c :: span, hcase =>
    obtain ⟨c', span', rfl, hc, -⟩ := List.map_eq_cons_iff.mp hcase
    intro p hp hstops
    exact stops_cons.mpr ((class_of_toUpper hp hc).trans (stops_cons.mp hstops))

/-- Digits around one separator are parted in one way. -/
theorem parts_of_number {whole fraction whole' fraction' : List Char} {c c' : Char}
    (h : whole' ++ c' :: fraction' = whole ++ c :: fraction) (hc : c.isDigit = false)
    (hwhole : ∀ d ∈ whole', d.isDigit = true) (hfraction : ∀ d ∈ fraction', d.isDigit = true) :
    whole' = whole ∧ fraction' = fraction := by
  have hne : ∀ d : Char, d.isDigit = true → d ≠ c := by
    rintro d hd rfl
    rw [hc] at hd
    cases hd
  rcases List.append_eq_append_iff.mp h with ⟨m, hm, hm'⟩ | ⟨m, hm, hm'⟩
  · rcases m with _ | ⟨d, m⟩
    · exact ⟨by simpa using hm.symm, (List.cons.inj hm').2⟩
    · obtain ⟨-, hm'⟩ := List.cons.inj hm'
      exact absurd rfl (hne c (hfraction c (by simp [hm'])))
  · rcases m with _ | ⟨d, m⟩
    · exact ⟨by simpa using hm, (List.cons.inj hm').2.symm⟩
    · obtain ⟨rfl, -⟩ := List.cons.inj hm'
      exact absurd rfl (hne c (hwhole c (by simp [hm])))

/-- **A number is read with either separator.** -/
theorem Read.separator {whole fraction : List Char} {c c' : Char} {text : String}
    (h : Read (.number text) (whole ++ c :: fraction) rest) (hc : isSeparator c = true)
    (hc' : isSeparator c' = true) :
    text = String.ofList (whole ++ c :: fraction) ∧ whole ≠ []
      ∧ Read (.number (String.ofList (whole ++ c' :: fraction))) (whole ++ c' :: fraction)
          rest := by
  have hdigit := isDigit_of_isSeparator hc
  generalize htoken : Token.number text = token at h
  generalize hspan : whole ++ c :: fraction = span at h
  match h with
  | .whole _ hdigits _ _ =>
    have := hdigits c (hspan ▸ by simp)
    rw [hdigit] at this
    cases this
  | .decimal hne hdigits _ hne' hdigits' hstops =>
    obtain ⟨rfl, rfl⟩ := parts_of_number hspan.symm hdigit hdigits hdigits'
    exact ⟨Token.number.inj htoken, hne, .decimal hne hdigits hc' hne' hdigits' hstops⟩
  | .word .. => exact absurd htoken.symm (wordToken_ne_number _ _)
  | .sign hsign => exact absurd htoken.symm ((ofSign?_spec hsign).2.2.2.1 text)

end

/-- Numbers that differ in the separator are plainly the same. -/
theorem plainNumber_separator {whole fraction : List Char} {c c' : Char}
    (hc : isSeparator c = true) (hc' : isSeparator c' = true) :
    plainNumber (String.ofList (whole ++ c' :: fraction))
      = plainNumber (String.ofList (whole ++ c :: fraction)) := by
  have hpoint : ∀ {c : Char}, isSeparator c = true → (if c = ',' then '.' else c) = '.' := by
    intro c hc
    simp only [isSeparator, Bool.or_eq_true, decide_eq_true_eq] at hc
    rcases hc with rfl | rfl <;> rfl
  simp only [plainNumber, String.toList_ofList, List.map_append, List.map_cons, hpoint hc,
    hpoint hc']

/-! ## What is read -/

/-- **A change of spelling leaves the tokens as they are, but for a marker in front and the
separators of numbers.** -/
theorem Respelled.cuts {cs cs' : List Char} {ts : List Token} (h : Respelled cs cs')
    (hcuts : Cuts cs [] ts) : ∃ us, Cuts cs' [] us
      ∧ (us = .equal :: ts ∨ us.map Token.plain = ts.map Token.plain) := by
  obtain ⟨⟨stop, hending⟩, -⟩ := cuts_iff.mp hcuts
  match h with
  | .mark cs =>
    have hread : Read .equal ['='] cs := .sign rfl
    exact ⟨_, hread.whole_cuts hcuts, .inl rfl⟩
  | @Respelled.space _ after _ hblanks hplace =>
    obtain ⟨vs, us, hvs, hus⟩ := cuts_of_boundary hending (by rw [Nat.zero_add]; exact hplace)
    obtain rfl := hcuts.unique (hvs.whole hus)
    have hvs' := hvs.gentler (gentler_blanks hblanks after)
    exact ⟨vs ++ us, hvs'.whole ((cuts_blanks hblanks after).whole hus), .inr rfl⟩
  | @Respelled.recase _ _ _ after _ hmem hcase =>
    obtain ⟨vs, us, hvs, hread, hus⟩ := cuts_of_lexeme hending (by rwa [Nat.zero_add])
    obtain rfl := hcuts.unique (hvs.whole (hread.whole_cuts hus))
    have hvs' := hvs.gentler (gentler_recase hcase after)
    exact ⟨_, hvs'.whole ((hread.recase hcase).whole_cuts hus), .inr rfl⟩
  | @Respelled.separator _ whole fraction after c c' _ hmem hc hc' =>
    obtain ⟨vs, us, hvs, hread, hus⟩ := cuts_of_lexeme hending (by rwa [Nat.zero_add])
    obtain rfl := hcuts.unique (hvs.whole (hread.whole_cuts hus))
    obtain ⟨rfl, hne, hread'⟩ := hread.separator hc hc'
    have hgentler :
        Gentler (whole ++ c :: fraction ++ after) (whole ++ c' :: fraction ++ after) := by
      obtain ⟨d, whole, rfl⟩ := List.exists_cons_of_ne_nil hne
      exact fun p _ hstops => stops_cons.mpr (stops_cons.mp hstops)
    refine ⟨_, (hvs.gentler hgentler).whole (hread'.whole_cuts hus), .inr ?_⟩
    simp only [List.map_append, List.map_cons, Token.plain, plainNumber_separator hc hc']

/-- **A respelled formula is a formula, with the same tree but for markers and separators.** -/
theorem exists_parseFormula_respelled {text text' : String} {e : Expr}
    (hparse : parseFormula text = .ok e)
    (h : Relation.ReflTransGen Respelled text.toList text'.toList) :
    ∃ e', parseFormula text' = .ok e' ∧ e'.plain = e.plain := by
  have hsteps : ∀ {cs : List Char}, Relation.ReflTransGen Respelled text.toList cs →
      ∃ ts e', Cuts cs [] ts ∧ Derives .formula ts e' ∧ e'.plain = e.plain := by
    intro cs h
    induction h with
    | refl =>
      obtain ⟨ts, hcuts, he⟩ := parseFormula_eq_ok_iff_cuts.mp hparse
      exact ⟨ts, e, hcuts, he, rfl⟩
    | tail _ hstep ih =>
      obtain ⟨ts, e', hcuts, he', hplain⟩ := ih
      obtain ⟨us, hcuts', rfl | hus⟩ := hstep.cuts hcuts
      · exact ⟨_, .formula e', hcuts', .marked he', hplain⟩
      · obtain ⟨e'', he'', hplain'⟩ := he'.respelled hus
        exact ⟨us, e'', hcuts', he'', hplain'.trans hplain⟩
  obtain ⟨ts, e', hcuts, he', hplain⟩ := hsteps h
  exact ⟨e', parseFormula_eq_ok_iff_cuts.mpr ⟨ts, hcuts, he'⟩, hplain⟩

end Spreadsheet
