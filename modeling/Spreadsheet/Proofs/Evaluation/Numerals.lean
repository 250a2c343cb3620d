import Spreadsheet.Proofs.Evaluation.Agreement
import Spreadsheet.Proofs.Formula.Texts

/-!
# Proofs/Evaluation/Numerals — a number is the same as a formula and on its own

There are two readers of numbers: a formula takes digits with a sign before them, and a text that is
no formula may also have a power of ten, and a point with digits on one side only.  What both accept
is a sign and a number token, and they read it as the same number (`evaluate_of_denotes`).  All
other number texts are no formulas: the scanner stops at their point, or reads their power of ten as
a word.
-/

namespace Spreadsheet

open Text

variable {cs before after : List Char} {text : String} {d : Decimal} {e : Expr}

/-! ## Texts that are plainly numbers -/

theorem isNumericText_of_denotes (h : Denotes cs d) : isNumericText cs = true := by
  cases h with
  | @parts sign mantissa power whole fraction exponent hs hne hdigits hmantissa hpower =>
    have hm : IsMantissa mantissa := ⟨whole, fraction, hne, hdigits, hmantissa⟩
    have hpowertext := isPowerText_iff.mpr ⟨exponent, hpower⟩
    obtain ⟨hwhole, hfraction⟩ := List.forall_mem_append.mp hdigits
    -- What is behind the mantissa is no digit and no point.
    have hstops : Stops Char.isDigit power ∧ ∀ rest, power ≠ '.' :: rest := by
      cases hpower with
      | absent => exact ⟨stops_nil, nofun⟩
      | marked hmark =>
        refine ⟨stops_cons.mpr (not_isDigit_of_isAlpha (isAlpha_of_mark hmark)), ?_⟩
        rintro rest ⟨⟩
        simp at hmark
    rw [isNumericText, splitSign_mantissa hs hm]
    dsimp only
    obtain ⟨rfl, rfl⟩ | rfl := hmantissa
    · obtain ⟨htake, hdrop⟩ := span_of_stops hwhole hstops.1
      rw [htake, hdrop]
      split
      · exact absurd rfl (hstops.2 _)
      · rw [hpowertext]
        simpa using hne
    · obtain ⟨htake, hdrop⟩ := span_of_stops hwhole
        (stops_cons.mpr isDigit_point : Stops Char.isDigit ('.' :: (fraction ++ power)))
      obtain ⟨htake', hdrop'⟩ := span_of_stops hfraction hstops.1
      have hsome : whole ≠ [] ∨ fraction ≠ [] := by
        rw [← not_and_or, ← List.append_eq_nil_iff]
        exact hne
      rw [List.append_assoc, List.cons_append, htake, hdrop]
      simp only [htake', hdrop', hpowertext]
      simpa using hsome

/-- **A text is plainly a number exactly when it denotes one.** -/
theorem isNumericText_iff : isNumericText cs = true ↔ ∃ d, Denotes cs d :=
  ⟨denotes_of_isNumericText, fun ⟨_, h⟩ => isNumericText_of_denotes h⟩

/-- No blank is part of a number. -/
theorem Denotes.not_isBlank (h : Denotes cs d) : ∀ c ∈ cs, isBlank c = false := by
  have hsign : ∀ {sign : List Char}, IsSignText sign → ∀ c ∈ sign, isBlank c = false := by
    rintro sign (rfl | rfl | rfl)
    · exact List.forall_mem_nil _
    · exact List.forall_mem_singleton.mpr (by decide)
    · exact List.forall_mem_singleton.mpr (by decide)
  cases h with
  | @parts sign mantissa power whole fraction exponent hs hne hdigits hmantissa hpower =>
    have hm : IsMantissa mantissa := ⟨whole, fraction, hne, hdigits, hmantissa⟩
    refine List.forall_mem_append.mpr ⟨List.forall_mem_append.mpr ⟨hsign hs, fun c hc => ?_⟩, ?_⟩
    · rcases hm.isDigit_or_eq_point c hc with hd | rfl
      · exact not_isBlank_of_isDigit hd
      · decide
    · cases hpower with
      | absent => exact List.forall_mem_nil _
      | marked hmark hs' _ hdigits' =>
        refine List.forall_mem_cons.mpr ⟨not_isBlank_of_isAlpha (isAlpha_of_mark hmark), ?_⟩
        exact List.forall_mem_append.mpr
          ⟨hsign hs', fun c hc => not_isBlank_of_isDigit (hdigits' c hc)⟩

/-- **A number between blanks has its value where it is no formula.** -/
theorem Denotes.scalarValue? (h : Denotes cs d) (hbefore : ∀ c ∈ before, isBlank c = true)
    (hafter : ∀ c ∈ after, isBlank c = true) (htext : text.toList = before ++ (cs ++ after)) :
    Spreadsheet.scalarValue? text = some d.toFloat := by
  have hne : cs ≠ [] := by
    rintro rfl
    cases isNumericText_of_denotes h
  have htrim := trim_enclosed hbefore hafter h.not_isBlank hne
  have hnotempty : text ≠ "" := by
    rintro rfl
    obtain ⟨-, hrest⟩ := List.append_eq_nil_iff.mp (htext.symm.trans String.toList_empty)
    exact hne (List.append_eq_nil_iff.mp hrest).1
  rw [Spreadsheet.scalarValue?, if_neg hnotempty, htext]
  dsimp only
  rw [htrim, if_pos (isNumericText_of_denotes h), h.read?]
  rfl

/-! ## Numbers as formulas -/

/-- A mantissa in a formula has the value that it denotes. -/
theorem literalValue_mantissa {mantissa whole fraction : List Char} (hne : whole ++ fraction ≠ [])
    (hdigits : ∀ c ∈ whole ++ fraction, c.isDigit = true)
    (hmantissa : mantissa = whole ∧ fraction = [] ∨ mantissa = whole ++ '.' :: fraction) :
    literalValue (String.ofList mantissa)
      = .ok (Decimal.toFloat ⟨false, natOfDigits (whole ++ fraction), -fraction.length⟩) := by
  have hm : IsMantissa mantissa := ⟨whole, fraction, hne, hdigits, hmantissa⟩
  have hcomma : ∀ c ∈ mantissa, c ≠ ',' := by
    rintro c hc rfl
    rcases hm.isDigit_or_eq_point _ hc with h | h <;> cases h
  refine literalValue_of_denotes ?_
  rw [String.toList_ofList, List.map_congr_left fun c hc => if_neg (hcomma c hc), List.map_id']
  exact denotes_mantissa hne hdigits hmantissa

/-- **What is a number and a formula evaluates to that number**, and refers to no cell. -/
theorem evaluate_of_denotes (h : Denotes cs d) (hbefore : ∀ c ∈ before, isBlank c = true)
    (hafter : ∀ c ∈ after, isBlank c = true) (htext : text.toList = before ++ (cs ++ after))
    (he : parseFormula text = .ok e) :
    e.references = [] ∧ ∀ (resolve : String → Pass → PassResult Float) (p : Pass),
      e.evaluate resolve p = (.ok (.number d.toFloat), p) := by
  have hparse := parseFormula_ok he
  rw [htext] at hparse
  cases h with
  | @parts sign mantissa power whole fraction exponent hs hne hdigits hmantissa hpower =>
    have hm : IsMantissa mantissa := ⟨whole, fraction, hne, hdigits, hmantissa⟩
    cases hpower with
    | marked hmark =>
      simp only [List.append_assoc, List.cons_append] at hparse
      exact absurd hparse (parse_number_word hbefore hs hm (isAlpha_of_mark hmark) _ e)
    | absent =>
      simp only [List.append_assoc, List.nil_append] at hparse htext
      have hstops : ∀ p ∈ [Char.isDigit, isWordChar, isSeparator], Stops p after := fun p hp => by
        rw [← List.append_nil after]
        exact gentler_blanks hafter [] p hp stops_nil
      have hnumber : Cuts (mantissa ++ after) [] [.number (String.ofList mantissa)] :=
        (read_mantissa_of_parse hbefore hs hm (hstops _ (by simp)) (hstops _ (by simp))
          hparse).whole_cuts (cuts_blanks hafter [])
      have hvalue := literalValue_mantissa hne hdigits hmantissa
      obtain ⟨ts, hcuts, hderives⟩ := parseFormula_eq_ok_iff_cuts.mp he
      rw [htext] at hcuts
      have hunary : ∀ {us e'}, Cuts (sign ++ (mantissa ++ after)) [] us → Derives .unary us e' →
          e = e' := fun hus he' => by
        obtain rfl := hcuts.unique ((cuts_blanks hbefore _).whole hus)
        exact hderives.unique (.unmarked he'.comparison)
      rw [Int.zero_sub]
      obtain rfl | rfl | rfl := hs
      · obtain rfl := hunary hnumber (.unsigned (.number _))
        refine ⟨rfl, fun resolve p => ?_⟩
        rw [Expr.evaluate, hvalue]
        rfl
      · have hplus : Read .plus ['+'] (mantissa ++ after) := .sign rfl
        obtain rfl := hunary (hplus.whole_cuts hnumber) (.sign .plus (.unsigned (.number _)))
        refine ⟨rfl, fun resolve p => ?_⟩
        rw [Expr.evaluate, Expr.evaluate, hvalue]
        rfl
      · have hminus : Read .minus ['-'] (mantissa ++ after) := .sign rfl
        obtain rfl := hunary (hminus.whole_cuts hnumber) (.sign .minus (.unsigned (.number _)))
        refine ⟨rfl, fun resolve p => ?_⟩
        rw [Expr.evaluate, Expr.evaluate, hvalue]
        rfl

/-- A cell whose formula has a value whatever its references read has that value. -/
theorem Sheet.evaluate_of_text? {s : Sheet} {id : CellId} {x : Evaluated}
    (htext : s.text? id = some text) (he : parseFormula text = .ok e)
    (hx : ∀ (resolve : String → Pass → PassResult Float) p, e.evaluate resolve p = (.ok x, p)) :
    (s.evaluate id).1 = .ok x := by
  obtain ⟨c, hc, rfl⟩ := Option.map_eq_some_iff.mp htext
  simp only [evaluate, runPass, runPassWithin, evaluateText, hc, he, hx]

/-- **The two readers of numbers agree.**  A text is plainly a number exactly when it is a sign, a
mantissa and a power of ten.  Then it can be read, so a cell that holds it between blanks has its
value for others; and if the text of the cell is also a formula, that refers to no cell and has the
same value. -/
theorem isNumericText_exact :
    (∀ cs, isNumericText cs = true ↔ ∃ d, Denotes cs d)
      ∧ ∀ cs d, Denotes cs d → Decimal.read? cs = some d
        ∧ ∀ (text : String) before after, text.toList = before ++ (cs ++ after) →
            (∀ c ∈ before ++ after, isBlank c = true) →
              scalarValue? text = some d.toFloat
                ∧ ∀ e, parseFormula text = .ok e → e.references = []
                  ∧ ∀ (s : Sheet) id, s.text? id = some text →
                    (s.evaluate id).1 = .ok (.number d.toFloat) := by
  refine ⟨fun cs => isNumericText_iff, fun cs d hd => ⟨hd.read?, ?_⟩⟩
  intro text before after htext hblanks
  obtain ⟨hbefore, hafter⟩ := List.forall_mem_append.mp hblanks
  refine ⟨hd.scalarValue? hbefore hafter htext, fun e he => ?_⟩
  obtain ⟨hreferences, hevaluate⟩ := evaluate_of_denotes hd hbefore hafter htext he
  exact ⟨hreferences, fun s id hid => Sheet.evaluate_of_text? hid he hevaluate⟩

/-- A number with a sign, behind a blank, has the same value as a formula and on its own. -/
theorem isNumericText_exact_signed :
    let s := (Sheet.blank 1 1).modifyCell ⟨0⟩ fun c => { c with text := " -2.5" }
    let x := Decimal.toFloat ⟨true, 25, -1⟩
    scalarValue? " -2.5" = some x ∧ (s.evaluate ⟨0⟩).1 = .ok (.number x) := by
  intro s x
  obtain ⟨d, hd⟩ := (isNumericText_exact.1 "-2.5".toList).mp (by decide)
  obtain ⟨hread, hvalues⟩ := isNumericText_exact.2 _ d hd
  have hread' : Decimal.read? "-2.5".toList = some ⟨true, 25, -1⟩ := by decide
  obtain rfl := Option.some.inj (hread.symm.trans hread')
  have hblanks : ([' '] ++ []).all isBlank = true := by decide
  obtain ⟨hscalar, hformula⟩ := hvalues " -2.5" [' '] [] rfl (List.all_eq_true.mp hblanks)
  have he : parseFormula " -2.5" = .ok (.unary .minus (.number "2.5")) := by decide +kernel
  have htext : s.text? ⟨0⟩ = some " -2.5" := by decide +kernel
  exact ⟨hscalar, (hformula _ he).2 s ⟨0⟩ htext⟩

end Spreadsheet
