import Spreadsheet.Evaluation.Value
import Mathlib.Data.List.TakeWhile

/-!
# Proofs/Number/Notation — texts that are plainly numbers, and reading them

A number text is an optional sign, a mantissa and an optional power of ten, and it denotes a decimal
(`Denotes`).  `isNumericText` accepts only such texts (`denotes_of_isNumericText`), and every one of
them is read as the decimal it denotes (`Denotes.read?`), so no plain text loses its value between
the two.
-/

namespace Spreadsheet

open Text

/-! ## The parts of a number text -/

/-- A sign, or none. -/
def IsSignText (cs : List Char) : Prop := cs = [] ∨ cs = ['+'] ∨ cs = ['-']

/-- Digits around at most one point, at least one digit in all. -/
def IsMantissa (cs : List Char) : Prop :=
  ∃ whole fraction, whole ++ fraction ≠ [] ∧ (∀ c ∈ whole ++ fraction, c.isDigit = true)
    ∧ (cs = whole ∧ fraction = [] ∨ cs = whole ++ '.' :: fraction)

/-- Nothing, or a power of ten: a mark, an optional sign and digits, which are its exponent. -/
inductive IsPower : List Char → Int → Prop
  | absent : IsPower [] 0
  | marked {mark : Char} {sign digits : List Char} : mark = 'e' ∨ mark = 'E' → IsSignText sign →
      digits ≠ [] → (∀ c ∈ digits, c.isDigit = true) →
      IsPower (mark :: (sign ++ digits))
        (if sign = ['-'] then -(natOfDigits digits : Int) else natOfDigits digits)

/-- **A text that is plainly a number, and the decimal it denotes.** -/
inductive Denotes : List Char → Decimal → Prop
  | parts {sign mantissa power whole fraction : List Char} {exponent : Int} : IsSignText sign →
      whole ++ fraction ≠ [] → (∀ c ∈ whole ++ fraction, c.isDigit = true) →
      (mantissa = whole ∧ fraction = [] ∨ mantissa = whole ++ '.' :: fraction) →
      IsPower power exponent →
      Denotes (sign ++ mantissa ++ power)
        ⟨sign = ['-'], natOfDigits (whole ++ fraction), exponent - fraction.length⟩

/-- A mantissa denotes a decimal without a sign. -/
theorem denotes_mantissa {mantissa whole fraction : List Char} (hne : whole ++ fraction ≠ [])
    (hdigits : ∀ c ∈ whole ++ fraction, c.isDigit = true)
    (hmantissa : mantissa = whole ∧ fraction = [] ∨ mantissa = whole ++ '.' :: fraction) :
    Denotes mantissa ⟨false, natOfDigits (whole ++ fraction), -fraction.length⟩ := by
  have h := Denotes.parts (.inl rfl) hne hdigits hmantissa .absent
  rwa [List.nil_append, List.append_nil, Int.zero_sub] at h

theorem isDigit_point : '.'.isDigit = false := by decide

theorem ne_of_isDigit {c d : Char} (hc : c.isDigit = true) (hd : d.isDigit = false) : c ≠ d := by
  rintro rfl
  simp [hc] at hd

theorem not_isExponentMark_of_isDigit {c : Char} (h : c.isDigit = true) :
    Decimal.isExponentMark c = false := by
  have he : c ≠ 'e' := ne_of_isDigit h (by decide)
  have hE : c ≠ 'E' := ne_of_isDigit h (by decide)
  simp [Decimal.isExponentMark, he, hE]

theorem isAlpha_of_mark {c : Char} (h : c = 'e' ∨ c = 'E') : c.isAlpha = true := by
  rcases h with rfl | rfl <;> decide

theorem isExponentMark_iff {c : Char} : Decimal.isExponentMark c = true ↔ c = 'e' ∨ c = 'E' := by
  simp only [Decimal.isExponentMark, Bool.or_eq_true, decide_eq_true_eq]

/-- A mantissa begins with a digit or the point, so with no sign. -/
theorem IsMantissa.exists_cons {cs : List Char} (h : IsMantissa cs) :
    ∃ c rest, cs = c :: rest ∧ (c.isDigit = true ∨ c = '.') := by
  obtain ⟨whole, fraction, hne, hdigits, ⟨rfl, rfl⟩ | rfl⟩ := h
  · obtain ⟨c, rest, rfl⟩ := List.exists_cons_of_ne_nil (by simpa using hne)
    exact ⟨c, rest, rfl, .inl (hdigits c (by simp))⟩
  · cases whole with
    | nil => exact ⟨'.', fraction, rfl, .inr rfl⟩
    | cons c rest => exact ⟨c, rest ++ '.' :: fraction, rfl, .inl (hdigits c (by simp))⟩

/-- A mantissa consists of digits and the point. -/
theorem IsMantissa.isDigit_or_eq_point {cs : List Char} (h : IsMantissa cs) :
    ∀ c ∈ cs, c.isDigit = true ∨ c = '.' := by
  obtain ⟨whole, fraction, -, hdigits, ⟨rfl, rfl⟩ | rfl⟩ := h
  · exact fun c hc => .inl (hdigits c (by simpa using hc))
  · intro c hc
    rw [List.mem_append, List.mem_cons] at hc
    rcases hc with hc | rfl | hc
    · exact .inl (hdigits c (by simp [hc]))
    · exact .inr rfl
    · exact .inl (hdigits c (by simp [hc]))

/-- No character of a mantissa announces a power of ten. -/
theorem IsMantissa.not_isExponentMark {cs : List Char} (h : IsMantissa cs) :
    ∀ c ∈ cs, (!Decimal.isExponentMark c) = true := by
  intro c hc
  rcases h.isDigit_or_eq_point c hc with hdigit | rfl
  · simp [not_isExponentMark_of_isDigit hdigit]
  · decide

/-! ## The sign -/

/-- What `splitSign` splits off is a sign. -/
theorem splitSign_append (cs : List Char) :
    ∃ sign, IsSignText sign ∧ cs = sign ++ (Decimal.splitSign cs).2 := by
  simp only [Decimal.splitSign]
  split
  · exact ⟨['-'], .inr (.inr rfl), rfl⟩
  · exact ⟨['+'], .inr (.inl rfl), rfl⟩
  · exact ⟨[], .inl rfl, rfl⟩

/-- **A sign is split off what begins with a digit or the point**, and nothing else. -/
theorem splitSign_sign {sign rest : List Char} {c : Char} (hs : IsSignText sign)
    (hc : c.isDigit = true ∨ c = '.') :
    Decimal.splitSign (sign ++ c :: rest) = (decide (sign = ['-']), c :: rest) := by
  obtain rfl | rfl | rfl := hs
  · have hminus : c ≠ '-' := by rintro rfl; simp at hc
    have hplus : c ≠ '+' := by rintro rfl; simp at hc
    rw [List.nil_append, Decimal.splitSign]
    · rfl
    · exact fun _ h => hminus (List.cons.inj h).1
    · exact fun _ h => hplus (List.cons.inj h).1
  · rfl
  · rfl

/-- A sign is split off digits. -/
theorem splitSign_digits {sign digits : List Char} (hs : IsSignText sign) (hne : digits ≠ [])
    (hdigits : ∀ c ∈ digits, c.isDigit = true) :
    Decimal.splitSign (sign ++ digits) = (decide (sign = ['-']), digits) := by
  obtain ⟨c, rest, rfl⟩ := List.exists_cons_of_ne_nil hne
  exact splitSign_sign hs (.inl (hdigits c List.mem_cons_self))

/-- A sign is split off a mantissa. -/
theorem splitSign_mantissa {sign mantissa : List Char} (hs : IsSignText sign)
    (hm : IsMantissa mantissa) (rest : List Char) :
    Decimal.splitSign (sign ++ mantissa ++ rest)
      = (decide (sign = ['-']), mantissa ++ rest) := by
  obtain ⟨c, cs, rfl, hc⟩ := hm.exists_cons
  rw [List.append_assoc]
  exact splitSign_sign hs hc

/-! ## Reading a number text -/

/-- A power of ten begins with its mark. -/
theorem IsPower.span {power : List Char} {exponent : Int} (h : IsPower power exponent) :
    power.takeWhile (!Decimal.isExponentMark ·) = []
      ∧ power.dropWhile (!Decimal.isExponentMark ·) = power := by
  cases h with
  | absent => exact ⟨rfl, rfl⟩
  | marked hmark => simp [isExponentMark_iff.mpr hmark]

theorem readMantissa?_eq {cs whole fraction : List Char} (hne : whole ++ fraction ≠ [])
    (hdigits : ∀ c ∈ whole ++ fraction, c.isDigit = true)
    (hcs : cs = whole ∧ fraction = [] ∨ cs = whole ++ '.' :: fraction) :
    Decimal.readMantissa? cs = some (natOfDigits (whole ++ fraction), fraction.length) := by
  have hwhole : ∀ c ∈ whole, (decide (c ≠ '.')) = true := fun c hc => by
    simpa using ne_of_isDigit (hdigits c (by simp [hc])) isDigit_point
  have hparts : cs.takeWhile (· ≠ '.') = whole ∧ (cs.dropWhile (· ≠ '.')).drop 1 = fraction := by
    obtain ⟨rfl, rfl⟩ | rfl := hcs
    · rw [List.takeWhile_eq_self_iff.mpr hwhole, List.dropWhile_eq_nil_iff.mpr hwhole]
      exact ⟨rfl, rfl⟩
    · rw [List.takeWhile_append_of_pos hwhole, List.dropWhile_append_of_pos hwhole]
      simp
  have hall : (whole ++ fraction).all Char.isDigit = true := List.all_eq_true.mpr hdigits
  simp only [Decimal.readMantissa?, hparts.1, hparts.2, hall]
  exact if_pos ⟨hne, trivial⟩

theorem IsPower.readExponent? {power : List Char} {exponent : Int} (h : IsPower power exponent) :
    Decimal.readExponent? power = some exponent := by
  cases h with
  | absent => rfl
  | marked hmark hs hne hdigits =>
    simp only [Decimal.readExponent?, splitSign_digits hs hne hdigits, decide_eq_true_eq]
    exact if_pos ⟨hne, List.all_eq_true.mpr hdigits⟩

/-- **Every number text is read as the decimal it denotes.** -/
theorem Denotes.read? {cs : List Char} {d : Decimal} (h : Denotes cs d) :
    Decimal.read? cs = some d := by
  cases h with
  | @parts sign mantissa power whole fraction exponent hs hne hdigits hmantissa hpower =>
    have hm : IsMantissa mantissa := ⟨whole, fraction, hne, hdigits, hmantissa⟩
    have htake : (mantissa ++ power).takeWhile (!Decimal.isExponentMark ·) = mantissa := by
      rw [List.takeWhile_append_of_pos hm.not_isExponentMark, hpower.span.1, List.append_nil]
    have hdrop : (mantissa ++ power).dropWhile (!Decimal.isExponentMark ·) = power := by
      rw [List.dropWhile_append_of_pos hm.not_isExponentMark, hpower.span.2]
    simp only [Decimal.read?, splitSign_mantissa hs hm power, htake, hdrop,
      readMantissa?_eq hne hdigits hmantissa, hpower.readExponent?]
    rfl

/-! ## Texts that are plainly numbers -/

theorem mem_takeWhile_isDigit {cs : List Char} {c : Char} (h : c ∈ cs.takeWhile Char.isDigit) :
    c.isDigit = true :=
  List.all_eq_true.mp (List.all_takeWhile (p := Char.isDigit) (l := cs)) c h

theorem isPowerText_iff {cs : List Char} :
    isPowerText cs = true ↔ ∃ exponent, IsPower cs exponent := by
  constructor
  · intro h
    cases cs with
    | nil => exact ⟨0, .absent⟩
    | cons mark cs =>
      obtain ⟨sign, hs, hcs⟩ := splitSign_append cs
      simp only [isPowerText, Bool.and_eq_true, bne_iff_ne, List.all_eq_true] at h
      rw [hcs]
      exact ⟨_, .marked (isExponentMark_iff.mp h.1.1) hs h.1.2 h.2⟩
  · rintro ⟨exponent, h⟩
    cases h with
    | absent => rfl
    | marked hmark hs hne hdigits =>
      simp only [isPowerText, splitSign_digits hs hne hdigits, Bool.and_eq_true, bne_iff_ne,
        List.all_eq_true]
      exact ⟨⟨isExponentMark_iff.mpr hmark, hne⟩, hdigits⟩

/-- **A text that is plainly a number is a sign, a mantissa and a power of ten.** -/
theorem denotes_of_isNumericText {cs : List Char} (h : isNumericText cs = true) :
    ∃ d, Denotes cs d := by
  obtain ⟨sign, hs, hcs⟩ := splitSign_append cs
  have hbody := List.takeWhile_append_dropWhile (p := Char.isDigit)
    (l := (Decimal.splitSign cs).2)
  rw [isNumericText] at h
  simp only at h
  split at h
  · rename_i rest hdrop
    rw [hdrop] at hbody
    have hrest := List.takeWhile_append_dropWhile (p := Char.isDigit) (l := rest)
    simp only [Bool.and_eq_true, Bool.or_eq_true, bne_iff_ne] at h
    obtain ⟨exponent, hpower⟩ := isPowerText_iff.mp h.2
    have hdenotes : Denotes (sign ++ ((Decimal.splitSign cs).2.takeWhile Char.isDigit
        ++ '.' :: rest.takeWhile Char.isDigit) ++ rest.dropWhile Char.isDigit) _ :=
      .parts hs ?_ ?_ (.inr rfl) hpower
    · rw [List.append_assoc, List.append_assoc, List.cons_append, hrest, hbody, ← hcs] at hdenotes
      exact ⟨_, hdenotes⟩
    · intro hnil
      rw [List.append_eq_nil_iff] at hnil
      exact h.1.elim (· hnil.1) (· hnil.2)
    · intro c hc
      rcases List.mem_append.mp hc with hc | hc <;> exact mem_takeWhile_isDigit hc
  · simp only [Bool.and_eq_true, bne_iff_ne] at h
    obtain ⟨exponent, hpower⟩ := isPowerText_iff.mp h.2
    have hdenotes : Denotes (sign ++ (Decimal.splitSign cs).2.takeWhile Char.isDigit
        ++ (Decimal.splitSign cs).2.dropWhile Char.isDigit) _ :=
      .parts hs (by simpa using h.1) ?_ (.inl ⟨rfl, rfl⟩) hpower
    · rw [List.append_assoc, hbody, ← hcs] at hdenotes
      exact ⟨_, hdenotes⟩
    · intro c hc
      exact mem_takeWhile_isDigit (by simpa using hc)

/-- A text has a value of its own exactly when it is empty or, blanks apart, plainly a number. -/
theorem scalarValue?_isSome_iff {text : String} :
    (scalarValue? text).isSome ↔ text = "" ∨ isNumericText (Text.trim text.toList) = true := by
  rw [scalarValue?]
  split
  · rename_i h
    simp [h]
  · rename_i h
    simp only
    split
    · rename_i hn
      obtain ⟨d, hd⟩ := denotes_of_isNumericText hn
      simp [hn, hd.read?]
    · rename_i hn
      simp [h, hn]

end Spreadsheet
