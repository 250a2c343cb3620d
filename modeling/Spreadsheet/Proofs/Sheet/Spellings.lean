import Spreadsheet.Proofs.Formula.Read
import Spreadsheet.Proofs.Number.Words
import Spreadsheet.Proofs.Sheet.Names

/-!
# Proofs/Sheet/Spellings — how the name of a position may be spelled

A name is letters followed by digits (`IsSpelled`).  Both are numerations, so what they denote gives
them back: the letters up to their case (`columnLetters_columnNumber`), and the digits up to the zeros
in front (`toDigits_natOfDigits`).  A text therefore denotes a position exactly when it is spelled so
and its two numbers are in range (`ofName?_eq_some_iff`), and it is the name of that position but for
case and zeros (`IsSpelled.nameChars_eq`).  Calculating in machine words makes no difference
(`ofWords?_eq`).
-/

namespace Spreadsheet

open Text

/-! ## Letters -/

variable {c : Char} {cs letters digits : List Char} {name : String} {p : Position} {n : Nat}

/-- A letter is worth its place in the alphabet. -/
theorem letterValue_spec (h : c.isAlpha = true) :
    1 ≤ letterValue c ∧ letterValue c ≤ 26 ∧ capital (letterValue c - 1) = c.toUpper := by
  have hupper := isUpper_iff.mp (isUpper_toUpper h)
  have hvalue : letterValue c = c.toUpper.toNat - 65 + 1 := rfl
  refine ⟨by omega, by omega, ?_⟩
  have hcode : 'A'.toNat + (letterValue c - 1) = c.toUpper.toNat := by
    change 65 + (letterValue c - 1) = _
    omega
  rw [capital, hcode, Char.ofNat_toNat]

/-- One letter more behind a label. -/
theorem columnLetters_append (h : c.isAlpha = true) (hn : 0 < n) :
    columnLetters (26 * n + letterValue c - 1) = columnLetters (n - 1) ++ [c.toUpper] := by
  obtain ⟨hone, htwentySix, hcapital⟩ := letterValue_spec h
  have hdiv : (26 * n + letterValue c - 1) / 26 - 1 = n - 1 := by omega
  have hmod : (26 * n + letterValue c - 1) % 26 = letterValue c - 1 := by omega
  rw [columnLetters, if_neg (by omega), hdiv, hmod, hcapital]

theorem columnLetters_foldl : ∀ {letters : List Char} {n : Nat}, 0 < n →
    (∀ c ∈ letters, c.isAlpha = true) →
      columnLetters (letters.foldl (fun n c => 26 * n + letterValue c) n - 1)
        = columnLetters (n - 1) ++ letters.map Char.toUpper
  | [], n, _, _ => (List.append_nil _).symm
  | c :: letters, n, hn, h => by
      obtain ⟨hc, hletters⟩ := List.forall_mem_cons.mp h
      have hpos : 0 < 26 * n + letterValue c := by omega
      rw [List.foldl_cons, columnLetters_foldl hpos hletters, columnLetters_append hc hn,
        List.append_assoc]
      rfl

/-- **The label of the column that letters denote** is those letters in capitals. -/
theorem columnLetters_columnNumber (hne : letters ≠ []) (h : ∀ c ∈ letters, c.isAlpha = true) :
    columnLetters (columnNumber letters - 1) = letters.map Char.toUpper := by
  obtain ⟨c, letters, rfl⟩ := List.exists_cons_of_ne_nil hne
  obtain ⟨hc, hletters⟩ := List.forall_mem_cons.mp h
  obtain ⟨hone, htwentySix, hcapital⟩ := letterValue_spec hc
  have hfirst : columnLetters (26 * 0 + letterValue c - 1) = [c.toUpper] := by
    rw [columnLetters, if_pos (by omega), Nat.mul_zero, Nat.zero_add, hcapital]
  rw [columnNumber, List.foldl_cons, columnLetters_foldl (by omega) hletters, hfirst]
  rfl

theorem columnNumber_pos (hne : letters ≠ []) (h : ∀ c ∈ letters, c.isAlpha = true) :
    0 < columnNumber letters := by
  obtain ⟨front, c, rfl⟩ := List.eq_nil_or_concat letters |>.resolve_left hne
  rw [List.concat_eq_append] at h ⊢
  have := (letterValue_spec (h c (by simp))).1
  rw [columnNumber_append_singleton]
  omega

/-! ## Digits -/

theorem digitChar_digitValue (h : c.isDigit = true) :
    digitValue c < 10 ∧ (digitValue c).digitChar = c := by
  have hcode := isDigit_iff.mp h
  have hvalue : digitValue c = c.toNat - 48 := rfl
  have hlt : digitValue c < 10 := by omega
  refine ⟨hlt, Char.toNat_inj.mp ?_⟩
  rw [Nat.toNat_digitChar_of_lt_ten hlt]
  omega

theorem toDigits_foldl : ∀ {digits : List Char} {n : Nat}, 0 < n →
    (∀ c ∈ digits, c.isDigit = true) →
      Nat.toDigits 10 (digits.foldl (fun n c => 10 * n + digitValue c) n)
        = Nat.toDigits 10 n ++ digits
  | [], n, _, _ => (List.append_nil _).symm
  | c :: digits, n, hn, h => by
      obtain ⟨hc, hdigits⟩ := List.forall_mem_cons.mp h
      obtain ⟨hlt, hchar⟩ := digitChar_digitValue hc
      have hpos : 0 < 10 * n + digitValue c := by omega
      rw [List.foldl_cons, toDigits_foldl hpos hdigits,
        ← Nat.toDigits_append_toDigits (by decide) hn hlt, Nat.toDigits_of_lt_base hlt, hchar,
        List.append_assoc]
      rfl

/-- **The digits of the number that digits write** are those digits without the zeros in front. -/
theorem toDigits_natOfDigits : ∀ {digits : List Char}, (∀ c ∈ digits, c.isDigit = true) →
    0 < natOfDigits digits →
      Nat.toDigits 10 (natOfDigits digits) = digits.dropWhile (· = '0')
  | c :: digits, h, hpos => by
      obtain ⟨hc, hdigits⟩ := List.forall_mem_cons.mp h
      obtain ⟨hlt, hchar⟩ := digitChar_digitValue hc
      by_cases hzero : c = '0'
      · subst hzero
        have ih := toDigits_natOfDigits hdigits (show 0 < natOfDigits digits from hpos)
        exact ih
      · have hvalue : 0 < digitValue c := by
          refine Nat.pos_of_ne_zero fun h0 => hzero ?_
          rw [← hchar, h0]
          rfl
        have hnumber : natOfDigits (c :: digits)
            = digits.foldl (fun n c => 10 * n + digitValue c) (digitValue c) := by
          rw [natOfDigits, List.foldl_cons, Nat.mul_zero, Nat.zero_add]
        rw [hnumber, toDigits_foldl hvalue hdigits, Nat.toDigits_of_lt_base hlt, hchar,
          List.dropWhile_cons_of_neg (by simpa using hzero)]
        rfl

/-! ## Names -/

/-- Letters followed by digits. -/
structure IsSpelled (cs letters digits : List Char) : Prop where
  letters_ne : letters ≠ []
  digits_ne : digits ≠ []
  isAlpha : ∀ c ∈ letters, c.isAlpha = true
  isDigit : ∀ c ∈ digits, c.isDigit = true
  eq : cs = letters ++ digits

/-- The letters end where the digits begin. -/
theorem IsSpelled.span (h : IsSpelled cs letters digits) :
    cs.takeWhile Char.isAlpha = letters ∧ cs.dropWhile Char.isAlpha = digits :=
  h.eq ▸ span_letters h.isAlpha h.digits_ne h.isDigit

/-- Where the first letters of a text end, only digits follow. -/
theorem isSpelled_of_split (hletters : cs.takeWhile Char.isAlpha ≠ [])
    (hdigits : cs.dropWhile Char.isAlpha ≠ [])
    (hall : (cs.dropWhile Char.isAlpha).all Char.isDigit = true) :
    IsSpelled cs (cs.takeWhile Char.isAlpha) (cs.dropWhile Char.isAlpha) :=
  ⟨hletters, hdigits, fun _ hc => List.mem_takeWhile_imp hc, List.all_eq_true.mp hall,
    List.takeWhile_append_dropWhile.symm⟩

theorem isSpelled_iff : IsSpelled cs letters digits ↔
    isReferenceWord cs = true ∧ letters = cs.takeWhile Char.isAlpha
      ∧ digits = cs.dropWhile Char.isAlpha := by
  constructor
  · intro h
    obtain ⟨hletters, hdigits⟩ := h.span
    refine ⟨?_, hletters.symm, hdigits.symm⟩
    simp only [isReferenceWord, hletters, hdigits, Bool.and_eq_true, bne_iff_ne, List.all_eq_true]
    exact ⟨⟨h.letters_ne, h.digits_ne⟩, h.isDigit⟩
  · rintro ⟨h, rfl, rfl⟩
    simp only [isReferenceWord, Bool.and_eq_true, bne_iff_ne] at h
    exact isSpelled_of_split h.1.1 h.1.2 h.2

namespace Position

/-- **A text denotes a position exactly when it is letters and digits** whose numbers are those of the
position and in range. -/
theorem ofName?_eq_some_iff : ofName? name = some p ↔ ∃ letters digits,
    IsSpelled name.toList letters digits ∧ natOfDigits digits = p.row + 1
      ∧ columnNumber letters = p.col + 1 ∧ p.InLimit := by
  rw [ofName?, ofChars?]
  constructor
  · intro h
    split at h
    · rename_i hname
      obtain ⟨hletters, hdigits, hall, hpos, hrow, hcol⟩ := hname
      have hspelled := isSpelled_of_split hletters hdigits hall
      have hcolumn := columnNumber_pos hletters hspelled.isAlpha
      obtain rfl := Option.some.inj h
      refine ⟨_, _, hspelled, ?_, ?_, ?_⟩
      · dsimp only
        omega
      · dsimp only
        omega
      · rw [InLimit]
        dsimp only
        omega
    · cases h
  · rintro ⟨letters, digits, hspelled, hrow, hcol, hlimit⟩
    obtain ⟨hletters, hdigits⟩ := hspelled.span
    rw [hletters, hdigits, hrow, hcol, if_pos ⟨hspelled.letters_ne, hspelled.digits_ne,
      List.all_eq_true.mpr hspelled.isDigit, Nat.succ_pos _, hlimit.1, hlimit.2⟩]
    rfl

theorem ofName?_of_isSpelled (h : IsSpelled name.toList letters digits)
    (hzero : natOfDigits digits ≠ 0) (hrow : natOfDigits digits < indexLimit)
    (hcol : columnNumber letters < indexLimit) :
    ofName? name = some ⟨natOfDigits digits - 1, columnNumber letters - 1⟩ := by
  have hcolumn := columnNumber_pos h.letters_ne h.isAlpha
  refine ofName?_eq_some_iff.mpr ⟨letters, digits, h, ?_, ?_, ?_, ?_⟩ <;> dsimp only <;> omega

/-- **A text denotes nothing exactly when it is not letters and digits**, or its row is zero, or one
of its numbers is out of range. -/
theorem ofName?_eq_none_iff : ofName? name = none ↔
    (¬∃ letters digits, IsSpelled name.toList letters digits)
      ∨ ∃ letters digits, IsSpelled name.toList letters digits ∧ (natOfDigits digits = 0
        ∨ indexLimit ≤ natOfDigits digits ∨ indexLimit ≤ columnNumber letters) := by
  constructor
  · intro h
    refine or_iff_not_imp_left.mpr fun hspelled => ?_
    obtain ⟨letters, digits, hspelled⟩ := not_not.mp hspelled
    refine ⟨letters, digits, hspelled, ?_⟩
    by_contra hrange
    rw [not_or, not_or, Nat.not_le, Nat.not_le] at hrange
    rw [ofName?_of_isSpelled hspelled hrange.1 hrange.2.1 hrange.2.2] at h
    cases h
  · intro h
    refine Option.eq_none_iff_forall_ne_some.mpr fun p hp => ?_
    obtain ⟨letters, digits, hspelled, hrow, hcol, hlimit⟩ := ofName?_eq_some_iff.mp hp
    rcases h with hnone | ⟨letters', digits', hspelled', hrange⟩
    · exact hnone ⟨letters, digits, hspelled⟩
    · obtain ⟨rfl, rfl⟩ : letters' = letters ∧ digits' = digits :=
        ⟨hspelled'.span.1.symm.trans hspelled.span.1, hspelled'.span.2.symm.trans hspelled.span.2⟩
      rw [InLimit] at hlimit
      omega

end Position

/-- **The name of the position that a text denotes** is the text in capitals, without the zeros in
front of its row. -/
theorem IsSpelled.nameChars_eq (h : IsSpelled cs letters digits)
    (hrow : natOfDigits digits = p.row + 1) (hcol : columnNumber letters = p.col + 1) :
    p.nameChars = letters.map Char.toUpper ++ digits.dropWhile (· = '0') := by
  have hcolumn : p.col = columnNumber letters - 1 := by omega
  rw [Position.nameChars, hcolumn, columnLetters_columnNumber h.letters_ne h.isAlpha, ← hrow,
    toDigits_natOfDigits h.isDigit (by omega)]

theorem IsSpelled.map_toUpper (h : IsSpelled cs letters digits) :
    cs.map Char.toUpper = letters.map Char.toUpper ++ digits := by
  rw [h.eq, List.map_append, Position.map_toUpper_of_digits (List.all_eq_true.mpr h.isDigit)]

/-- Whether the row of a name begins with a zero. -/
def IsPadded (name : String) : Prop := (name.toList.dropWhile Char.isAlpha).head? = some '0'

instance (name : String) : Decidable (IsPadded name) := inferInstanceAs (Decidable (_ = _))

/-- **A text is the name of the position it denotes, in either case, unless its row begins with a
zero.** -/
theorem name_eq_canonicalName_iff (h : Position.ofName? name = some p) :
    p.name = canonicalName name ↔ ¬IsPadded name := by
  obtain ⟨letters, digits, hspelled, hrow, hcol, -⟩ := Position.ofName?_eq_some_iff.mp h
  have hname : p.name = canonicalName name ↔ digits.dropWhile (· = '0') = digits := by
    rw [Position.name, canonicalName, String.ofList_inj, hspelled.nameChars_eq hrow hcol,
      hspelled.map_toUpper]
    exact List.append_right_inj _
  rw [hname, IsPadded, hspelled.span.2]
  obtain ⟨d, rest, rfl⟩ := List.exists_cons_of_ne_nil hspelled.digits_ne
  rw [List.head?_cons, Option.some.injEq]
  by_cases hzero : d = '0'
  · subst hzero
    have hlength := (List.dropWhile_suffix (l := rest) (· = '0')).length_le
    refine iff_of_false (fun heq => ?_) (not_not.mpr rfl)
    have := congrArg List.length heq
    simp only [List.dropWhile_cons, decide_true, if_true, List.length_cons] at this
    omega
  · exact iff_of_true (List.dropWhile_cons_of_neg (by simpa using hzero)) hzero

/-! ## Machine words -/

namespace Position

/-- Reads a name by calculating in words. -/
def ofWords? (name : String) : Option (UInt64 × UInt64) :=
  let letters := name.toList.takeWhile Char.isAlpha
  let digits := name.toList.dropWhile Char.isAlpha
  if letters ≠ [] ∧ digits ≠ [] ∧ digits.all Char.isDigit then
    (wordOfDigits? 26 letterValue letters).bind fun col =>
      (wordOfDigits? 10 digitValue digits).bind fun row =>
        if row = 0 then none else some (row - 1, col - 1)
  else none

/-- The row and the column of a position as words. -/
def words (p : Position) : UInt64 × UInt64 := (UInt64.ofNat p.row, UInt64.ofNat p.col)

/-- A character is far below the limit of the words. -/
theorem toNat_succ_lt_word (c : Char) : c.toNat + 1 < UInt64.size := by
  have hchar : c.toNat < UInt32.size := c.val.toNat_lt_size
  have hsize : UInt32.size < UInt64.size := by decide
  omega

theorem wordOfDigits?_letters (letters : List Char) :
    wordOfDigits? 26 letterValue letters = checked (columnNumber letters) := by
  refine wordOfDigits?_eq (by decide) (fun c => ?_) letters
  have := toNat_succ_lt_word c.toUpper
  rw [letterValue]
  omega

theorem wordOfDigits?_digits (digits : List Char) :
    wordOfDigits? 10 digitValue digits = checked (natOfDigits digits) := by
  refine wordOfDigits?_eq (by decide) (fun c => ?_) digits
  have := toNat_succ_lt_word c
  rw [digitValue]
  omega

/-- **In words a name is read as it is in exact numbers.** -/
theorem ofWords?_eq (name : String) : ofWords? name = (ofName? name).map words := by
  rw [ofWords?]
  cases h : ofName? name with
  | some p =>
    obtain ⟨letters, digits, hspelled, hrow, hcol, hlimit⟩ := ofName?_eq_some_iff.mp h
    have hcolumn : checked (p.col + 1) = some (UInt64.ofNat (p.col + 1)) := if_pos hlimit.2
    have hline : checked (p.row + 1) = some (UInt64.ofNat (p.row + 1)) := if_pos hlimit.1
    have hne : UInt64.ofNat (p.row + 1) ≠ 0 := fun hzero => by
      have := congrArg UInt64.toNat hzero
      rw [UInt64.toNat_ofNat_of_lt' hlimit.1] at this
      cases this
    rw [hspelled.span.1, hspelled.span.2, if_pos ⟨hspelled.letters_ne, hspelled.digits_ne,
      List.all_eq_true.mpr hspelled.isDigit⟩, wordOfDigits?_letters, wordOfDigits?_digits, hcol, hrow,
      hcolumn, hline, Option.bind_some, Option.bind_some, if_neg hne, Option.map_some, words,
      UInt64.ofNat_add, UInt64.ofNat_add]
    simp
  | none =>
    rw [Option.map_none]
    rcases ofName?_eq_none_iff.mp h with hnone | ⟨letters, digits, hspelled, hrange⟩
    · exact if_neg fun hsplit =>
        hnone ⟨_, _, isSpelled_of_split hsplit.1 hsplit.2.1 hsplit.2.2⟩
    · rw [hspelled.span.1, hspelled.span.2, wordOfDigits?_letters, wordOfDigits?_digits]
      split
      · rcases hrange with hzero | hrow | hcol
        · have hword : checked (natOfDigits digits) = some 0 := by
            rw [hzero]
            rfl
          simp [hword]
        · simp [checked_of_le hrow]
        · rw [checked_of_le hcol, Option.bind_none]
      · rfl

end Position

end Spreadsheet
