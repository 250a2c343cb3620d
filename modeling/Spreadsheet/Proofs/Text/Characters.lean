import Spreadsheet.Text.Blank
import Spreadsheet.Text.Digits

/-!
# Proofs/Text/Characters — blanks, letters in either case, digits, and the numbers they write

Classes of ASCII characters are ranges of code points (`isAlpha_iff`), and no blank lies in them.
Capitals are the image of `Char.toUpper` on the letters, which keeps every other character and with
it the digits.  A number is read back from the digits that write it (`natOfDigits_toDigits`).
-/

namespace Spreadsheet.Text

variable {c : Char}

/-! ## Classes of characters -/

theorem isUpper_iff : c.isUpper = true ↔ 65 ≤ c.toNat ∧ c.toNat ≤ 90 := by
  change decide ('A'.val ≤ c.val ∧ c.val ≤ 'Z'.val) = true ↔ _
  rw [decide_eq_true_iff, UInt32.le_iff_toNat_le, UInt32.le_iff_toNat_le]
  exact Iff.rfl

theorem isLower_iff : c.isLower = true ↔ 97 ≤ c.toNat ∧ c.toNat ≤ 122 := by
  change (decide ('a'.val ≤ c.val) && decide (c.val ≤ 'z'.val)) = true ↔ _
  rw [Bool.and_eq_true, decide_eq_true_iff, decide_eq_true_iff, UInt32.le_iff_toNat_le,
    UInt32.le_iff_toNat_le]
  exact Iff.rfl

theorem isAlpha_iff : c.isAlpha = true ↔
    (65 ≤ c.toNat ∧ c.toNat ≤ 90) ∨ (97 ≤ c.toNat ∧ c.toNat ≤ 122) := by
  change (c.isUpper || c.isLower) = true ↔ _
  rw [Bool.or_eq_true, isUpper_iff, isLower_iff]

theorem isDigit_iff : c.isDigit = true ↔ 48 ≤ c.toNat ∧ c.toNat ≤ 57 := Char.isDigit_iff_toNat

theorem toNat_of_isBlank (h : isBlank c = true) : c.toNat ≤ 0x20 ∨ 0x85 ≤ c.toNat := by
  obtain ⟨r, hr, hlow, hhigh⟩ := inRanges_iff.mp h
  simp only [blankRanges, List.mem_cons, List.not_mem_nil, or_false] at hr
  rcases hr with rfl | rfl | rfl | rfl | rfl | rfl | rfl | rfl | rfl | rfl <;> simp at * <;> omega

theorem not_isAlpha_of_isBlank (h : isBlank c = true) : c.isAlpha = false := by
  refine Bool.eq_false_iff.mpr fun halpha => ?_
  have := toNat_of_isBlank h
  have := isAlpha_iff.mp halpha
  omega

theorem not_isBlank_of_isAlpha (h : c.isAlpha = true) : isBlank c = false :=
  Bool.eq_false_iff.mpr fun hblank => by simp [not_isAlpha_of_isBlank hblank] at h

theorem not_isBlank_of_isDigit (h : c.isDigit = true) : isBlank c = false := by
  refine Bool.eq_false_iff.mpr fun hblank => ?_
  have := toNat_of_isBlank hblank
  have := isDigit_iff.mp h
  omega

theorem not_isDigit_of_isAlpha (h : c.isAlpha = true) : c.isDigit = false := by
  refine Bool.eq_false_iff.mpr fun hdigit => ?_
  have := isAlpha_iff.mp h
  have := isDigit_iff.mp hdigit
  omega

/-! ## Capitals -/

theorem toUpper_of_not_isLower (h : c.isLower = false) : c.toUpper = c := by
  refine dif_neg fun hrange => ?_
  rw [UInt32.le_iff_toNat_le, UInt32.le_iff_toNat_le] at hrange
  have := isLower_iff.mpr hrange
  simp [h] at this

theorem toNat_toUpper_of_isLower (h : c.isLower = true) : c.toUpper.toNat = c.toNat - 32 := by
  have hrange := isLower_iff.mp h
  have hletter : 'a'.val ≤ c.val ∧ c.val ≤ 'z'.val := by
    rwa [UInt32.le_iff_toNat_le, UInt32.le_iff_toNat_le]
  have hupper : c.toUpper = ⟨c.val + ('A'.val - 'a'.val), _⟩ := dif_pos hletter
  rw [hupper]
  change (c.val + ('A'.val - 'a'.val)).toNat = c.val.toNat - 32
  have hval : c.val.toNat = c.toNat := rfl
  have hstep : ('A'.val - 'a'.val).toNat = 2 ^ 32 - 32 := by decide
  rw [UInt32.toNat_add, hstep]
  omega

/-- **A capital is the capital of itself.** -/
theorem toUpper_of_isUpper (h : c.isUpper = true) : c.toUpper = c := by
  refine toUpper_of_not_isLower (Bool.eq_false_iff.mpr fun hlower => ?_)
  have := isUpper_iff.mp h
  have := isLower_iff.mp hlower
  omega

theorem toUpper_of_isDigit (h : c.isDigit = true) : c.toUpper = c := by
  refine toUpper_of_not_isLower (Bool.eq_false_iff.mpr fun hlower => ?_)
  have := isDigit_iff.mp h
  have := isLower_iff.mp hlower
  omega

theorem isUpper_toUpper (h : c.isAlpha = true) : c.toUpper.isUpper = true := by
  rw [isUpper_iff]
  cases hlower : c.isLower with
  | true =>
    have := isLower_iff.mp hlower
    rw [toNat_toUpper_of_isLower hlower]
    omega
  | false =>
    rw [toUpper_of_not_isLower hlower]
    have hnot : ¬ (97 ≤ c.toNat ∧ c.toNat ≤ 122) := fun hrange => by
      simp [isLower_iff.mpr hrange] at hlower
    exact (isAlpha_iff.mp h).resolve_right hnot

theorem isAlpha_of_isUpper (h : c.isUpper = true) : c.isAlpha = true :=
  isAlpha_iff.mpr (.inl (isUpper_iff.mp h))

/-- The characters outside the letters have no capitals. -/
theorem toUpper_of_not_isAlpha (h : c.isAlpha = false) : c.toUpper = c := by
  refine toUpper_of_not_isLower (Bool.eq_false_iff.mpr fun hlower => ?_)
  simp [isAlpha_iff.mpr (.inr (isLower_iff.mp hlower))] at h

@[simp] theorem isAlpha_toUpper (c : Char) : c.toUpper.isAlpha = c.isAlpha := by
  cases h : c.isAlpha with
  | true => exact isAlpha_of_isUpper (isUpper_toUpper h)
  | false => rw [toUpper_of_not_isAlpha h, h]

@[simp] theorem toUpper_toUpper (c : Char) : c.toUpper.toUpper = c.toUpper := by
  cases h : c.isAlpha with
  | true => exact toUpper_of_isUpper (isUpper_toUpper h)
  | false => rw [toUpper_of_not_isAlpha h, toUpper_of_not_isAlpha h]

@[simp] theorem isDigit_toUpper (c : Char) : c.toUpper.isDigit = c.isDigit := by
  cases h : c.isAlpha with
  | false => rw [toUpper_of_not_isAlpha h]
  | true =>
    rw [Bool.eq_iff_iff, isDigit_iff, isDigit_iff]
    have := isUpper_iff.mp (isUpper_toUpper h)
    have := isAlpha_iff.mp h
    omega

/-! ## Decimal numbers -/

theorem natOfDigits_eq_ofDigitChars (digits : List Char) :
    natOfDigits digits = Nat.ofDigitChars 10 digits 0 := by
  rw [Nat.ofDigitChars_eq_foldl]
  rfl

/-- **A number is the value of its digits.** -/
@[simp] theorem natOfDigits_toDigits (n : Nat) : natOfDigits (Nat.toDigits 10 n) = n := by
  rw [natOfDigits_eq_ofDigitChars, Nat.ofDigitChars_ten_toDigits]

theorem isDigit_of_mem_toDigits {n : Nat} (h : c ∈ Nat.toDigits 10 n) : c.isDigit = true :=
  Nat.isDigit_of_mem_toDigits (by decide) (by decide) h

/-- A number is written without zeros in front. -/
theorem exists_toDigits {n : Nat} (hn : 0 < n) :
    ∃ c rest, Nat.toDigits 10 n = c :: rest ∧ c ≠ '0' := by
  induction n using Nat.strongRecOn with
  | ind n ih =>
    rcases Nat.lt_or_ge n 10 with hlt | hge
    · refine ⟨n.digitChar, [], Nat.toDigits_of_lt_base hlt, ?_⟩
      have : ∀ m < 10, 0 < m → m.digitChar ≠ '0' := by decide
      exact this n hlt hn
    · obtain ⟨c, rest, heq, hc⟩ := ih (n / 10) (by omega) (by omega)
      exact ⟨c, rest ++ [(n % 10).digitChar],
        by rw [Nat.toDigits_of_base_le (by decide) hge, heq, List.cons_append], hc⟩

end Spreadsheet.Text
