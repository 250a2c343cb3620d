import Spreadsheet.Position
import Spreadsheet.Proofs.Text.Characters

/-!
# Proofs/Sheet/Names — every position has one name, and the name denotes it

Column labels are a numeration, so the number of a label gives the column back
(`columnNumber_columnLetters`).  The letters of a name end where its digits begin, and so the name of
a position is read as that position (`ofName?_name`); reading takes letters in either case
(`ofName?_canonicalName`), and names are told apart by what they denote (`name_injective`).
-/

namespace Spreadsheet

open Text

/-! ## Column labels -/

theorem toNat_capital {n : Nat} (h : n < 26) : (capital n).toNat = 65 + n := by
  have hall : ∀ n < 26, (capital n).toNat = 65 + n := by decide
  exact hall n h

theorem isUpper_capital {n : Nat} (h : n < 26) : (capital n).isUpper = true := by
  rw [isUpper_iff, toNat_capital h]
  omega

theorem letterValue_capital {n : Nat} (h : n < 26) : letterValue (capital n) = n + 1 := by
  rw [letterValue, toUpper_of_isUpper (isUpper_capital h), toNat_capital h]
  change 65 + n - 65 + 1 = n + 1
  omega

theorem columnNumber_append_singleton (letters : List Char) (c : Char) :
    columnNumber (letters ++ [c]) = 26 * columnNumber letters + letterValue c := by
  rw [columnNumber, List.foldl_append]
  rfl

/-- **The number of a column label is that of its column.** -/
theorem columnNumber_columnLetters (col : Nat) : columnNumber (columnLetters col) = col + 1 := by
  induction col using columnLetters.induct with
  | case1 col h =>
    rw [columnLetters, if_pos h]
    have hsingle := columnNumber_append_singleton [] (capital col)
    rw [List.nil_append, letterValue_capital h] at hsingle
    exact hsingle.trans (Nat.zero_add _)
  | case2 col h ih =>
    rw [columnLetters, if_neg h, columnNumber_append_singleton, ih,
      letterValue_capital (Nat.mod_lt _ (by decide))]
    omega

theorem isUpper_of_mem_columnLetters {col : Nat} {c : Char} (h : c ∈ columnLetters col) :
    c.isUpper = true := by
  induction col using columnLetters.induct with
  | case1 col hcol =>
    rw [columnLetters, if_pos hcol, List.mem_singleton] at h
    exact h ▸ isUpper_capital hcol
  | case2 col hcol ih =>
    rw [columnLetters, if_neg hcol, List.mem_append, List.mem_singleton] at h
    rcases h with h | rfl
    · exact ih h
    · exact isUpper_capital (Nat.mod_lt _ (by decide))

theorem columnLetters_ne_nil (col : Nat) : columnLetters col ≠ [] := by
  rw [columnLetters]
  split <;> simp

/-- How many columns have labels of up to so many letters. -/
def labelCount : Nat → Nat
  | 0 => 0
  | n + 1 => 26 * (labelCount n + 1)

/-- The labels of up to some number of letters are those of the first columns. -/
theorem length_columnLetters_le_iff {col n : Nat} :
    (columnLetters col).length ≤ n ↔ col < labelCount n := by
  induction col using columnLetters.induct generalizing n with
  | case1 col h =>
    rw [columnLetters, if_pos h, List.length_singleton]
    cases n with
    | zero => simp [labelCount]
    | succ n =>
      rw [labelCount]
      omega
  | case2 col h ih =>
    rw [columnLetters, if_neg h, List.length_append, List.length_singleton]
    cases n with
    | zero => simp [labelCount]
    | succ n =>
      rw [Nat.succ_le_succ_iff, ih, labelCount]
      omega

namespace Position

/-! ## Reading the name of a position -/

theorem isAlpha_of_mem_columnLetters {col : Nat} {c : Char} (h : c ∈ columnLetters col) :
    c.isAlpha = true :=
  isAlpha_of_isUpper (isUpper_of_mem_columnLetters h)

theorem isAlpha_of_mem_toDigits {n : Nat} {c : Char} (h : c ∈ Nat.toDigits 10 n) :
    c.isAlpha = false := by
  have hdigit := isDigit_iff.mp (isDigit_of_mem_toDigits h)
  refine Bool.eq_false_iff.mpr fun halpha => ?_
  have := isAlpha_iff.mp halpha
  omega

theorem takeWhile_nameChars (p : Position) :
    p.nameChars.takeWhile Char.isAlpha = columnLetters p.col := by
  rw [nameChars, List.takeWhile_append_of_pos fun _ => isAlpha_of_mem_columnLetters]
  cases hdigits : Nat.toDigits 10 (p.row + 1) with
  | nil => simp
  | cons d ds =>
    rw [List.takeWhile_cons_of_neg (by simp [isAlpha_of_mem_toDigits (hdigits ▸ List.mem_cons_self)]),
      List.append_nil]

theorem dropWhile_nameChars (p : Position) :
    p.nameChars.dropWhile Char.isAlpha = Nat.toDigits 10 (p.row + 1) := by
  have h := List.takeWhile_append_dropWhile (p := Char.isAlpha) (l := p.nameChars)
  rw [takeWhile_nameChars] at h
  exact List.append_cancel_left h

/-- Rows and columns that are counted in 64 bits. -/
def InLimit (p : Position) : Prop := p.row + 1 < indexLimit ∧ p.col + 1 < indexLimit

/-- **The name of a position denotes it.** -/
theorem ofChars?_nameChars {p : Position} (h : p.InLimit) : ofChars? p.nameChars = some p := by
  have hdigits : (Nat.toDigits 10 (p.row + 1)).all Char.isDigit = true :=
    List.all_eq_true.mpr fun _ => isDigit_of_mem_toDigits
  rw [ofChars?, takeWhile_nameChars, dropWhile_nameChars]
  rw [natOfDigits_toDigits, columnNumber_columnLetters,
    if_pos ⟨columnLetters_ne_nil _, Nat.toDigits_ne_nil, hdigits, Nat.succ_pos _, h.1, h.2⟩]
  rfl

theorem ofName?_name {p : Position} (h : p.InLimit) : ofName? p.name = some p := by
  rw [ofName?, name, String.toList_ofList, ofChars?_nameChars h]

/-- **Different positions have different names**, however large the grid. -/
theorem name_injective {p q : Position} (h : p.name = q.name) : p = q := by
  have hchars : p.nameChars = q.nameChars := String.ofList_injective h
  have hcol : p.col + 1 = q.col + 1 := by
    rw [← columnNumber_columnLetters, ← columnNumber_columnLetters, ← takeWhile_nameChars,
      ← takeWhile_nameChars, hchars]
  have hrow : p.row + 1 = q.row + 1 := by
    rw [← natOfDigits_toDigits (p.row + 1), ← natOfDigits_toDigits (q.row + 1),
      ← dropWhile_nameChars, ← dropWhile_nameChars, hchars]
  cases p
  cases q
  simp only [mk.injEq]
  exact ⟨Nat.succ.inj hrow, Nat.succ.inj hcol⟩

/-! ## Either case -/

theorem columnNumber_map_toUpper (letters : List Char) :
    columnNumber (letters.map Char.toUpper) = columnNumber letters := by
  rw [columnNumber, List.foldl_map]
  simp only [letterValue, toUpper_toUpper]
  rfl

theorem map_toUpper_of_digits {digits : List Char} (h : digits.all Char.isDigit = true) :
    digits.map Char.toUpper = digits :=
  (List.map_congr_left fun c hc => toUpper_of_isDigit (List.all_eq_true.mp h c hc)).trans
    (List.map_id _)

theorem ofChars?_map_toUpper (cs : List Char) :
    ofChars? (cs.map Char.toUpper) = ofChars? cs := by
  have halpha : Char.isAlpha ∘ Char.toUpper = Char.isAlpha := funext isAlpha_toUpper
  have hdigit : Char.isDigit ∘ Char.toUpper = Char.isDigit := funext isDigit_toUpper
  rw [ofChars?, ofChars?, List.takeWhile_map, List.dropWhile_map, halpha]
  simp only [columnNumber_map_toUpper, ne_eq, List.map_eq_nil_iff, List.all_map, hdigit]
  cases h : (cs.dropWhile Char.isAlpha).all Char.isDigit with
  | true => rw [map_toUpper_of_digits h]
  | false => simp

/-- **A name denotes the same in capital letters.** -/
theorem ofName?_canonicalName (name : String) : ofName? (canonicalName name) = ofName? name := by
  rw [ofName?, ofName?, canonicalName, String.toList_ofList, ofChars?_map_toUpper]

/-- A name that is spelled like that of a position, in either case, denotes it. -/
theorem ofName?_of_canonicalName_eq {p : Position} (hp : p.InLimit) {name : String}
    (h : canonicalName name = p.name) : ofName? name = some p := by
  rw [← ofName?_canonicalName, h, ofName?_name hp]

end Position

end Spreadsheet
