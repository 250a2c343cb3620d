/-!
# Proofs/Number/Words — calculating in machine words

A sum or a product of 64-bit words is a word or leaves their range, and then there is none.  A number
that is read digit by digit grows with every digit, so it leaves the range on the way exactly when it
is out of range in the end (`wordOfDigits?_eq`).
-/

namespace Spreadsheet

/-- The word for an exact result, if there is one. -/
def checked (n : Nat) : Option UInt64 := if n < UInt64.size then some (UInt64.ofNat n) else none

/-- The sum of two words, if it is one. -/
def checkedAdd (a b : UInt64) : Option UInt64 := checked (a.toNat + b.toNat)

/-- The product of two words, if it is one. -/
def checkedMul (a b : UInt64) : Option UInt64 := checked (a.toNat * b.toNat)

variable {n : Nat} {w : UInt64}

theorem checked_eq_some_iff : checked n = some w ↔ w.toNat = n := by
  have hword := w.toNat_lt_size
  rw [checked]
  split
  · rename_i h
    rw [Option.some.injEq, ← UInt64.toNat_inj, UInt64.toNat_ofNat_of_lt' h, eq_comm]
  · exact ⟨nofun, fun h => absurd (h ▸ hword) (by assumption)⟩

theorem checked_toNat (w : UInt64) : checked w.toNat = some w := checked_eq_some_iff.mpr rfl

theorem checked_of_le (h : UInt64.size ≤ n) : checked n = none := if_neg (Nat.not_lt.mpr h)

/-! ## Digits -/

variable {base : UInt64} {value : Char → Nat} {c : Char} {cs : List Char}

/-- One digit more behind a number. -/
def wordDigit? (base : UInt64) (value : Char → Nat) (w : UInt64) (c : Char) : Option UInt64 :=
  (checkedMul w base).bind fun product => checkedAdd product (UInt64.ofNat (value c))

/-- The word for the number that digits write, most significant first, if there is one. -/
def wordOfDigits? (base : UInt64) (value : Char → Nat) (cs : List Char) : Option UInt64 :=
  cs.foldlM (wordDigit? base value) 0

theorem wordDigit?_eq (hvalue : value c < UInt64.size) (w : UInt64) :
    wordDigit? base value w c = checked (base.toNat * w.toNat + value c) := by
  rw [wordDigit?, checkedMul, Nat.mul_comm]
  rcases Nat.lt_or_ge (base.toNat * w.toNat) UInt64.size with hlt | hle
  · have hproduct : (UInt64.ofNat (base.toNat * w.toNat)).toNat = base.toNat * w.toNat :=
      UInt64.toNat_ofNat_of_lt' hlt
    rw [checked_eq_some_iff.mpr hproduct, Option.bind_some, checkedAdd, hproduct,
      UInt64.toNat_ofNat_of_lt' hvalue]
  · rw [checked_of_le hle, checked_of_le (Nat.le_trans hle (Nat.le_add_right _ _)), Option.bind_none]

/-- A number does not get smaller by more digits. -/
theorem le_foldl_digits (hbase : 0 < base.toNat) : ∀ (cs : List Char) (n : Nat),
    n ≤ cs.foldl (fun n c => base.toNat * n + value c) n
  | [], n => Nat.le_refl n
  | _ :: cs, n =>
      Nat.le_trans (Nat.le_mul_of_pos_left n hbase)
        (Nat.le_trans (Nat.le_add_right _ _) (le_foldl_digits hbase cs _))

theorem foldlM_wordDigit? (hbase : 0 < base.toNat) (hvalue : ∀ c, value c < UInt64.size) :
    ∀ (cs : List Char) (w : UInt64), cs.foldlM (wordDigit? base value) w
      = checked (cs.foldl (fun n c => base.toNat * n + value c) w.toNat)
  | [], w => (checked_toNat w).symm
  | c :: cs, w => by
      rw [List.foldlM_cons, wordDigit?_eq (hvalue c), List.foldl_cons]
      rcases Nat.lt_or_ge (base.toNat * w.toNat + value c) UInt64.size with hlt | hle
      · have hword := UInt64.toNat_ofNat_of_lt' hlt
        rw [checked_eq_some_iff.mpr hword]
        refine (foldlM_wordDigit? hbase hvalue cs _).trans ?_
        rw [hword]
      · rw [checked_of_le hle, checked_of_le (Nat.le_trans hle (le_foldl_digits hbase cs _))]
        rfl

/-- **Digits are read in words as they are in exact numbers**, unless the number they write is out of
range. -/
theorem wordOfDigits?_eq (hbase : 0 < base.toNat) (hvalue : ∀ c, value c < UInt64.size)
    (cs : List Char) : wordOfDigits? base value cs
      = checked (cs.foldl (fun n c => base.toNat * n + value c) 0) :=
  foldlM_wordDigit? hbase hvalue cs 0

end Spreadsheet
