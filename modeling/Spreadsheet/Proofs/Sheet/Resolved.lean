import Spreadsheet.Proofs.Formula.ReferenceNames
import Spreadsheet.Proofs.Formula.Texts
import Spreadsheet.Proofs.Sheet.Indices
import Spreadsheet.Proofs.Sheet.Spellings

/-!
# Proofs/Sheet/Resolved — what a name leads to

Three readers take a name: it is read as a position, as a formula, and as that of a cell.  On the name
of a position they agree in letters of either case (`name_exact`).  Where the row begins with a zero
they do not: such a name denotes a position, but it leads to no cell (`resolve_exact`), because cells
are found by their names, which are spelled without.
-/

namespace Spreadsheet

open Text

variable {text name : String} {p : Position} {s : Sheet} {id : CellId}
  {letters digits : List Char}

/-! ## A name as a formula -/

/-- **Letters followed by digits are a formula**, the reference to their name in capitals. -/
theorem IsSpelled.parseFormula_eq (h : IsSpelled text.toList letters digits) :
    parseFormula text = .ok (.reference (canonicalName text)) := by
  have hword := (isSpelled_iff.mp h).1
  obtain ⟨c, cs, hcs⟩ := List.exists_cons_of_ne_nil h.letters_ne
  have hletter : c.isAlpha = true := h.isAlpha c (hcs ▸ List.mem_cons_self)
  have htext : text.toList = c :: (cs ++ digits) := by rw [h.eq, hcs, List.cons_append]
  have htail : ∀ d ∈ cs ++ digits, isWordChar d = true := fun d hd => by
    rcases List.mem_append.mp hd with hd | hd
    · exact isWordChar_of_isAlpha (h.isAlpha d (hcs ▸ List.mem_cons_of_mem c hd))
    · exact isWordChar_of_isDigit (h.isDigit d hd)
  have hread : Read (.reference (canonicalName text)) text.toList [] := by
    rw [htext] at hword
    rw [canonicalName, htext, ← wordToken_of_isReferenceWord hword]
    exact .word hletter htail stops_nil
  have hcuts : Cuts text.toList [] [.reference (canonicalName text)] := by
    have := hread.whole_cuts .nil
    rwa [List.append_nil] at this
  exact parseFormula_eq_ok_iff_cuts.mpr
    ⟨_, hcuts, .unmarked (.comparison (.unsigned (.reference _)))⟩

/-! ## A name as that of a cell -/

namespace Sheet

/-- A name that denotes a position leads to what is there, unless its row begins with a zero. -/
theorem lookup_of_ofName? (h : Position.ofName? name = some p) :
    s.lookup name = if IsPadded name then none else s.idAt p := by
  rw [lookup, h]
  dsimp only
  by_cases hpadded : IsPadded name
  · rw [if_pos hpadded, if_neg fun heq => (name_eq_canonicalName_iff h).mp heq hpadded]
  · rw [if_neg hpadded, if_pos ((name_eq_canonicalName_iff h).mpr hpadded)]

/-- It leads nowhere when the position is outside the grid, or the row begins with a zero. -/
theorem Consistent.lookup_eq_none_iff (hs : s.Consistent) (h : Position.ofName? name = some p) :
    s.lookup name = none ↔ ¬(p.row < s.rows ∧ p.col < s.cols) ∨ IsPadded name := by
  rw [lookup_of_ofName? h, ← hs.idAt_isSome_iff]
  by_cases hpadded : IsPadded name <;> simp [hpadded]

/-- **Where a name leads**: it is no reference exactly when it denotes no position, it is unknown
exactly when it denotes a position outside the grid or its row begins with a zero, and otherwise it
leads to the cell at the position it denotes. -/
theorem resolve_exact (hs : s.Consistent) (name : String) :
    (s.resolve name = .error (.invalidReference name) ↔ Position.ofName? name = none)
      ∧ (s.resolve name = .error (.unknownCell name) ↔ ∃ p, Position.ofName? name = some p
          ∧ (¬(p.row < s.rows ∧ p.col < s.cols) ∨ IsPadded name))
      ∧ ∀ p, Position.ofName? name = some p → p.row < s.rows → p.col < s.cols → ¬IsPadded name →
          ∃ id, s.idAt p = some id ∧ s.resolve name = .ok id := by
  cases h : Position.ofName? name with
  | none =>
    have hresolve : s.resolve name = .error (.invalidReference name) := by
      rw [resolve, h]
    simp [hresolve]
  | some p =>
    have hnone := hs.lookup_eq_none_iff h
    cases hlookup : s.lookup name with
    | none =>
      have hresolve : s.resolve name = .error (.unknownCell name) := by
        rw [resolve, h, hlookup]
      have hout := hnone.mp hlookup
      refine ⟨by simp [hresolve], iff_of_true hresolve ⟨p, rfl, hout⟩, ?_⟩
      rintro q hq hrow hcol hpadded
      obtain rfl := Option.some.inj hq
      exact absurd hout (not_or.mpr ⟨not_not.mpr ⟨hrow, hcol⟩, hpadded⟩)
    | some id =>
      have hresolve : s.resolve name = .ok id := by
        rw [resolve, h, hlookup]
      have hin : ¬(¬(p.row < s.rows ∧ p.col < s.cols) ∨ IsPadded name) := fun hout => by
        rw [hnone.mpr hout] at hlookup
        cases hlookup
      refine ⟨by simp [hresolve], iff_of_false (by simp [hresolve]) ?_, ?_⟩
      · rintro ⟨q, hq, hout⟩
        obtain rfl := Option.some.inj hq
        exact hin hout
      · rintro q hq - - hpadded
        obtain rfl := Option.some.inj hq
        rw [lookup_of_ofName? h, if_neg hpadded] at hlookup
        exact ⟨id, hlookup, hresolve⟩

/-- In a sheet of one cell: a name with the row zero, a name outside, and the name of the cell. -/
theorem resolve_exact_blank : (blank 1 1).Consistent
    ∧ (blank 1 1).resolve "A0" = .error (.invalidReference "A0")
    ∧ (blank 1 1).resolve "A2" = .error (.unknownCell "A2")
    ∧ ∃ id, (blank 1 1).idAt ⟨0, 0⟩ = some id ∧ (blank 1 1).resolve "a1" = .ok id := by
  have hs := consistent_blank 1 1
  refine ⟨hs, (resolve_exact hs "A0").1.mpr (by decide), (resolve_exact hs "A2").2.1.mpr ?_,
    (resolve_exact hs "a1").2.2 ⟨0, 0⟩ (by decide) ?_ ?_ (by decide)⟩
  · exact ⟨⟨1, 0⟩, by decide, .inl (by simp [rows_blank])⟩
  · simp [rows_blank]
  · simp [cols_blank]

/-- **A name can be unknown although the position it denotes is in the grid.** -/
theorem unknown_inside_grid : (blank 1 1).Consistent
    ∧ ¬((blank 1 1).resolve "A01" = .error (.unknownCell "A01") ↔
      ∃ p, Position.ofName? "A01" = some p
        ∧ ¬(p.row < (blank 1 1).rows ∧ p.col < (blank 1 1).cols)) := by
  have hname : Position.ofName? "A01" = some ⟨0, 0⟩ := by decide
  have hresolve : (blank 1 1).resolve "A01" = .error (.unknownCell "A01") := by
    rw [resolve, hname, lookup_of_ofName? hname, if_pos (by decide)]
  refine ⟨consistent_blank 1 1, fun h => ?_⟩
  obtain ⟨p, hp, hout⟩ := h.mp hresolve
  obtain rfl := Option.some.inj (hname.symm.trans hp)
  exact hout (by simp [rows_blank, cols_blank])

end Sheet

/-! ## The three readers together -/

namespace Position

theorem toNat_words (h : p.InLimit) : p.words.1.toNat = p.row ∧ p.words.2.toNat = p.col :=
  ⟨UInt64.toNat_ofNat_of_lt' (Nat.lt_of_succ_lt h.1),
    UInt64.toNat_ofNat_of_lt' (Nat.lt_of_succ_lt h.2)⟩

/-- **The names of positions.**  In letters of either case, the name of a position is read as that
position, in machine words too, it is the formula that refers to it, and in every sheet that has the
position it leads to the cell there.  What else denotes a position is its name but for case and for
zeros in front of the row; and nothing else does but letters and digits whose numbers are in range,
the row not zero. -/
theorem name_exact :
    (∀ p : Position, p.InLimit → ∀ text, canonicalName text = p.name →
        ofName? text = some p
          ∧ (∃ row col, ofWords? text = some (row, col) ∧ row.toNat = p.row ∧ col.toNat = p.col)
          ∧ parseFormula text = .ok (.reference p.name)
          ∧ ∀ s : Sheet, s.Consistent → p.row < s.rows → p.col < s.cols →
              ∃ id, s.idAt p = some id ∧ s.lookup text = some id ∧ s.resolve text = .ok id)
      ∧ (∀ text p, ofName? text = some p → p.InLimit ∧ ∃ letters digits,
          IsSpelled text.toList letters digits
            ∧ p.name = String.ofList (letters.map Char.toUpper ++ digits.dropWhile (· = '0')))
      ∧ (∀ text, ofName? text = none ↔
          (¬∃ letters digits, IsSpelled text.toList letters digits)
            ∨ ∃ letters digits, IsSpelled text.toList letters digits ∧ (natOfDigits digits = 0
              ∨ indexLimit ≤ natOfDigits digits ∨ indexLimit ≤ columnNumber letters))
      ∧ ∀ text, ofWords? text = (ofName? text).map words := by
  refine ⟨fun p hp text htext => ?_, fun text p h => ?_, fun text => ofName?_eq_none_iff, ofWords?_eq⟩
  · have h := ofName?_of_canonicalName_eq hp htext
    obtain ⟨letters, digits, hspelled, -⟩ := ofName?_eq_some_iff.mp h
    refine ⟨h, ?_, htext ▸ hspelled.parseFormula_eq, fun s hs hrow hcol => ?_⟩
    · exact ⟨_, _, (ofWords?_eq text).trans (congrArg (Option.map words) h), toNat_words hp⟩
    · obtain ⟨id, hid⟩ := Option.isSome_iff_exists.mp (hs.idAt_isSome_iff.mpr ⟨hrow, hcol⟩)
      have hlookup : s.lookup text = some id := by
        rw [Sheet.lookup, h]
        exact (if_pos htext.symm).trans hid
      exact ⟨id, hid, hlookup, Sheet.resolve_eq_ok_iff.mpr hlookup⟩
  · obtain ⟨letters, digits, hspelled, hrow, hcol, hlimit⟩ := ofName?_eq_some_iff.mp h
    exact ⟨hlimit, letters, digits, hspelled,
      congrArg String.ofList (hspelled.nameChars_eq hrow hcol)⟩

/-- A cell in the 28th column, by a name in mixed case; its name with a zero in front of the row; and
a name with the row zero. -/
theorem name_exact_mixed_case :
    ofName? "aB10" = some ⟨9, 27⟩
      ∧ parseFormula "aB10" = .ok (.reference "AB10")
      ∧ (∃ id, (Sheet.blank 10 28).idAt ⟨9, 27⟩ = some id
        ∧ (Sheet.blank 10 28).resolve "aB10" = .ok id)
      ∧ (∃ letters digits, IsSpelled "ab010".toList letters digits
        ∧ "AB10" = String.ofList (letters.map Char.toUpper ++ digits.dropWhile (· = '0')))
      ∧ ofName? "AB0" = none := by
  have hname : (⟨9, 27⟩ : Position).name = "AB10" := by decide +kernel
  obtain ⟨hread, -, hparse, hsheet⟩ := name_exact.1 ⟨9, 27⟩
    ⟨by decide +kernel, by decide +kernel⟩ "aB10" (by decide +kernel)
  obtain ⟨id, hid, -, hresolve⟩ := hsheet (Sheet.blank 10 28) (Sheet.consistent_blank 10 28)
    (by simp [Sheet.rows_blank]) (by simp [Sheet.cols_blank])
  rw [hname] at hparse
  have hzero := (name_exact.2.1 "ab010" ⟨9, 27⟩ (by decide +kernel)).2
  rw [hname] at hzero
  have hspelled : IsSpelled "AB0".toList ['A', 'B'] ['0'] :=
    ⟨by decide, by decide, List.all_eq_true.mp (by decide), List.all_eq_true.mp (by decide), rfl⟩
  exact ⟨hread, hparse, ⟨id, hid, hresolve⟩, hzero,
    (name_exact.2.2.1 "AB0").mpr (.inr ⟨_, _, hspelled, .inl (by decide)⟩)⟩

end Position

end Spreadsheet
