import Spreadsheet.Proofs.Formula.PlainText
import Spreadsheet.Proofs.Sheet.Names

/-!
# Proofs/Formula/ReferenceNames — references are spelled in capitals

The scanner takes letters followed by digits for a reference and writes the letters as capitals.  So
every name in a formula is its own canonical name (`canonicalName_of_mem_references`), and cells are
looked up by the very name the formula holds.
-/

namespace Spreadsheet

open Text

/-- A reference as the scanner writes it: capital letters, then digits. -/
def IsReferenceName (cs : List Char) : Prop :=
  ∃ letters digits, letters ≠ [] ∧ digits ≠ [] ∧ (∀ c ∈ letters, c.isUpper = true)
    ∧ (∀ c ∈ digits, c.isDigit = true) ∧ cs = letters ++ digits

theorem IsReferenceName.map_toUpper {cs : List Char} (h : IsReferenceName cs) :
    cs.map Char.toUpper = cs := by
  obtain ⟨letters, digits, -, -, hletters, hdigits, rfl⟩ := h
  refine (List.map_congr_left fun c hc => ?_).trans (List.map_id _)
  rcases List.mem_append.mp hc with hc | hc
  · exact toUpper_of_isUpper (hletters c hc)
  · exact toUpper_of_isDigit (hdigits c hc)

/-- A reference word in capitals is letters and digits. -/
theorem isReferenceName_map_toUpper {word : List Char} (h : isReferenceWord word = true) :
    IsReferenceName (word.map Char.toUpper) := by
  simp only [isReferenceWord, Bool.and_eq_true, bne_iff_ne, List.all_eq_true] at h
  obtain ⟨⟨hletters, hdigits⟩, hall⟩ := h
  refine ⟨(word.takeWhile Char.isAlpha).map Char.toUpper,
    (word.dropWhile Char.isAlpha).map Char.toUpper, by simpa using hletters, by simpa using hdigits,
    fun c hc => ?_, fun c hc => ?_, ?_⟩
  · obtain ⟨d, hd, rfl⟩ := List.mem_map.mp hc
    exact isUpper_toUpper (List.mem_takeWhile_imp hd)
  · obtain ⟨d, hd, rfl⟩ := List.mem_map.mp hc
    rw [isDigit_toUpper]
    exact hall d hd
  · rw [← List.map_append, List.takeWhile_append_dropWhile]

/-- The function words are no references. -/
theorem wordToken_of_isReferenceWord {word : List Char} (h : isReferenceWord word = true) :
    wordToken word = .reference (String.ofList (word.map Char.toUpper)) := by
  have hne : ∀ {other : List Char}, isReferenceWord other = false → word ≠ other := by
    rintro other hother rfl
    rw [h] at hother
    cases hother
  rw [wordToken, if_neg (hne (by decide)), if_neg (hne (by decide)), if_neg (hne (by decide)),
    if_pos h]

theorem wordToken_eq_reference_iff {word : List Char} {name : String} :
    wordToken word = .reference name ↔
      isReferenceWord word = true ∧ name = String.ofList (word.map Char.toUpper) := by
  constructor
  · intro h
    have hword : isReferenceWord word = true := by
      by_contra hword
      rw [wordToken, if_neg hword] at h
      repeat' split at h
      all_goals cases h
    rw [wordToken_of_isReferenceWord hword] at h
    exact ⟨hword, (Token.reference.inj h).symm⟩
  · rintro ⟨hword, rfl⟩
    exact wordToken_of_isReferenceWord hword

theorem Read.isReferenceName {name : String} {span rest : List Char}
    (h : Read (.reference name) span rest) : IsReferenceName name.toList := by
  obtain ⟨c, cs, -, -, -, -, htoken⟩ := h.word_of_reference
  obtain ⟨hword, rfl⟩ := wordToken_eq_reference_iff.mp htoken
  rw [String.toList_ofList]
  exact isReferenceName_map_toUpper hword

/-- **The names in a formula are capital letters followed by digits.** -/
theorem isReferenceName_of_mem_references {text : String} {e : Expr} {name : String}
    (h : parseFormula text = .ok e) (hname : name ∈ e.references) :
    IsReferenceName name.toList := by
  rw [Expr.mem_references_iff, leaves_of_parse (parseFormula_ok h), List.mem_filter] at hname
  have hshape := forall_mem_tokens (P := fun token => ∀ name, token = .reference name →
    IsReferenceName name.toList) 0 text.toList fun {token span rest} _ hread => by
      rintro name rfl
      exact hread.isReferenceName
  exact hshape _ hname.1 name rfl

theorem canonicalName_of_mem_references {text : String} {e : Expr} {name : String}
    (h : parseFormula text = .ok e) (hname : name ∈ e.references) : canonicalName name = name := by
  rw [canonicalName, (isReferenceName_of_mem_references h hname).map_toUpper, String.ofList_toList]

end Spreadsheet
