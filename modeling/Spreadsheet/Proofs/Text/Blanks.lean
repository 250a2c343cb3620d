import Mathlib.Data.List.DropRight
import Spreadsheet.Text.Blank

/-!
# Proofs/Text/Blanks — cutting white space off the ends of a text

What is cut off two texts is cut off the second, as long as something is left of it
(`trimEnd_append`).  A text is its trimmed form between two runs of white space
(`exists_blanks_trim`), and what has no blanks is what is left between them (`trim_enclosed`).
-/

namespace Spreadsheet.Text

variable {c d : Char} {cs xs ys before after : List Char}

/-! ## Blanks at the end -/

theorem trimEnd_append (xs ys : List Char) :
    trimEnd (xs ++ ys) = if trimEnd ys = [] then trimEnd xs else xs ++ trimEnd ys := by
  rw [trimEnd, List.reverse_append, List.dropWhile_append]
  simp only [trimEnd, List.isEmpty_iff, List.reverse_eq_nil_iff]
  split
  · rfl
  · rw [List.reverse_append, List.reverse_reverse]

theorem trimEnd_append_of_ne_nil (h : trimEnd ys ≠ []) : trimEnd (xs ++ ys) = xs ++ trimEnd ys := by
  rw [trimEnd_append, if_neg h]

theorem trimEnd_append_of_blanks (h : ∀ c ∈ ys, isBlank c = true) :
    trimEnd (xs ++ ys) = trimEnd xs := by
  have hnil : trimEnd ys = [] := List.rdropWhile_eq_nil_iff.mpr h
  rw [trimEnd_append, if_pos hnil]

theorem trimEnd_eq_self (h : ∀ c ∈ cs, isBlank c = false) : trimEnd cs = cs :=
  List.rdropWhile_eq_self_iff.mpr fun hne => by simp [h _ (List.getLast_mem hne)]

theorem isPrefix_trimEnd (cs : List Char) : trimEnd cs <+: cs := List.rdropWhile_prefix isBlank cs

/-- What is left of a text is left of it behind another character. -/
theorem mem_trimEnd_cons (hne : c ≠ d) : c ∈ trimEnd (d :: cs) ↔ c ∈ trimEnd cs := by
  rw [← List.singleton_append, trimEnd_append]
  split
  · rename_i h
    have hd : c ∉ trimEnd [d] := fun hc => by
      simpa [hne] using (isPrefix_trimEnd [d]).subset hc
    simp [h, hd]
  · simp [hne]

/-! ## Blanks at both ends -/

/-- A text is its trimmed form between two runs of white space. -/
theorem exists_blanks_trim (cs : List Char) :
    ∃ before after, (∀ c ∈ before, isBlank c = true) ∧ (∀ c ∈ after, isBlank c = true)
      ∧ cs = before ++ (trim cs ++ after) := by
  refine ⟨cs.takeWhile isBlank, ((trimStart cs).reverse.takeWhile isBlank).reverse, ?_, ?_, ?_⟩
  · exact fun c hc => List.all_eq_true.mp (List.all_takeWhile (p := isBlank) (l := cs)) c hc
  · intro c hc
    rw [List.mem_reverse] at hc
    exact List.all_eq_true.mp (List.all_takeWhile (p := isBlank)) c hc
  · rw [trim, trimEnd, ← List.reverse_append, List.takeWhile_append_dropWhile, List.reverse_reverse]
    exact List.takeWhile_append_dropWhile.symm

/-- What has no blanks is what is left when the blanks around it are cut off. -/
theorem trim_enclosed (hbefore : ∀ c ∈ before, isBlank c = true)
    (hafter : ∀ c ∈ after, isBlank c = true) (hcs : ∀ c ∈ cs, isBlank c = false) (hne : cs ≠ []) :
    trim (before ++ (cs ++ after)) = cs := by
  obtain ⟨c, rest, rfl⟩ := List.exists_cons_of_ne_nil hne
  have hfirst : ¬ isBlank c = true := Bool.eq_false_iff.mp (hcs c List.mem_cons_self)
  rw [trim, trimStart, List.dropWhile_append_of_pos hbefore, List.cons_append,
    List.dropWhile_cons_of_neg hfirst, ← List.cons_append, trimEnd_append_of_blanks hafter,
    trimEnd_eq_self hcs]

end Spreadsheet.Text
