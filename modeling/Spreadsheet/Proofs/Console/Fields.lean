import Spreadsheet.Console.Display
import Spreadsheet.Proofs.Text.Blanks

/-!
# Proofs/Console/Fields — where the fields of a line begin

A line is its heading and a field for each column, without the blanks at its end.  The bar in front
of a field is no blank, so nothing before the last field is cut off (`line_eq_append`), and a field
begins where its column does when the entries before it fit theirs (`showsAt_line`).
-/

namespace Spreadsheet

open Text

namespace Display

variable {width : Nat → Nat} {entry : Nat → List Char} {heading text : List Char}
  {col count n : Nat} {c : Char}

/-! ## The fields of a line -/

/-- A text behind a bar. -/
def behindBar (text : List Char) : List Char := [' ', '|', ' '] ++ text

/-- The fields of some columns: behind bars, the entries filled up to the widths of the columns. -/
def fieldsFrom (width : Nat → Nat) (entry : Nat → List Char) (first count : Nat) : List Char :=
  (List.range' first count).flatMap fun col => behindBar (padRight (width col) (entry col))

/-- Where the field of a column begins behind a heading. -/
def offset (width : Nat → Nat) (headingWidth : Nat) : Nat → Nat
  | 0 => headingWidth
  | col + 1 => offset width headingWidth col + (width col + 3)

theorem fieldsFrom_succ (width : Nat → Nat) (entry : Nat → List Char) (first count : Nat) :
    fieldsFrom width entry first (count + 1)
      = behindBar (padRight (width first) (entry first))
        ++ fieldsFrom width entry (first + 1) count := by
  rw [fieldsFrom, List.range'_succ, List.flatMap_cons]
  rfl

theorem fieldsFrom_add (width : Nat → Nat) (entry : Nat → List Char) (first m n : Nat) :
    fieldsFrom width entry first (m + n)
      = fieldsFrom width entry first m ++ fieldsFrom width entry (first + m) n := by
  rw [fieldsFrom, ← List.range'_append_1, List.flatMap_append]
  rfl

theorem fieldsFrom_one (width : Nat → Nat) (entry : Nat → List Char) (col : Nat) :
    fieldsFrom width entry col 1 = behindBar (padRight (width col) (entry col)) := by
  rw [fieldsFrom_succ, fieldsFrom, List.range'_zero, List.flatMap_nil, List.append_nil]

theorem length_behindBar (text : List Char) : (behindBar text).length = text.length + 3 := by
  rw [behindBar, List.length_append, Nat.add_comm]
  rfl

theorem length_padLeft {w : Nat} (h : text.length ≤ w) : (padLeft w text).length = w := by
  rw [padLeft, List.length_append, List.length_replicate]
  omega

theorem length_padRight {w : Nat} (h : text.length ≤ w) : (padRight w text).length = w := by
  rw [padRight, List.length_append, List.length_replicate]
  omega

/-- The fields of entries that fit end where the next column begins. -/
theorem length_fieldsFrom (headingWidth : Nat) (hfit : ∀ i < col, (entry i).length ≤ width i) :
    headingWidth + (fieldsFrom width entry 0 col).length = offset width headingWidth col := by
  induction col with
  | zero => rfl
  | succ col ih =>
    rw [fieldsFrom_add, Nat.zero_add, fieldsFrom_one, List.length_append, length_behindBar,
      length_padRight (hfit col (Nat.lt_succ_self col)), ← Nat.add_assoc,
      ih fun i hi => hfit i (Nat.lt_succ_of_lt hi), offset]

/-- A line with fields for the first columns is its heading and these, cut off at the end. -/
theorem line_eq (heading : List Char) (width : Nat → Nat) (entry : Nat → List Char)
    (h : count ≤ n) :
    line heading ((List.range n).map width) ((List.range count).map entry)
      = trimEnd (heading ++ fieldsFrom width entry 0 count) := by
  have hzip : ((List.range count).map entry).zip ((List.range n).map width)
      = (List.range count).map fun i => (entry i, width i) := by
    rw [List.zip_eq_zip_take_min, ← List.map_take, ← List.map_take, List.take_range,
      List.take_range, List.length_map, List.length_map, List.length_range, List.length_range,
      Nat.min_eq_left h, Nat.min_self, Nat.min_eq_left h, List.zip_map']
  rw [line, hzip, List.flatMap_map, List.range_eq_range']
  rfl

/-! ## What stays of a line -/

theorem trimEnd_behindBar (text : List Char) :
    trimEnd (behindBar text) = [' ', '|'] ++ trimEnd (' ' :: text) := by
  show trimEnd ([' ', '|'] ++ ' ' :: text) = _
  rw [trimEnd_append]
  split
  · rename_i h
    rw [h]
    decide
  · rfl

theorem trimEnd_fieldsFrom_ne_nil (h : 0 < count) :
    trimEnd (fieldsFrom width entry col count) ≠ [] := by
  obtain ⟨count, rfl⟩ := Nat.exists_eq_add_of_lt h
  rw [Nat.zero_add, fieldsFrom_succ, behindBar, List.append_assoc]
  exact (trimEnd_behindBar _).trans_ne (by simp)

/-- Filling a field up adds only what is cut off at the end of a line. -/
theorem trimEnd_field (n : Nat) (text : List Char) :
    trimEnd (behindBar (padRight n text)) = trimEnd (behindBar text) := by
  rw [behindBar, padRight, ← List.append_assoc]
  exact trimEnd_append_of_blanks fun c hc => List.eq_of_mem_replicate hc ▸ rfl

/-- Only the last of some fields is cut. -/
theorem trimEnd_fieldsFrom_succ (h : 0 < count) :
    trimEnd (fieldsFrom width entry col (count + 1))
      = behindBar (padRight (width col) (entry col))
        ++ trimEnd (fieldsFrom width entry (col + 1) count) := by
  rw [fieldsFrom_succ, trimEnd_append_of_ne_nil (trimEnd_fieldsFrom_ne_nil h)]

/-- Where the first of some fields begins, its entry stands behind a bar, but for blanks at the
end. -/
theorem behindBar_prefix_or (h : 0 < count) :
    behindBar (entry col) <+: trimEnd (fieldsFrom width entry col count)
      ∨ trimEnd (fieldsFrom width entry col count) = trimEnd (behindBar (entry col)) := by
  obtain ⟨count, rfl⟩ := Nat.exists_eq_add_of_lt h
  rw [Nat.zero_add]
  rcases Nat.eq_zero_or_pos count with rfl | hpos
  · exact .inr (by rw [fieldsFrom_one, trimEnd_field])
  · refine .inl ?_
    rw [trimEnd_fieldsFrom_succ hpos, padRight, behindBar, behindBar, ← List.append_assoc,
      List.append_assoc]
    exact List.prefix_append _ _

theorem mem_behindBar_padRight (hspace : c ≠ ' ') (hbar : c ≠ '|') (n : Nat) :
    c ∈ behindBar (padRight n text) ↔ c ∈ text := by
  simp [behindBar, padRight, hspace, hbar]

theorem mem_trimEnd_behindBar (hspace : c ≠ ' ') (hbar : c ≠ '|') :
    c ∈ trimEnd (behindBar text) ↔ c ∈ trimEnd text := by
  rw [trimEnd_behindBar, List.mem_append, mem_trimEnd_cons hspace]
  simp [hspace, hbar]

/-- **What is left of some fields**: a character that is neither a space nor a bar is left when it
is left of an entry, or stands in an entry that is not the last. -/
theorem mem_trimEnd_fieldsFrom (hspace : c ≠ ' ') (hbar : c ≠ '|') :
    ∀ {col count : Nat}, c ∈ trimEnd (fieldsFrom width entry col count) ↔
      ∃ i ∈ List.range' col count,
        c ∈ trimEnd (entry i) ∨ c ∈ entry i ∧ i + 1 < col + count := by
  intro col count
  induction count generalizing col with
  | zero => simp [fieldsFrom]
  | succ count ih =>
    rw [List.range'_succ, List.exists_mem_cons_iff]
    rcases Nat.eq_zero_or_pos count with rfl | hpos
    · rw [fieldsFrom_one, trimEnd_field, mem_trimEnd_behindBar hspace hbar]
      simp
    · rw [trimEnd_fieldsFrom_succ hpos, List.mem_append, mem_behindBar_padRight hspace hbar, ih,
        Nat.add_right_comm, Nat.add_assoc col]
      refine or_congr_left ⟨fun h => .inr ⟨h, by omega⟩, ?_⟩
      rintro (h | h)
      · exact (isPrefix_trimEnd _).subset h
      · exact h.1

/-! ## Where a field begins -/

/-- A line shows an entry at an offset: in a line that is long enough a bar and the entry stand
there, and in one that ends earlier what is left of them without the blanks at the end. -/
structure ShowsAt (line : List Char) (offset : Nat) (entry : List Char) : Prop where
  whole : offset + (behindBar entry).length ≤ line.length → behindBar entry <+: line.drop offset
  cut : offset < line.length → line.length < offset + (behindBar entry).length →
    line.drop offset = trimEnd (behindBar entry)

theorem showsAt_append {front rest text : List Char}
    (h : behindBar text <+: rest ∨ rest = trimEnd (behindBar text)) :
    ShowsAt (front ++ rest) front.length text := by
  refine ⟨fun hlong => ?_, fun _ hshort => ?_⟩
  · rw [List.length_append] at hlong
    rw [List.drop_left]
    rcases h with h | rfl
    · exact h
    · have hwhole := (isPrefix_trimEnd (behindBar text)).eq_of_length_le (by omega)
      exact ⟨[], (List.append_nil _).trans hwhole.symm⟩
  · rw [List.length_append] at hshort
    rw [List.drop_left]
    rcases h with h | h
    · have := h.length_le
      omega
    · exact h

/-- Behind the fields of the columns before one stand the fields of the others. -/
theorem line_eq_append (hcol : col < count) (hn : count ≤ n) :
    line heading ((List.range n).map width) ((List.range count).map entry)
      = (heading ++ fieldsFrom width entry 0 col)
        ++ trimEnd (fieldsFrom width entry col (count - col)) := by
  have hcount : count = col + (count - col) := by omega
  rw [line_eq heading width entry hn, hcount, fieldsFrom_add, Nat.zero_add, Nat.add_sub_cancel_left,
    ← List.append_assoc]
  exact trimEnd_append_of_ne_nil (trimEnd_fieldsFrom_ne_nil (by omega))

/-- **A line shows an entry where its column begins**, when the entries before it fit. -/
theorem showsAt_line (heading : List Char) (hfit : ∀ i < col, (entry i).length ≤ width i)
    (hcol : col < count) (hn : count ≤ n) :
    offset width heading.length col
        < (line heading ((List.range n).map width) ((List.range count).map entry)).length
      ∧ ShowsAt (line heading ((List.range n).map width) ((List.range count).map entry))
        (offset width heading.length col) (entry col) := by
  have hoffset : offset width heading.length col
      = (heading ++ fieldsFrom width entry 0 col).length := by
    rw [List.length_append, length_fieldsFrom heading.length hfit]
  have hpos : 0 < count - col := by omega
  rw [line_eq_append hcol hn, hoffset]
  have hrest : 0 < (trimEnd (fieldsFrom width entry col (count - col))).length :=
    List.length_pos_of_ne_nil (trimEnd_fieldsFrom_ne_nil hpos)
  exact ⟨(Nat.lt_add_of_pos_right hrest).trans_eq List.length_append.symm,
    showsAt_append (behindBar_prefix_or hpos)⟩

example : line ['1'] [6, 6] [[], ['b', ' ']] = "1 |        | b".toList := by decide

/-- A line with fewer fields ends before the column. -/
theorem length_line_le (heading : List Char) (hfit : ∀ i < col, (entry i).length ≤ width i)
    (hcol : count ≤ col) (hn : count ≤ n) :
    (line heading ((List.range n).map width) ((List.range count).map entry)).length
      ≤ offset width heading.length col := by
  rw [line_eq heading width entry hn, ← length_fieldsFrom heading.length hfit]
  refine (isPrefix_trimEnd _).length_le.trans ?_
  obtain ⟨more, rfl⟩ := Nat.exists_eq_add_of_le hcol
  rw [List.length_append, fieldsFrom_add, List.length_append]
  omega

/-- A heading that ends with no blank is left whole. -/
theorem heading_prefix_line (hheading : trimEnd heading = heading) (hn : count ≤ n) :
    heading <+: line heading ((List.range n).map width) ((List.range count).map entry) := by
  rw [line_eq heading width entry hn]
  rcases Nat.eq_zero_or_pos count with rfl | hpos
  · rw [fieldsFrom, List.range'_zero, List.flatMap_nil, List.append_nil]
    exact ⟨[], (List.append_nil _).trans hheading.symm⟩
  · rw [trimEnd_append_of_ne_nil (trimEnd_fieldsFrom_ne_nil hpos)]
    exact List.prefix_append _ _

/-- A character that is neither a space nor a bar nor in the heading is in a line when it is left of
an entry, or stands in an entry that is not the last. -/
theorem mem_line (hspace : c ≠ ' ') (hbar : c ≠ '|') (hheading : c ∉ heading) (hn : count ≤ n) :
    c ∈ line heading ((List.range n).map width) ((List.range count).map entry) ↔
      ∃ i < count, c ∈ trimEnd (entry i) ∨ c ∈ entry i ∧ i + 1 < count := by
  have hfields : c ∈ trimEnd (heading ++ fieldsFrom width entry 0 count)
      ↔ c ∈ trimEnd (fieldsFrom width entry 0 count) := by
    have hcut : c ∉ trimEnd heading := fun hc => hheading ((isPrefix_trimEnd heading).subset hc)
    rw [trimEnd_append]
    split
    · rename_i h
      simp [h, hcut]
    · simp [hheading]
  rw [line_eq heading width entry hn, hfields, mem_trimEnd_fieldsFrom hspace hbar,
    ← List.range_eq_range', Nat.zero_add]
  simp only [List.mem_range]

/-! ## Entries -/

theorem length_shorten_le {w : Nat} (hw : 0 < w) (text : List Char) :
    (shorten w text).length ≤ w := by
  rw [shorten]
  split
  · assumption
  · rw [List.length_append, List.length_take, List.length_singleton]
    omega

/-- The empty texts dropped at the end are those behind the last text that is not empty. -/
theorem exists_dropEmptyEnd (entry : Nat → List Char) (n : Nat) :
    ∃ count ≤ n, dropEmptyEnd ((List.range n).map entry) = (List.range count).map entry
      ∧ (∀ i, count ≤ i → i < n → entry i = []) ∧ (0 < count → entry (count - 1) ≠ []) := by
  induction n with
  | zero => exact ⟨0, Nat.le_refl 0, rfl, fun _ _ hi => absurd hi (Nat.not_lt_zero _), nofun⟩
  | succ n ih =>
    obtain ⟨count, hn, hdrop, hempty, hlast⟩ := ih
    have hconcat : dropEmptyEnd ((List.range (n + 1)).map entry)
        = if entry n = [] then dropEmptyEnd ((List.range n).map entry)
          else (List.range (n + 1)).map entry := by
      rw [List.range_succ, List.map_append]
      exact (List.rdropWhile_concat _ _ _).trans (by simp [dropEmptyEnd, List.rdropWhile])
    by_cases h : entry n = []
    · refine ⟨count, by omega, by rw [hconcat, if_pos h, hdrop], fun i hi hin => ?_, hlast⟩
      rcases Nat.lt_succ_iff_lt_or_eq.mp hin with hin | rfl
      · exact hempty i hi hin
      · exact h
    · exact ⟨n + 1, Nat.le_refl _, by rw [hconcat, if_neg h], fun i hi hin => by omega, fun _ => h⟩

end Display

end Spreadsheet
