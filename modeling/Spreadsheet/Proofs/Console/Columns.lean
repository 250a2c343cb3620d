import Spreadsheet.Proofs.Console.Fields
import Spreadsheet.Proofs.Console.SaveAndLoad
import Spreadsheet.Proofs.Sheet.Names

/-!
# Proofs/Console/Columns — the columns of a printed sheet line up

The lines of a table show an entry for each column (`Sheet.entry`): the labels in the first line,
and in the line of a row its values, shortened.  Values fit their columns, and labels of up to six
letters do, so every line has its columns where the others have them (`Sheet.tabulates_tableLines`).

A value may hold line feeds, and they are printed as they are.  The printed table splits into one
line for each row exactly when no row has one left (`Sheet.display_columns`).
-/

namespace Spreadsheet

open Text

namespace Sheet

open Display

variable {s : Sheet} {row col k : Nat}

/-! ## The entries of a sheet -/

/-- What a line of the table shows in a column: the label of the column in the first line, and the
value there, shortened, in the line of a row. -/
def entry (s : Sheet) : Nat → Nat → List Char
  | 0, col => columnLetters col
  | row + 1, col => shorten maxWidth (s.shownAt ⟨row, col⟩)

/-- What a line of the table begins with: nothing in the first line, and the number of the row in
the others. -/
def rowLabel : Nat → List Char
  | 0 => []
  | row + 1 => Nat.toDigits 10 (row + 1)

/-- The labels of the columns before one fit their columns. -/
def LabelsFit (s : Sheet) (col : Nat) : Prop :=
  ∀ i < col, (columnLetters i).length ≤ s.columnWidth i

/-- A value breaks the line of its row: it has a line feed that stays when the blanks at its end are
cut off, or one that stays because another value is shown behind it. -/
def BreaksLine (s : Sheet) (row : Nat) : Prop :=
  ∃ col < s.cols, '\n' ∈ trimEnd (s.entry (row + 1) col)
    ∨ '\n' ∈ s.entry (row + 1) col
      ∧ ∃ later < s.cols, col < later ∧ s.entry (row + 1) later ≠ []

theorem columnWidth_pos (s : Sheet) (col : Nat) : 0 < s.columnWidth col := by
  have hpos : 0 < minWidth ∧ 0 < maxWidth := by decide
  exact Nat.lt_min.mpr ⟨hpos.1.trans_le (Nat.le_max_right _ _), hpos.2⟩

theorem columnWidth_le (s : Sheet) (col : Nat) : s.columnWidth col ≤ maxWidth :=
  Nat.min_le_right _ _

/-- A column is as wide as each of its values, up to the greatest width. -/
theorem min_length_le_columnWidth (hrow : row < s.rows) :
    min (s.shownAt ⟨row, col⟩).length maxWidth ≤ s.columnWidth col := by
  have hmem : (s.shownAt ⟨row, col⟩).length
      ∈ (List.range s.rows).map fun row => (s.shownAt ⟨row, col⟩).length :=
    List.mem_map_of_mem (List.mem_range.mpr hrow)
  have hle := List.le_max?_getD_of_mem (k := 0) hmem
  rw [columnWidth, List.foldl_max]
  exact Nat.le_min.mpr ⟨(Nat.min_le_left _ _).trans ((hle.trans (Nat.le_max_right _ _)).trans
    (Nat.le_max_left _ _)), Nat.min_le_right _ _⟩

/-- To shorten a value to the width of its column is to shorten it to the greatest width. -/
theorem shorten_columnWidth (hrow : row < s.rows) :
    shorten (s.columnWidth col) (s.shownAt ⟨row, col⟩) = s.entry (row + 1) col := by
  have hmin : min (s.shownAt ⟨row, col⟩).length maxWidth ≤ s.columnWidth col :=
    min_length_le_columnWidth hrow
  have hmax := s.columnWidth_le col
  rw [entry, shorten, shorten]
  by_cases h : (s.shownAt ⟨row, col⟩).length ≤ maxWidth
  · rw [if_pos h, if_pos (by omega)]
  · have hwidth : s.columnWidth col = maxWidth := by omega
    rw [hwidth]

/-- The labels of the first columns have at most six letters, and fit any column. -/
theorem labelsFit_of_le (hcol : col ≤ 321272406) : s.LabelsFit col := by
  intro i hi
  have hcount : labelCount minWidth = 321272406 := by decide
  have hlength : (columnLetters i).length ≤ minWidth :=
    length_columnLetters_le_iff.mpr (by omega)
  exact hlength.trans (Nat.le_min.mpr ⟨Nat.le_max_right _ _, by decide⟩)

theorem length_entry_le_maxWidth (s : Sheet) (row col : Nat) :
    (s.entry (row + 1) col).length ≤ maxWidth :=
  length_shorten_le (by decide) _

/-- The entries of a row fit their columns, and the labels of the columns do where they are said
to. -/
theorem length_entry_le (hk : k ≤ s.rows) (hlabels : k = 0 → s.LabelsFit col) :
    ∀ i < col, (s.entry k i).length ≤ s.columnWidth i := by
  cases k with
  | zero => exact hlabels rfl
  | succ row =>
    intro i _
    rw [← shorten_columnWidth hk]
    exact length_shorten_le (s.columnWidth_pos i) _

/-! ## The lines of the table -/

/-- No row has a longer number than the last one. -/
theorem length_rowLabel_le (hk : k ≤ s.rows) : (rowLabel k).length ≤ s.rowLabelWidth := by
  cases k with
  | zero => exact Nat.zero_le _
  | succ row =>
    have hrows : s.rows < 10 ^ s.rowLabelWidth :=
      (Nat.length_toDigits_le_iff (by decide) Nat.length_toDigits_pos).mp (Nat.le_refl _)
    exact (Nat.length_toDigits_le_iff (by decide) Nat.length_toDigits_pos).mpr (hk.trans_lt hrows)

theorem length_tableLines (s : Sheet) : s.tableLines.length = s.rows + 1 := by
  simp [tableLines]

theorem le_rows_of_tableLines {text : List Char} (h : s.tableLines[k]? = some text) :
    k ≤ s.rows := by
  have hlt := (List.getElem?_eq_some_iff.mp h).1
  rw [length_tableLines] at hlt
  exact Nat.lt_succ_iff.mp hlt

/-- **A line of the table** is a heading and the entries up to the last that is not empty. -/
theorem exists_line (hk : k ≤ s.rows) :
    ∃ count ≤ s.cols,
      s.tableLines[k]? = some (line (padLeft s.rowLabelWidth (rowLabel k))
        ((List.range s.cols).map s.columnWidth) ((List.range count).map (s.entry k)))
      ∧ (∀ i, count ≤ i → i < s.cols → s.entry k i = [])
      ∧ (0 < count → s.entry k (count - 1) ≠ []) := by
  cases k with
  | zero =>
    refine ⟨s.cols, Nat.le_refl _, rfl, fun i hi hlt => absurd hi (Nat.not_le.mpr hlt), fun _ => ?_⟩
    exact columnLetters_ne_nil _
  | succ row =>
    obtain ⟨count, hcount, hdrop, hempty, hlast⟩ := exists_dropEmptyEnd (s.entry (row + 1)) s.cols
    refine ⟨count, hcount, ?_, hempty, hlast⟩
    have hvalues : (s.columnWidths.zipIdx.map fun field =>
          shorten field.1 (s.shownAt ⟨row, field.2⟩))
        = (List.range s.cols).map (s.entry (row + 1)) := by
      refine List.ext_getElem (by simp [columnWidths]) fun i _ _ => ?_
      simp [columnWidths, shorten_columnWidth hk]
    rw [← hdrop, ← hvalues, tableLines, List.getElem?_cons_succ, List.getElem?_map,
      List.getElem?_range hk]
    rfl

/-- **What lines show of a sheet**: there is a line for each row behind that of the labels, which
begins with the number of the row; and a column begins at the same offset in every line that reaches
it, with a bar and the entry of the column.  In the line of the labels that is so as long as the
labels before fit their columns. -/
structure Tabulates (s : Sheet) (lines : List (List Char)) : Prop where
  length : lines.length = s.rows + 1
  number : ∀ row < s.rows, ∃ text, lines[row + 1]? = some text
    ∧ padLeft s.rowLabelWidth (Nat.toDigits 10 (row + 1)) <+: text
    ∧ (padLeft s.rowLabelWidth (Nat.toDigits 10 (row + 1))).length = s.rowLabelWidth
  column : ∀ col < s.cols, ∃ offset, ∀ k text, lines[k]? = some text →
    (0 < k → (s.entry k col).length ≤ maxWidth)
      ∧ ((k = 0 → s.LabelsFit col) →
        (offset < text.length ↔ ∃ later < s.cols, col ≤ later ∧ s.entry k later ≠ [])
          ∧ ShowsAt text offset (s.entry k col))

/-- The number of a row is not cut off. -/
theorem trimEnd_padLeft_rowLabel (row : Nat) (w : Nat) :
    trimEnd (padLeft w (rowLabel (row + 1))) = padLeft w (rowLabel (row + 1)) := by
  have hself : trimEnd (rowLabel (row + 1)) = rowLabel (row + 1) :=
    trimEnd_eq_self fun c hc => not_isBlank_of_isDigit (isDigit_of_mem_toDigits hc)
  have hne : trimEnd (rowLabel (row + 1)) ≠ [] := by
    rw [hself]
    exact Nat.toDigits_ne_nil
  rw [padLeft, trimEnd_append_of_ne_nil hne, hself]

/-- **The lines of the table line up.** -/
theorem tabulates_tableLines (s : Sheet) : s.Tabulates s.tableLines where
  length := s.length_tableLines
  number row hrow := by
    obtain ⟨count, hcount, hline, -, -⟩ := exists_line (k := row + 1) hrow
    exact ⟨_, hline, heading_prefix_line (trimEnd_padLeft_rowLabel row _) hcount,
      length_padLeft (length_rowLabel_le hrow)⟩
  column col hcol := by
    refine ⟨offset s.columnWidth s.rowLabelWidth col, fun k text htext => ⟨fun hpos => ?_, ?_⟩⟩
    · obtain ⟨row, rfl⟩ := Nat.exists_eq_add_of_lt hpos
      exact length_entry_le_maxWidth s _ col
    · intro hlabels
      have hk := le_rows_of_tableLines htext
      obtain ⟨count, hcount, hline, hempty, hlast⟩ := exists_line hk
      obtain rfl := Option.some.inj (hline.symm.trans htext)
      have hfit := length_entry_le hk hlabels
      have hheading := length_padLeft (length_rowLabel_le hk)
      rcases Nat.lt_or_ge col count with hlt | hge
      · obtain ⟨hreach, hshows⟩ := showsAt_line (padLeft s.rowLabelWidth (rowLabel k)) hfit hlt
          hcount
        rw [hheading] at hreach hshows
        exact ⟨iff_of_true hreach ⟨count - 1, by omega, by omega, hlast (by omega)⟩, hshows⟩
      · have hle := length_line_le (padLeft s.rowLabelWidth (rowLabel k)) hfit hge hcount
        rw [hheading] at hle
        refine ⟨iff_of_false (by omega) ?_, fun hlong => ?_, fun hlong => by omega⟩
        · rintro ⟨later, hlater, hcol', hne⟩
          exact hne (hempty later (by omega) hlater)
        · have hpos : 0 < (behindBar (s.entry k col)).length := Nat.succ_pos _
          omega

/-! ## Line feeds -/

theorem length_splitOn (c : Char) (cs : List Char) : (cs.splitOn c).length = cs.count c + 1 := by
  induction cs with
  | nil => rfl
  | cons d cs ih =>
    rw [List.splitOn_cons_eq_if_modifyHead, List.count_cons]
    split <;> simp [ih]

/-- Lines that are joined are as many as they were, and one more for each line feed in them. -/
theorem length_splitOn_intercalate {c : Char} : ∀ {lines : List (List Char)}, lines ≠ [] →
    (([c].intercalate lines).splitOn c).length
      = lines.length + lines.flatten.count c
  | [], h => absurd rfl h
  | [line], _ => by
      rw [List.intercalate_singleton, length_splitOn]
      simp [Nat.add_comm]
  | line :: next :: lines, _ => by
      have ih : (([c].intercalate (next :: lines)).splitOn c).length = _ :=
        length_splitOn_intercalate (by simp)
      rw [length_splitOn] at ih ⊢
      rw [List.intercalate_cons_cons, List.count_append, List.count_append, List.flatten_cons,
        List.count_append, List.count_singleton_self, List.length_cons]
      omega

/-- A line of the table has a line feed where an entry has one that is not cut off. -/
theorem newline_mem_line {text : List Char} (htext : s.tableLines[k]? = some text) :
    '\n' ∈ text ↔ ∃ col < s.cols, '\n' ∈ trimEnd (s.entry k col)
      ∨ '\n' ∈ s.entry k col ∧ ∃ later < s.cols, col < later ∧ s.entry k later ≠ [] := by
  obtain ⟨count, hcount, hline, hempty, hlast⟩ := exists_line (le_rows_of_tableLines htext)
  obtain rfl := Option.some.inj (hline.symm.trans htext)
  have hheading : '\n' ∉ padLeft s.rowLabelWidth (rowLabel k) := by
    cases k with
    | zero => simp [padLeft, rowLabel]
    | succ row =>
      have hdigits : '\n' ∉ Nat.toDigits 10 (row + 1) := fun h => by
        simpa using isDigit_of_mem_toDigits h
      simp [padLeft, rowLabel, hdigits]
  rw [mem_line (by decide) (by decide) hheading hcount]
  constructor
  · rintro ⟨i, hi, h | ⟨h, hlt⟩⟩
    · exact ⟨i, by omega, .inl h⟩
    · exact ⟨i, by omega, .inr ⟨h, count - 1, by omega, by omega, hlast (by omega)⟩⟩
  · -- The entries behind the last one shown are empty, and hold no line feed.
    rintro ⟨col, hcol, h⟩
    have hshown : col < count := by
      by_contra hge
      simp [hempty col (by omega) hcol] at h
    rcases h with h | ⟨hmem, later, hlater, hlt, hne⟩
    · exact ⟨col, hshown, .inl h⟩
    · refine ⟨col, hshown, .inr ⟨hmem, ?_⟩⟩
      by_contra hge
      exact hne (hempty later (by omega) hlater)

/-- The line of the labels has no line feed, and so the rows decide where the table breaks. -/
theorem newline_free_iff (s : Sheet) :
    (∀ text ∈ s.tableLines, '\n' ∉ text) ↔ ∀ row < s.rows, ¬ s.BreaksLine row := by
  constructor
  · intro h row hrow hbreaks
    obtain ⟨_, -, hline, -, -⟩ := exists_line (k := row + 1) hrow
    exact h _ (List.mem_of_getElem? hline) ((newline_mem_line hline).mpr hbreaks)
  · intro h text htext hnewline
    obtain ⟨k, hk⟩ := List.getElem?_of_mem htext
    have hbreaks := (newline_mem_line hk).mp hnewline
    cases k with
    | zero =>
      obtain ⟨col, -, hcol⟩ := hbreaks
      have hletter : '\n' ∈ columnLetters col :=
        hcol.elim (fun h => (isPrefix_trimEnd _).subset h) (·.1)
      simpa using isUpper_of_mem_columnLetters hletter
    | succ row => exact h row (le_rows_of_tableLines hk) hbreaks

/-! ## The printed table -/

/-- The printed table is its lines, if none of them breaks. -/
theorem tabulates_display (h : ∀ row < s.rows, ¬ s.BreaksLine row) :
    s.Tabulates (s.display.toList.splitOn '\n') := by
  rw [display, String.toList_ofList, List.splitOn_intercalate _ ((newline_free_iff s).mpr h)
    (List.cons_ne_nil _ _)]
  exact s.tabulates_tableLines

/-- **All lines of a printed table line up**, that of the labels included, in a sheet whose columns
have labels of at most six letters. -/
theorem display_aligned (hcols : s.cols ≤ 321272406) (h : ∀ row < s.rows, ¬ s.BreaksLine row)
    (hcol : col < s.cols) : ∃ offset, ∀ k text, (s.display.toList.splitOn '\n')[k]? = some text →
      (offset < text.length ↔ ∃ later < s.cols, col ≤ later ∧ s.entry k later ≠ [])
        ∧ ShowsAt text offset (s.entry k col) := by
  obtain ⟨offset, hoffset⟩ := (tabulates_display h).column col hcol
  exact ⟨offset, fun k text htext =>
    (hoffset k text htext).2 fun _ => labelsFit_of_le (hcol.le.trans hcols)⟩

end Sheet

/-! ## Imported tables -/

/-- A table in a folder is imported as the sheet it makes, with its values. -/
theorem Workbook.sheet_imported (config : Config) {content : ByteArray}
    {records : List (List (List Char))} (h : Table.readFile? content = some records) :
    ((new config).obey Folder.system [(⟨[("a", content)]⟩, .importTable "a")]).sheet
      = match Table.toSheet records with
        | .ok t => (t.recalculate config).2
        | .error _ => (new config).sheet := by
  have hread : Folder.system.read ⟨[("a", content)]⟩ "a" = .ok content :=
    Folder.durable_system (write_empty_folder content)
  have himport : ((Storage.importTable "a").runWith Folder.system ⟨[("a", content)]⟩).1
      = Table.toSheet records := by
    rw [Storage.importTable, FileTask.runWith_bind, FileTask.runWith_readFile, hread]
    simp only [h]
    rfl
  show (((new config).replyToImport "a").runWith Folder.system _).1.workbook.sheet = _
  rw [runWith_replyToImport, himport]
  cases Table.toSheet records <;> rfl

namespace Sheet

/-- **The printed table lines up, and has one line for each row, exactly when no row breaks.** -/
theorem display_columns (s : Sheet) :
    let lines := s.display.toList.splitOn '\n'
    (s.Tabulates lines ↔ ∀ row < s.rows, ¬ s.BreaksLine row)
      ∧ (lines.length = s.rows + 1 ↔ ∀ row < s.rows, ¬ s.BreaksLine row) := by
  intro lines
  have hne : s.tableLines ≠ [] := List.cons_ne_nil _ _
  have hlines : lines = (['\n'].intercalate s.tableLines).splitOn '\n' := by
    show s.display.toList.splitOn '\n' = _
    rw [display, String.toList_ofList]
  have hlength : lines.length = s.rows + 1 ↔ ∀ row < s.rows, ¬ s.BreaksLine row := by
    rw [hlines, length_splitOn_intercalate hne, length_tableLines, ← newline_free_iff,
      Nat.add_eq_left, List.count_eq_zero, List.mem_flatten]
    simp only [not_exists, not_and]
  exact ⟨⟨fun h => hlength.mp h.length, tabulates_display⟩, hlength⟩

/-- A value with a line feed at its end, which is cut off, is imported: its table lines up. -/
theorem display_columns_cut_newline :
    let s := ((Workbook.new { rows := 1, cols := 1 }).obey Folder.system
      [(⟨[("a", "\"b\n\"\n".toUTF8)]⟩, .importTable "a")]).sheet
    '\n' ∈ s.entry 1 0 ∧ s.Tabulates (s.display.toList.splitOn '\n') := by
  intro s
  have hrecords : Table.readFile? "\"b\n\"\n".toUTF8 = some [["b\n".toList]] := by
    decide +kernel
  have hs : s = _ := Workbook.sheet_imported { rows := 1, cols := 1 } hrecords
  have hlength : (s.display.toList.splitOn '\n').length = s.rows + 1 := by
    rw [hs]
    decide +kernel
  refine ⟨?_, (display_columns s).1.mpr ((display_columns s).2.mp hlength)⟩
  rw [hs]
  decide +kernel

/-- A value with a line feed inside is imported: its row is printed as two lines. -/
theorem display_imported_newline :
    let s := ((Workbook.new { rows := 1, cols := 1 }).obey Folder.system
      [(⟨[("a", "\"b\nc\"\n".toUTF8)]⟩, .importTable "a")]).sheet
    s.rows = 1
      ∧ s.display.toList.splitOn '\n' = ["  | A".toList, "1 | b".toList, "c".toList] := by
  intro s
  have hrecords : Table.readFile? "\"b\nc\"\n".toUTF8 = some [["b\nc".toList]] := by
    decide +kernel
  have hs : s = _ := Workbook.sheet_imported { rows := 1, cols := 1 } hrecords
  rw [hs]
  decide +kernel

end Sheet

end Spreadsheet
