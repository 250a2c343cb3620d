import Spreadsheet.Storage.Table

/-!
# Proofs/Storage/Tables — a table that is written is read back

The reader goes through what is written of a field, of a record and of a table, and keeps what it
has collected before (`feed_writeField`, `feed_writeRecord`, `feed_write`).  So every table without
empty records is read back, whatever characters its fields hold — but for the mark in front of a
text: a file that begins with it is read without it.  That happens exactly when the first field
begins with the mark and stands without quotes (`isPrefixOf_write`).
-/

namespace Spreadsheet

namespace Table

variable {c : Char} {place : Place} {field : List Char} {fields : List (List Char)}
  {record : List (List Char)} {recs : List (List (List Char))}

/-! ## One character -/

theorem markOf_of_needsQuotes (h : needsQuotes c = false) : markOf c = .other := by
  simp only [needsQuotes, Bool.or_eq_false_iff, decide_eq_false_iff_not] at h
  simp [markOf, h]

theorem markOf_ne_quote (h : c ≠ '"') : markOf c ≠ .quote := by
  rw [markOf]
  split
  · simp
  · split <;> simp

namespace Reader

/-- The reader behind some characters. -/
def feed (r : Reader Char) (cs : List Char) : Reader Char := cs.foldl (step markOf) r

theorem feed_cons (r : Reader Char) (c : Char) (cs : List Char) :
    r.feed (c :: cs) = (r.step markOf c).feed cs := rfl

theorem feed_append (r : Reader Char) (cs cs' : List Char) :
    r.feed (cs ++ cs') = (r.feed cs).feed cs' := List.foldl_append

/-- A comma ends a field that is not open. -/
theorem step_comma {r : Reader Char} (h : r.place ≠ .quoted) : r.step markOf ',' = r.endField := by
  obtain ⟨place, field, fields, recs⟩ := r
  cases place <;> first | rfl | exact absurd rfl h

/-- A line feed ends a record that has begun, outside an open field. -/
theorem step_lineFeed {r : Reader Char} (h : r.place ≠ .quoted) (hbegun : r.place ≠ .recordStart) :
    r.step markOf '\n' = r.endRecord := by
  obtain ⟨place, field, fields, recs⟩ := r
  cases place <;> first | rfl | exact absurd rfl h | exact absurd rfl hbegun

/-- A character that needs no quotes is added to a field without quotes, and begins one. -/
theorem step_plain {r : Reader Char} (h : needsQuotes c = false)
    (hplace : r.place = .recordStart ∨ r.place = .fieldStart ∨ r.place = .plain) :
    r.step markOf c = r.add .plain c := by
  obtain ⟨place, field, fields, recs⟩ := r
  rw [step, markOf_of_needsQuotes h]
  rcases hplace with rfl | rfl | rfl <;> rfl

/-- Any character but a quote is added to an open field. -/
theorem step_quoted {r : Reader Char} (h : c ≠ '"') (hplace : r.place = .quoted) :
    r.step markOf c = r.add .quoted c := by
  obtain ⟨place, field, fields, recs⟩ := r
  obtain rfl : place = .quoted := hplace
  have hmark := markOf_ne_quote h
  rw [step]
  cases hm : markOf c <;> first | rfl | exact absurd hm hmark

end Reader

/-! ## A field -/

open Reader

theorem feed_plain : ∀ {cs : List Char}, (∀ c ∈ cs, needsQuotes c = false) → ∀ field,
    (⟨.plain, field, fields, recs⟩ : Reader Char).feed cs
      = ⟨.plain, cs.reverse ++ field, fields, recs⟩
  | [], _, _ => rfl
  | c :: cs, h, field => by
      obtain ⟨hc, hcs⟩ := List.forall_mem_cons.mp h
      rw [feed_cons, step_plain hc (.inr (.inr rfl)), add, feed_plain hcs, List.reverse_cons,
        List.append_assoc, List.singleton_append]

/-- Doubled quotes keep a field open. -/
theorem feed_doubled : ∀ (cs field : List Char), (⟨.quoted, field, fields, recs⟩ : Reader Char).feed
    (cs.flatMap fun c => if c = '"' then ['"', '"'] else [c])
      = ⟨.quoted, cs.reverse ++ field, fields, recs⟩
  | [], _ => rfl
  | c :: cs, field => by
      rw [List.flatMap_cons, feed_append, List.reverse_cons, List.append_assoc,
        List.singleton_append, ← feed_doubled cs (c :: field)]
      by_cases hc : c = '"'
      · subst hc
        rfl
      · rw [if_neg hc, feed_cons, step_quoted hc rfl]
        rfl

/-- Where a field may begin. -/
def Place.Begins (place : Place) : Prop := place = .recordStart ∨ place = .fieldStart

theorem feed_quoted (hplace : place.Begins) (field : List Char) :
    (⟨place, [], fields, recs⟩ : Reader Char).feed (quoted field)
      = ⟨.quote, field.reverse, fields, recs⟩ := by
  have hopen : (⟨place, [], fields, recs⟩ : Reader Char).step markOf '"'
      = ⟨.quoted, [], fields, recs⟩ := by
    rcases hplace with rfl | rfl <;> rfl
  rw [quoted, List.cons_append, feed_cons, hopen, feed_append, feed_doubled, List.append_nil]
  rfl

/-- **What is written of a field is collected** — the reader is not inside quotes then, and if it
has not even begun the record, the field is empty. -/
theorem feed_writeField (hplace : place.Begins) (field : List Char) :
    ∃ place', (⟨place, [], fields, recs⟩ : Reader Char).feed (writeField field)
        = ⟨place', field.reverse, fields, recs⟩
      ∧ place' ≠ .quoted ∧ (place' = .recordStart → place = .recordStart ∧ field = []) := by
  rw [writeField]
  split
  · exact ⟨.quote, feed_quoted hplace field, by simp, by simp⟩
  · rename_i hplain
    have hplain : ∀ c ∈ field, needsQuotes c = false := by simpa using hplain
    cases field with
    | nil =>
      refine ⟨place, rfl, ?_, fun h => ⟨h, rfl⟩⟩
      rcases hplace with rfl | rfl <;> simp
    | cons c cs =>
      obtain ⟨hc, hcs⟩ := List.forall_mem_cons.mp hplain
      refine ⟨.plain, ?_, by simp, by simp⟩
      have hbegins : place = .recordStart ∨ place = .fieldStart ∨ place = .plain :=
        hplace.imp_right .inl
      rw [feed_cons, step_plain hc hbegins, add, feed_plain hcs, List.reverse_cons]

/-! ## A record -/

/-- The fields of a record with commas between them and a line end behind them. -/
theorem feed_fields : ∀ {record : List (List Char)} {place : Place} {fields : List (List Char)},
    place.Begins → record ≠ [] → (place = .recordStart → record ≠ [[]]) →
      (⟨place, [], fields, recs⟩ : Reader Char).feed
          ([','].intercalate (record.map writeField) ++ ['\n'])
        = ⟨.recordStart, [], [], (fields.reverse ++ record) :: recs⟩
  | [], _, _, _, hne, _ => absurd rfl hne
  | [field], place, fields, hplace, _, hblank => by
      obtain ⟨place', hfeed, hclosed, hbegun⟩ := feed_writeField hplace field
      have hbegun : place' ≠ .recordStart := fun h =>
        hblank (hbegun h).1 (congrArg (fun f => [f]) (hbegun h).2)
      rw [List.map_singleton, List.intercalate_singleton, feed_append, hfeed, feed_cons,
        step_lineFeed hclosed hbegun]
      simp [feed, endRecord, endField]
  | field :: next :: record, place, fields, hplace, _, _ => by
      obtain ⟨place', hfeed, hclosed, -⟩ := feed_writeField hplace field
      rw [List.map_cons, List.map_cons, List.intercalate_cons_cons, ← List.map_cons,
        List.append_assoc, List.append_assoc, feed_append, hfeed, feed_append, feed_cons,
        step_comma hclosed]
      refine (feed_fields (.inr rfl) (by simp) (by simp)).trans ?_
      simp

/-- **What is written of a record is collected**, behind the records before it. -/
theorem feed_writeRecord (hne : record ≠ []) :
    (⟨.recordStart, [], [], recs⟩ : Reader Char).feed (writeRecord record)
      = ⟨.recordStart, [], [], record :: recs⟩ := by
  rw [writeRecord]
  split
  · rename_i hblank
    subst hblank
    rfl
  · rename_i hblank
    exact feed_fields (.inl rfl) hne fun _ => hblank

/-! ## A table -/

theorem feed_write : ∀ {table : List (List (List Char))}, (∀ record ∈ table, record ≠ []) →
    ∀ recs, (⟨.recordStart, [], [], recs⟩ : Reader Char).feed (write table)
      = ⟨.recordStart, [], [], table.reverse ++ recs⟩
  | [], _, _ => rfl
  | record :: table, h, recs => by
      obtain ⟨hrecord, htable⟩ := List.forall_mem_cons.mp h
      rw [write, List.flatMap_cons, feed_append, feed_writeRecord hrecord, ← write,
        feed_write htable, List.reverse_cons, List.append_assoc, List.singleton_append]

/-- **A table without empty records is read back as it was written.** -/
theorem records_write {table : List (List (List Char))} (h : ∀ record ∈ table, record ≠ []) :
    records markOf (write table) = table := by
  have hfeed := feed_write h []
  rw [records, show (write table).foldl (step markOf) initial = _ from hfeed, finish,
    List.append_nil, List.reverse_reverse]

/-- A blank line is no record. -/
theorem records_lineFeed (cs : List Char) : records markOf ('\n' :: cs) = records markOf cs := rfl

/-! ## The mark in front of a text -/

/-- A field that begins with the mark and stands without quotes. -/
def LosesMark (field : List Char) : Prop :=
  orderMark.isPrefixOf field = true ∧ field.any needsQuotes = false

theorem isPrefixOf_orderMark {cs : List Char} :
    orderMark.isPrefixOf cs = true ↔ ∃ rest, cs = Char.ofNat 0xFEFF :: rest := by
  rw [List.isPrefixOf_iff_prefix]
  exact ⟨fun ⟨rest, h⟩ => ⟨rest, h.symm⟩, fun ⟨rest, h⟩ => ⟨rest, h.symm⟩⟩

/-- Which fields lose the mark. -/
theorem losesMark_iff : LosesMark field ↔ (∃ rest, field = Char.ofNat 0xFEFF :: rest)
    ∧ ∀ c ∈ field, c ≠ ',' ∧ c ≠ '"' ∧ c ≠ '\n' ∧ c ≠ '\r' := by
  rw [LosesMark, isPrefixOf_orderMark]
  simp [needsQuotes, and_assoc]

/-- What is written of a record begins with its first field, unless that is all and empty. -/
theorem exists_writeRecord (fields : List (List Char)) : ∃ sep rest, (sep = ',' ∨ sep = '\n')
    ∧ (fields = [] → sep = '\n' ∧ rest = [])
    ∧ ∀ field, field :: fields ≠ [[]] →
      writeRecord (field :: fields) = writeField field ++ sep :: rest := by
  cases fields with
  | nil =>
    refine ⟨'\n', [], .inr rfl, fun _ => ⟨rfl, rfl⟩, fun field h => ?_⟩
    rw [writeRecord, if_neg h, List.map_singleton, List.intercalate_singleton]
  | cons next fields =>
    refine ⟨',', [','].intercalate ((next :: fields).map writeField) ++ ['\n'], .inl rfl,
      fun h => (nomatch h), fun field h => ?_⟩
    rw [writeRecord, if_neg h, List.map_cons, List.map_cons, List.intercalate_cons_cons]
    simp

/-- **A file begins with the mark exactly when its first field does and stands without quotes.** -/
theorem isPrefixOf_write {table : List (List (List Char))} :
    orderMark.isPrefixOf (write ((field :: fields) :: table)) = true ↔ LosesMark field := by
  have hquote : Char.ofNat 0xFEFF ≠ '"' := by decide
  rw [LosesMark, isPrefixOf_orderMark, isPrefixOf_orderMark, write, List.flatMap_cons]
  by_cases hblank : field :: fields = [[]]
  · obtain ⟨rfl, rfl⟩ := List.cons.inj hblank
    simp [writeRecord, hquote.symm]
  · obtain ⟨sep, rest, hsep, -, hwrite⟩ := exists_writeRecord fields
    have hne : sep ≠ Char.ofNat 0xFEFF := by
      rcases hsep with rfl | rfl <;> decide
    rw [hwrite field hblank, writeField]
    cases hquotes : field.any needsQuotes with
    | true => simp [quoted, hquote.symm]
    | false =>
      cases field with
      | nil => simp [hne]
      | cons c cs => simp

/-- A text that begins with no mark is read as it stands. -/
theorem read_of_not_isPrefixOf {cs : List Char} (h : orderMark.isPrefixOf cs = false) :
    read cs = records markOf cs := by
  rw [read, withoutOrderMark, h]
  rfl

/-- The mark is passed over. -/
theorem read_orderMark (cs : List Char) :
    read (Char.ofNat 0xFEFF :: cs) = records markOf cs := by
  rw [read, withoutOrderMark, if_pos (isPrefixOf_orderMark.mpr ⟨cs, rfl⟩)]
  rfl

variable {table : List (List (List Char))}

/-- **A table is read back, unless its first field loses the mark.** -/
theorem read_write (h : ∀ record ∈ (field :: fields) :: table, record ≠ [])
    (hmark : ¬ LosesMark field) :
    read (write ((field :: fields) :: table)) = (field :: fields) :: table := by
  rw [read_of_not_isPrefixOf, records_write h]
  exact Bool.eq_false_iff.mpr fun hprefix => hmark (isPrefixOf_write.mp hprefix)

/-- **A first field that loses the mark is read without it** — and if nothing is left of its record,
the record is lost as well. -/
theorem read_write_of_losesMark (h : ∀ record ∈ table, record ≠ [])
    (hmark : LosesMark (Char.ofNat 0xFEFF :: field)) :
    read (write (((Char.ofNat 0xFEFF :: field) :: fields) :: table))
      = if field :: fields = [[]] then table else (field :: fields) :: table := by
  have hplain : (Char.ofNat 0xFEFF :: field).any needsQuotes = false := hmark.2
  have hplain' : field.any needsQuotes = false := (Bool.or_eq_false_iff.mp hplain).2
  obtain ⟨sep, rest, -, hlast, hwrite⟩ := exists_writeRecord fields
  have hmarked : writeRecord ((Char.ofNat 0xFEFF :: field) :: fields)
      = Char.ofNat 0xFEFF :: (field ++ sep :: rest) := by
    rw [hwrite _ (by simp), writeField, hplain]
    rfl
  rw [write, List.flatMap_cons, hmarked, List.cons_append, read_orderMark, ← write]
  split
  · rename_i hblank
    obtain ⟨rfl, rfl⟩ := List.cons.inj hblank
    obtain ⟨rfl, rfl⟩ := hlast rfl
    exact (records_lineFeed _).trans (records_write h)
  · rename_i hblank
    have hrecord : field ++ sep :: rest = writeRecord (field :: fields) := by
      rw [hwrite field hblank, writeField, hplain']
      rfl
    rw [hrecord]
    exact records_write (List.forall_mem_cons.mpr ⟨by simp, h⟩)

end Table

end Spreadsheet
