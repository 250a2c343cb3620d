import Spreadsheet.Proofs.Json.Symbols

/-!
# Proofs/Json/Documents — a document laid out is read back

The reader goes through a written document symbol by symbol and passes over the blanks and line ends
of the layout.  By the time it has read a value it has put that value where it belongs, whatever
arrays and objects are open around it (`Proper.readsBack`); so a document that a text can hold is
read back as it was (`read?_prettyText`).
-/

namespace Spreadsheet

namespace Json

open Text

variable {state : ReadState} {c : Char} {cs rest : List Char} {symbol : Symbol} {depth : Nat}

/-! ## One symbol -/

theorem readFrom_space (h : isSpace c = true) : readFrom state (c :: cs) = readFrom state cs := by
  rw [readFrom, if_pos h]

/-- A symbol takes the reader one step further. -/
theorem readFrom_symbol (hspace : isSpace c = false)
    (h : readSymbol? c cs = some (symbol, rest)) :
    readFrom state (c :: cs) = (state.step symbol).bind fun next => readFrom next rest := by
  rw [readFrom, if_neg (by simp [hspace])]
  split
  · simp_all
  · rename_i heq
    obtain ⟨rfl, rfl⟩ := Prod.mk.inj (Option.some.inj (h.symm.trans heq))
    cases state.step symbol <;> rfl

/-- The layout says nothing. -/
theorem readFrom_newLine : readFrom state (newLine depth ++ rest) = readFrom state rest := by
  have hblanks : ∀ n, readFrom state (List.replicate n ' ' ++ rest) = readFrom state rest := by
    intro n
    induction n with
    | zero => rfl
    | succ n ih => rw [List.replicate_succ, List.cons_append, readFrom_space rfl, ih]
  rw [newLine, List.cons_append, readFrom_space rfl, hblanks]

theorem readFrom_sign (h : sign? c = some symbol) :
    readFrom state (c :: rest) = (state.step symbol).bind fun next => readFrom next rest := by
  unfold sign? at h
  split at h <;> cases h <;> exact readFrom_symbol rfl rfl

theorem readFrom_writeText (text : String) : readFrom state (writeText (some text) ++ rest)
    = (state.step (.string (some text))).bind fun next => readFrom next rest := by
  obtain ⟨cs, heq, h⟩ := readSymbol?_writeText text rest
  rw [heq]
  exact readFrom_symbol rfl h

theorem readFrom_number {text : List Char} (h : isNumber text = true) (hrest : EndsNumber rest) :
    readFrom state (text ++ rest)
      = (state.step (.number text)).bind fun next => readFrom next rest := by
  obtain ⟨c, cs, heq, hc, h⟩ := readSymbol?_number h hrest
  rw [heq]
  refine readFrom_symbol ?_ h
  rcases hc with hc | rfl
  · have := isDigit_iff.mp hc
    simp only [isSpace, Bool.or_eq_false_iff, decide_eq_false_iff_not]
    refine ⟨⟨⟨?_, ?_⟩, ?_⟩, ?_⟩ <;> rintro rfl <;> cases hc
  · rfl

theorem readFrom_writeBool (b : Bool) : readFrom state (writeBool b ++ rest)
    = (state.step (.bool b)).bind fun next => readFrom next rest := by
  cases b <;> exact readFrom_symbol rfl rfl

/-! ## One value -/

/-- The reader stands where a value may begin. -/
def ReadState.ExpectsValue (state : ReadState) : Prop :=
  state.expecting = .value ∨ state.expecting = .firstItem

theorem ReadState.ExpectsValue.step (h : state.ExpectsValue) (hne : symbol ≠ .closeBracket) :
    state.step symbol = stepValue state.containers symbol := by
  unfold ReadState.step
  rcases h with h | h
  · rw [h]
  · rw [h]
    exact if_neg hne

/-- A document is read where a value may begin, and put where it belongs. -/
def ReadsBack (d : Json) : Prop := ∀ {state depth rest}, state.ExpectsValue → EndsNumber rest →
  readFrom state (d.laidOut depth ++ rest) = readFrom (.supply d state.containers) rest

theorem endsNumber_of_not_isNumberChar (h : isNumberChar c = false) : EndsNumber (c :: rest) := by
  rintro d ⟨⟩
  exact h

/-! ## Arrays -/

section

variable {items before : List Json} {outer : List Container}

theorem endsNumber_laidOutItems (items : List Json) (depth outside : Nat) (rest : List Char) :
    EndsNumber (laidOutItems depth items ++ (newLine outside ++ rest)) := by
  cases items <;> exact endsNumber_of_not_isNumberChar rfl

/-- Behind some items of an array come the others and its end. -/
theorem readFrom_laidOutItems {outside : Nat} : ∀ {items before : List Json},
    (∀ item ∈ items, item.ReadsBack) →
    readFrom ⟨.next, .array before :: outer⟩
      (laidOutItems depth items ++ (newLine outside ++ ']' :: rest))
      = readFrom (.supply (.array (before.reverse ++ items)) outer) rest
  | [], before, _ => by
      rw [laidOutItems, List.nil_append, readFrom_newLine, readFrom_sign rfl, List.append_nil]
      rfl
  | item :: items, before, h => by
      -- What follows an item ends its number, if it is one: a comma, or the line of the bracket.
      obtain ⟨hitem, hitems⟩ := List.forall_mem_cons.mp h
      simp only [laidOutItems, List.cons_append, List.append_assoc]
      rw [readFrom_sign rfl]
      simp only [ReadState.step, ReadState.stepNext, Option.bind_some]
      rw [readFrom_newLine, hitem (.inl rfl) (endsNumber_laidOutItems items depth outside _)]
      rw [ReadState.supply, readFrom_laidOutItems hitems]
      simp

theorem readsBack_array (h : ∀ item ∈ items, item.ReadsBack) : (array items).ReadsBack := by
  intro state depth rest hstate hrest
  cases items with
  | nil =>
    rw [laidOut, List.cons_append, readFrom_sign rfl, hstate.step (by decide)]
    simp only [ReadState.stepValue, Option.bind_some, List.cons_append, List.nil_append]
    rw [readFrom_sign rfl]
    rfl
  | cons item items =>
    obtain ⟨hitem, hitems⟩ := List.forall_mem_cons.mp h
    simp only [laidOut, List.cons_append, List.append_assoc, List.nil_append]
    rw [readFrom_sign rfl, hstate.step (by decide)]
    simp only [ReadState.stepValue, Option.bind_some]
    rw [readFrom_newLine, hitem (.inr rfl) (endsNumber_laidOutItems items _ depth _)]
    rw [ReadState.supply, readFrom_laidOutItems hitems]
    rfl

end

/-! ## Objects -/

section

variable {members : List (Option String × Json)} {outer : List Container}

theorem endsNumber_laidOutMembers (members : List (Option String × Json)) (depth outside : Nat)
    (rest : List Char) : EndsNumber (laidOutMembers depth members ++ (newLine outside ++ rest)) := by
  cases members <;> exact endsNumber_of_not_isNumberChar rfl

/-- A name, a colon and a value make a member. -/
theorem readFrom_member {before : List (Option String × Json)} {name : String} {value : Json}
    (hvalue : value.ReadsBack) {expecting : Expecting}
    (hexpecting : expecting = .name ∨ expecting = .firstName) (hrest : EndsNumber rest) :
    readFrom ⟨expecting, .object before :: outer⟩
      (writeText (some name) ++ ':' :: ' ' :: (value.laidOut depth ++ rest))
      = readFrom ⟨.next, .object ((some name, value) :: before) :: outer⟩ rest := by
  have hstep : ReadState.step ⟨expecting, .object before :: outer⟩ (.string (some name))
      = some ⟨.colon, .member before (some name) :: outer⟩ := by
    rcases hexpecting with rfl | rfl <;> rfl
  rw [readFrom_writeText, hstep, Option.bind_some, readFrom_sign rfl]
  simp only [ReadState.step, if_true, Option.bind_some]
  rw [readFrom_space rfl, hvalue (.inl rfl) hrest]
  rfl

/-- Behind some members of an object come the others and its end. -/
theorem readFrom_laidOutMembers {outside : Nat} :
    ∀ {members before : List (Option String × Json)}, (∀ m ∈ members, m.1.isSome = true) →
    (∀ m ∈ members, m.2.ReadsBack) →
    readFrom ⟨.next, .object before :: outer⟩
      (laidOutMembers depth members ++ (newLine outside ++ '\x7d' :: rest))
      = readFrom (.supply (.object (before.reverse ++ members)) outer) rest
  | [], before, _, _ => by
      rw [laidOutMembers, List.nil_append, readFrom_newLine, readFrom_sign rfl, List.append_nil]
      rfl
  | (name, value) :: members, before, hnames, h => by
      obtain ⟨hname, hlater⟩ := List.forall_mem_cons.mp hnames
      obtain ⟨hvalue, hvalues⟩ := List.forall_mem_cons.mp h
      obtain ⟨name, rfl⟩ := Option.isSome_iff_exists.mp hname
      simp only [laidOutMembers, List.cons_append, List.append_assoc, List.nil_append]
      rw [readFrom_sign rfl]
      simp only [ReadState.step, ReadState.stepNext, Option.bind_some]
      rw [readFrom_newLine,
        readFrom_member hvalue (.inl rfl) (endsNumber_laidOutMembers members depth outside _),
        readFrom_laidOutMembers hlater hvalues]
      simp

theorem readsBack_object (hnames : ∀ m ∈ members, m.1.isSome = true)
    (h : ∀ m ∈ members, m.2.ReadsBack) : (object members).ReadsBack := by
  intro state depth rest hstate hrest
  cases members with
  | nil =>
    rw [laidOut, List.cons_append, readFrom_sign rfl, hstate.step (by decide)]
    simp only [ReadState.stepValue, Option.bind_some, List.cons_append, List.nil_append]
    rw [readFrom_sign rfl]
    rfl
  | cons member members =>
    obtain ⟨name, value⟩ := member
    obtain ⟨hname, hlater⟩ := List.forall_mem_cons.mp hnames
    obtain ⟨hvalue, hvalues⟩ := List.forall_mem_cons.mp h
    obtain ⟨name, rfl⟩ := Option.isSome_iff_exists.mp hname
    simp only [laidOut, List.cons_append, List.append_assoc, List.nil_append]
    rw [readFrom_sign rfl, hstate.step (by decide)]
    simp only [ReadState.stepValue, Option.bind_some]
    rw [readFrom_newLine,
      readFrom_member hvalue (.inr rfl) (endsNumber_laidOutMembers members _ depth _),
      readFrom_laidOutMembers hlater hvalues]
    rfl

end

/-! ## Whole documents -/

/-- A document that a text can hold: its numbers are numbers, and its strings and names are
texts. -/
inductive Proper : Json → Prop
  | null : Proper .null
  | bool (b : Bool) : Proper (.bool b)
  | number {text : List Char} (h : isNumber text = true) : Proper (.number text)
  | string (text : String) : Proper (.string (some text))
  | array {items : List Json} (h : ∀ item ∈ items, Proper item) : Proper (.array items)
  | object {members : List (Option String × Json)} (hnames : ∀ m ∈ members, m.1.isSome = true)
      (h : ∀ m ∈ members, Proper m.2) : Proper (.object members)

/-- **Every value is read back, wherever it stands.** -/
theorem Proper.readsBack {d : Json} (h : d.Proper) : d.ReadsBack := by
  induction h with
  | null =>
    intro state depth rest hstate _
    rw [laidOut]
    refine (readFrom_symbol rfl rfl).trans ?_
    rw [hstate.step (by decide)]
    rfl
  | bool b =>
    intro state depth rest hstate _
    rw [laidOut, readFrom_writeBool, hstate.step (by simp)]
    rfl
  | number h =>
    intro state depth rest hstate hrest
    rw [laidOut, readFrom_number h hrest, hstate.step (by simp)]
    rfl
  | string text =>
    intro state depth rest hstate _
    rw [laidOut, readFrom_writeText, hstate.step (by simp)]
    rfl
  | array _ ih => exact readsBack_array ih
  | object hnames _ ih => exact readsBack_object hnames ih

/-- **A document laid out over lines is read back as it was.** -/
theorem read?_prettyText {d : Json} (h : d.Proper) : read? d.prettyText = some d := by
  rw [read?, prettyText, String.toList_ofList, ← List.append_nil (d.laidOut 0),
    h.readsBack (.inl rfl) (by simp [EndsNumber])]
  rw [readFrom]
  rfl

/-! ## Counts, texts and records -/

theorem proper_ofCount (n : Nat) : (ofCount n).Proper := .number (isNumber_toDigits n)

theorem proper_ofText (text : String) : (ofText text).Proper := .string text

theorem proper_ofFields {fields : List (String × Json)} (h : ∀ f ∈ fields, f.2.Proper) :
    (ofFields fields).Proper := by
  refine .object ?_ ?_ <;> rw [List.forall_mem_map]
  · exact fun _ _ => rfl
  · exact h

/-- A count below the limit is read back. -/
theorem count?_ofCount {n : Nat} (h : n < countLimit) : (ofCount n).count? = some n := by
  have hdigits : (Nat.toDigits 10 n).all Char.isDigit = true :=
    List.all_eq_true.mpr fun _ => isDigit_of_mem_toDigits
  simp [ofCount, count?, hdigits, h]

/-- What every item yields, the list yields. -/
theorem mapM_eq_some {α β : Type} {f : α → Option β} {g : α → β} : ∀ {items : List α},
    (∀ item ∈ items, f item = some (g item)) → items.mapM f = some (items.map g)
  | [], _ => rfl
  | item :: items, h => by
      obtain ⟨hitem, hitems⟩ := List.forall_mem_cons.mp h
      rw [List.mapM_cons, hitem, mapM_eq_some hitems]
      rfl

/-- The members of a record. -/
theorem membersNamed_map_cons (name : String) (f : String × Json) (fields : List (String × Json)) :
    membersNamed name ((f :: fields).map fun f => (some f.1, f.2))
      = if f.1 = name then f.2 :: membersNamed name (fields.map fun f => (some f.1, f.2))
        else membersNamed name (fields.map fun f => (some f.1, f.2)) := by
  rw [membersNamed, List.map_cons, List.filterMap_cons]
  by_cases h : f.1 = name <;> simp [h, membersNamed]

theorem membersNamed_eq_nil {name : String} : ∀ {fields : List (String × Json)},
    name ∉ fields.map Prod.fst → membersNamed name (fields.map fun f => (some f.1, f.2)) = []
  | [], _ => rfl
  | f :: fields, h => by
      obtain ⟨hne, hnot⟩ := not_or.mp (mt List.mem_cons.mpr h)
      rw [membersNamed_map_cons, if_neg (Ne.symm hne), membersNamed_eq_nil hnot]

theorem membersNamed_of_mem {f : String × Json} : ∀ {fields : List (String × Json)},
    (fields.map Prod.fst).Nodup → f ∈ fields →
      membersNamed f.1 (fields.map fun f => (some f.1, f.2)) = [f.2]
  | g :: fields, hnodup, hf => by
      obtain ⟨hnot, hnodup⟩ := List.nodup_cons.mp hnodup
      rw [membersNamed_map_cons]
      rcases List.mem_cons.mp hf with rfl | hf
      · rw [if_pos rfl, membersNamed_eq_nil hnot]
      · have hne : g.1 ≠ f.1 := fun heq => hnot (heq ▸ List.mem_map_of_mem hf)
        rw [if_neg hne, membersNamed_of_mem hnodup hf]

/-- **A record is read back by the names of its fields.** -/
theorem fields?_ofFields {fields : List (String × Json)} (h : (fields.map Prod.fst).Nodup) :
    (ofFields fields).fields? (fields.map Prod.fst) = some (fields.map fun f => some f.2) := by
  have hnames : (fields.map fun f => (some f.1, f.2)).all (·.1.isSome) = true := by simp
  rw [ofFields, fields?, if_pos hnames, List.mapM_map]
  exact mapM_eq_some fun f hf => by
    rw [Function.comp, field?, membersNamed_of_mem h hf]

end Json

end Spreadsheet
