import Spreadsheet.Proofs.Evaluation.Reads

/-!
# Proofs/Evaluation/Agreement — an evaluation depends on what it comes to

Two sheets agree on a set of cells when neither differs there in its texts or in what the names met
there stand for, and when the cells of the set read no others.  Evaluation cannot tell the two
sheets apart on such a set (`Agree.plainEvaluate`), and it comes to the same cells
(`Agree.traces`).
-/

namespace Spreadsheet

namespace Sheet

variable {s t : Sheet} {id target : CellId} {name : String} {within : CellId → Prop}

/-- The text of a cell. -/
def text? (s : Sheet) (id : CellId) : Option String := (s.cell? id).map Cell.text

theorem text?_of_cell? {s : Sheet} {id : CellId} {c : Cell} (hc : s.cell? id = some c) :
    s.text? id = some c.text := congrArg (Option.map Cell.text) hc

theorem formula?_eq (s : Sheet) (id : CellId) :
    s.formula? id = (s.text? id).bind fun text => (parseFormula text).toOption := by
  rw [formula?, text?, Option.bind_map]
  rfl

theorem scalar?_eq (s : Sheet) (id : CellId) : s.scalar? id = (s.text? id).bind scalarValue? := by
  rw [scalar?, text?, Option.bind_map]
  rfl

theorem plainText_eq (s : Sheet) (read : String → Except EvalError Float) (id : CellId) :
    s.plainText read id = match s.text? id with
      | none => .error (.missing id.label)
      | some text => match parseFormula text with
        | .error err => .error (.malformed err)
        | .ok e => e.value read := by
  rw [plainText, text?]
  cases s.cell? id <;> rfl

/-- What holds of an element whenever it holds of all before it holds of every element. -/
theorem forall_mem_of_prefix {α : Type} {l : List α} {P : α → Prop}
    (h : ∀ earlier x later, l = earlier ++ x :: later → (∀ y ∈ earlier, P y) → P x) :
    ∀ x ∈ l, P x := by
  have hsplit : ∀ later earlier, l = earlier ++ later → (∀ y ∈ earlier, P y) →
      ∀ y ∈ l, P y := by
    intro later
    induction later with
    | nil =>
      intro earlier hl hearlier
      rwa [hl, List.append_nil]
    | cons x later ih =>
      intro earlier hl hearlier
      refine ih (earlier ++ [x]) (by simp [hl]) fun y hy => ?_
      rcases List.mem_append.mp hy with hy | hy
      · exact hearlier y hy
      · exact List.mem_singleton.mp hy ▸ h earlier x later hl hearlier
  exact hsplit l [] rfl (by simp)

/-- Two sheets agree on a set of cells that read no others. -/
structure Agree (s t : Sheet) (within : CellId → Prop) : Prop where
  /-- The cells of the set read no others. -/
  closed : ∀ id target, within id → s.Reads id target → within target
  text : ∀ id, within id → t.text? id = s.text? id
  lookup : ∀ id name, within id → s.Meets id name → t.lookup name = s.lookup name

namespace Agree

variable (h : s.Agree t within)

include h

theorem formula? (hid : within id) : t.formula? id = s.formula? id := by
  rw [formula?_eq, formula?_eq, h.text id hid]

theorem scalar? (hid : within id) : t.scalar? id = s.scalar? id := by
  rw [scalar?_eq, scalar?_eq, h.text id hid]

/-! ## The same cells are grounded -/

theorem lookup_eq (hid : within id) (hmeets : s.Meets id name)
    (htarget : s.lookup name = some target) : t.lookup name = some target ∧ within target :=
  ⟨(h.lookup id name hid hmeets).trans htarget, h.closed id target hid ⟨name, hmeets, htarget⟩⟩

theorem grounded (hid : within id) (hg : s.Grounded id) : t.Grounded id := by
  induction hg with
  | text hnone hx => exact .text ((h.formula? hid).trans hnone) ((h.scalar? hid).trans hx)
  | @formula id e he hsome hall ih =>
    have hg : s.Grounded id := .formula he hsome hall
    refine .formula ((h.formula? hid).trans he) (fun name hname => ?_)
      fun name hname target htarget => ?_
    · rw [h.lookup id name hid (hg.meets he hname)]
      exact hsome name hname
    · rw [h.lookup id name hid (hg.meets he hname)] at htarget
      exact ih name hname target htarget (h.lookup_eq hid (hg.meets he hname) htarget).2

theorem grounded_of (hid : within id) (hg : t.Grounded id) : s.Grounded id := by
  induction hg with
  | text hnone hx => 
    exact .text ((h.formula? hid).symm.trans hnone) ((h.scalar? hid).symm.trans hx)
  | @formula id e he hsome hall ih =>
    have he' := (h.formula? hid).symm.trans he
    have hread : ∀ name ∈ e.references, ∃ g, s.lookup name = some g ∧ s.Grounded g := by
      refine forall_mem_of_prefix fun earlier name later hrefs hearlier => ?_
      have hmeets : s.Meets id name := ⟨e, earlier, later, he', hrefs, hearlier⟩
      have hname : name ∈ e.references := by simp [hrefs]
      obtain ⟨g, hg⟩ := Option.isSome_iff_exists.mp (hsome name hname)
      have hlookup := (h.lookup id name hid hmeets).symm.trans hg
      exact ⟨g, hlookup, ih name hname g hg (h.lookup_eq hid hmeets hlookup).2⟩
    refine .formula he' (fun name hname => ?_) fun name hname target htarget => ?_
    · obtain ⟨g, hg, -⟩ := hread name hname
      simp [hg]
    · obtain ⟨g, hg, hgrounded⟩ := hread name hname
      obtain rfl := Option.some.inj (htarget.symm.trans hg)
      exact hgrounded

/-! ## The same names are met -/

theorem meets (hid : within id) (hmeets : s.Meets id name) : t.Meets id name := by
  obtain ⟨e, earlier, later, he, hrefs, hearlier⟩ := hmeets
  refine ⟨e, earlier, later, (h.formula? hid).trans he, hrefs, fun n hn => ?_⟩
  obtain ⟨g, hg, hgrounded⟩ := hearlier n hn
  obtain ⟨before, after, rfl⟩ := List.append_of_mem hn
  have hmeets : s.Meets id n := ⟨e, before, after ++ name :: later, he, by simp [hrefs],
    fun m hm => hearlier m (List.mem_append_left _ hm)⟩
  obtain ⟨hlookup, hwithin⟩ := h.lookup_eq hid hmeets hg
  exact ⟨g, hlookup, h.grounded hwithin hgrounded⟩

theorem meets_of (hid : within id) (hmeets : t.Meets id name) : s.Meets id name := by
  obtain ⟨e, earlier, later, he, hrefs, hearlier⟩ := hmeets
  have he' := (h.formula? hid).symm.trans he
  refine ⟨e, earlier, later, he', hrefs, ?_⟩
  refine forall_mem_of_prefix fun before n after hsplit hbefore => ?_
  have hmeets : s.Meets id n :=
    ⟨e, before, after ++ name :: later, he', by simp [hrefs, hsplit], hbefore⟩
  obtain ⟨g, hg, hgrounded⟩ := hearlier n (by simp [hsplit])
  have hlookup := (h.lookup id n hid hmeets).symm.trans hg
  exact ⟨g, hlookup, h.grounded_of (h.lookup_eq hid hmeets hlookup).2 hgrounded⟩

theorem symm : t.Agree s within where
  closed id target hid := by
    rintro ⟨name, hmeets, hlookup⟩
    have hmeets := h.meets_of hid hmeets
    exact h.closed id target hid ⟨name, hmeets, (h.lookup id name hid hmeets).symm.trans hlookup⟩
  text id hid := (h.text id hid).symm
  lookup id name hid hmeets := (h.lookup id name hid (h.meets_of hid hmeets)).symm

theorem reads (hid : within id) (hreads : s.Reads id target) : t.Reads id target := by
  obtain ⟨name, hmeets, hlookup⟩ := hreads
  exact ⟨name, h.meets hid hmeets, (h.lookup_eq hid hmeets hlookup).1⟩

/-- **The same cells are come to.** -/
theorem traces (hid : within id) (htraces : s.Traces id target) :
    t.Traces id target ∧ within target := by
  induction htraces with
  | refl => exact ⟨.refl, hid⟩
  | tail _ hstep ih => exact ⟨ih.1.tail (h.reads ih.2 hstep), h.closed _ _ ih.2 hstep⟩

/-! ## The same values are found -/

theorem referenceValue (hid : within id) (result : Except EvalError Evaluated) :
    t.referenceValue id result = s.referenceValue id result := by
  cases result with
  | ok x => rfl
  | error err => rw [referenceValue_error, referenceValue_error, h.scalar? hid]

theorem plainText {read read' : String → Except EvalError Float} (hid : within id)
    (hread : ∀ e, s.formula? id = some e → e.value read' = e.value read) :
    t.plainText read' id = s.plainText read id := by
  have htext := h.text id hid
  rw [plainText_eq, plainText_eq, htext]
  cases hs : s.text? id with
  | none => rfl
  | some text =>
    cases hp : parseFormula text with
    | error err => simp [hp]
    | ok e =>
      simp only [hp]
      exact hread e (by simp [formula?_eq, hs, hp, Except.toOption])

/-- The text of a cell reads the same when its references do. -/
theorem plainText_eq_of_reads {path : List CellId} (hid : within id)
    (hread : ∀ name, s.Meets id name →
      t.plainReference path name = s.plainReference path name) :
    t.plainText (t.plainReference path) id = s.plainText (s.plainReference path) id := by
  refine h.plainText hid fun e he => ?_
  refine (Expr.value_congr (readable_of_formula? he) ?_).symm
  intro earlier name later hrefs hearlier
  exact (hread name ⟨e, earlier, later, he, hrefs, fun n hn =>
    grounded_of_plainReference (hearlier n hn).choose_spec⟩).symm

/-- **A name reads the same on both sheets.** -/
theorem plainReference {path : List CellId} (hname : t.lookup name = s.lookup name)
    (htarget : ∀ target, s.lookup name = some target → within target) :
    t.plainReference path name = s.plainReference path name := by
  induction path, name using plainReference.induct s with
  | case1 path name hnone =>
    rw [plainReference_of_lookup_none hnone, plainReference_of_lookup_none (hname.trans hnone)]
  | case2 path name target hlookup hmem =>
    rw [plainReference_of_lookup hlookup, plainReference_of_lookup (hname.trans hlookup),
      if_pos hmem, if_pos hmem]
  | case3 path name target hlookup hmem ih =>
    have hwithin := htarget target hlookup
    rw [plainReference_of_lookup hlookup, plainReference_of_lookup (hname.trans hlookup),
      if_neg hmem, if_neg hmem, h.referenceValue hwithin]
    refine congrArg _ (h.plainText_eq_of_reads hwithin fun inner hmeets => ?_)
    exact ih inner (h.lookup target inner hwithin hmeets)
      fun u hu => h.closed target u hwithin ⟨inner, hmeets, hu⟩

/-- **A cell evaluates to the same on both sheets.** -/
theorem plainEvaluate (hid : within id) : t.plainEvaluate id = s.plainEvaluate id :=
  h.plainText_eq_of_reads hid fun name hmeets => h.plainReference (h.lookup id name hid hmeets)
    fun target htarget => h.closed id target hid ⟨name, hmeets, htarget⟩

end Agree

end Sheet

end Spreadsheet
