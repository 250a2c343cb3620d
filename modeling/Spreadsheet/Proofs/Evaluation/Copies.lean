import Spreadsheet.Proofs.Evaluation.Shown

/-!
# Proofs/Evaluation/Copies — chains of copies end

A cell copies another when its formula is that single reference and has no value, for a reason that
its text may cover.  Such failures come from a cell whose text is no formula and no number, along
references that are never come back to (`Breaks.not_transGen`): every chain of copies ends
(`Consistent.acc_source`).  So a cell that is evaluated shows what it should
(`Consistent.valueOf_refresh_eq_shown`).
-/

namespace Spreadsheet

namespace Sheet

variable {s t : Sheet} {config : Config} {id source target : CellId} {within : CellId → Prop}

/-! ## Failures that a text may cover

A recoverable failure has its origin in a cell without a formula and without a value of its own;
the cells it passes through on the way fail as that cell does. -/

/-- The cells whose evaluation comes to a cell without a formula and a value of its own. -/
inductive Breaks (s : Sheet) : CellId → Prop
  | text {id : CellId} : s.formula? id = none → s.scalar? id = none → Breaks s id
  | formula {id target : CellId} {name : String} : s.Meets id name → s.lookup name = some target →
      Breaks s target → Breaks s id

/-- A recoverable failure comes from a cell that breaks. -/
theorem breaks_of_plainReference {path : List CellId} {name : String} {err : EvalError}
    (h : s.plainReference path name = .error err) (hrecoverable : err.isRecoverable = true) :
    ∃ target, s.lookup name = some target ∧ s.Breaks target := by
  induction path, name using plainReference.induct s with
  | case1 path name hnone =>
    rw [plainReference_of_lookup_none hnone] at h
    cases h
    cases hrecoverable
  | case2 path name target hlookup hmem =>
    rw [plainReference_of_lookup hlookup, if_pos hmem] at h
    cases h
    cases hrecoverable
  | case3 path name target hlookup hmem ih =>
    refine ⟨target, hlookup, ?_⟩
    rw [plainReference_of_lookup hlookup, if_neg hmem] at h
    cases he : s.formula? target with
    | none =>
      cases hx : s.scalar? target with
      | none => exact .text he hx
      | some x => simp [referenceValue_of_scalar? he hx] at h
    | some e =>
      rw [plainText_of_formula? he, referenceValue_of_formula? he] at h
      cases hv : e.value (s.plainReference (target :: path)) with
      | ok y => simp [hv, Except.map] at h
      | error err' =>
        obtain rfl : err' = err := by simpa [hv, Except.map] using h
        obtain ⟨earlier, inner, later, hrefs, hearlier, hinner⟩ :=
          (Expr.value_eq_error_iff (readable_of_formula? he)).mp hv
        obtain ⟨u, hu, hbreaks⟩ := ih inner hinner
        exact .formula ⟨e, earlier, later, he, hrefs, fun n hn =>
          grounded_of_plainReference (hearlier n hn).choose_spec⟩ hu hbreaks

theorem Breaks.not_grounded (h : s.Breaks id) : ¬ s.Grounded id := by
  induction h with
  | text hnone hx =>
    intro hg
    cases hg with
    | text _ hx' => simp [hx] at hx'
    | formula he => simp [hnone] at he
  | formula hmeets hlookup _ ih =>
    exact fun hg => ih (hg.of_refersTo (Reads.refersTo ⟨_, hmeets, hlookup⟩))

/-- Beyond the first reference that cannot be read, a cell reads nothing. -/
theorem Meets.eq_or_grounded {name name' : String} {next : CellId} (hmeets : s.Meets id name)
    (hlookup : s.lookup name = some target) (hnot : ¬ s.Grounded target)
    (hmeets' : s.Meets id name') (hlookup' : s.lookup name' = some next) :
    next = target ∨ s.Grounded next := by
  obtain ⟨e, earlier, later, he, hrefs, hearlier⟩ := hmeets
  obtain ⟨e', earlier', later', he', hrefs', hearlier'⟩ := hmeets'
  obtain rfl := Option.some.inj (he.symm.trans he')
  have hname : name ∉ earlier' := fun hmem => by
    obtain ⟨t, ht, hg⟩ := hearlier' name hmem
    obtain rfl := Option.some.inj (hlookup.symm.trans ht)
    exact hnot hg
  rcases List.mem_append.mp (mem_of_append_eq (hrefs.symm.trans hrefs') hname) with hmem | hmem
  · obtain ⟨t, ht, hg⟩ := hearlier name' hmem
    obtain rfl := Option.some.inj (hlookup'.symm.trans ht)
    exact .inr hg
  · obtain rfl := List.mem_singleton.mp hmem
    exact .inl (Option.some.inj (hlookup'.symm.trans hlookup))

/-- **A cell that breaks is never come back to.** -/
theorem Breaks.not_transGen (h : s.Breaks id) : ¬ Relation.TransGen s.Reads id id := by
  induction h with
  | text hnone _ =>
    intro hcycle
    obtain ⟨_, ⟨_, ⟨e, _, _, he, _⟩, _⟩, _⟩ := Relation.TransGen.head'_iff.mp hcycle
    simp [hnone] at he
  | @formula id target name hmeets hlookup hbreaks ih =>
    intro hcycle
    obtain ⟨next, ⟨name', hmeets', hlookup'⟩, hback⟩ := Relation.TransGen.head'_iff.mp hcycle
    rcases hmeets.eq_or_grounded hlookup hbreaks.not_grounded hmeets' hlookup' with rfl | hg
    · exact ih (Relation.TransGen.tail' hback ⟨name, hmeets, hlookup⟩)
    · exact (Breaks.formula hmeets hlookup hbreaks).not_grounded
        (hg.of_reaches (Reaches.of_traces hback))

/-! ## Chains of copies -/

/-- A cell that copies another reads it, and that one breaks. -/
theorem Consistent.meets_of_source? (hs : s.Consistent) (h : s.source? id = some source) :
    ∃ e name, s.formula? id = some e ∧ e.references = [name] ∧ s.Meets id name
      ∧ s.lookup name = some source ∧ s.Breaks source := by
  obtain ⟨e, name, err, he, hsingle, hlookup, herr, hrecoverable⟩ := hs.source?_eq_some_iff.mp h
  have hrefs := Expr.references_of_singleReference? hsingle
  rw [plainEvaluate, plainText_of_formula? he, Expr.value_of_singleReference? hsingle] at herr
  have hread : s.plainReference [id] name = .error err := by
    cases hv : s.plainReference [id] name <;> simp_all [Except.map]
  obtain ⟨target, htarget, hbreaks⟩ := breaks_of_plainReference hread hrecoverable
  obtain rfl := Option.some.inj (hlookup.symm.trans htarget)
  exact ⟨e, name, he, hrefs, ⟨e, [], [], he, by simp [hrefs], by simp⟩, hlookup, hbreaks⟩

theorem Consistent.reads_of_source? (hs : s.Consistent) (h : s.source? id = some source) :
    s.Reads id source := by
  obtain ⟨_, name, _, _, hmeets, hlookup, _⟩ := hs.meets_of_source? h
  exact ⟨name, hmeets, hlookup⟩

/-- A copy refers to nothing but the cell it copies. -/
theorem Consistent.eq_of_source? (hs : s.Consistent) (h : s.source? id = some source)
    (ht : s.RefersTo id target) : target = source := by
  obtain ⟨e, name, he, hrefs, -, hlookup, -⟩ := hs.meets_of_source? h
  obtain ⟨e', name', he', hname', hlookup'⟩ := ht
  obtain rfl := Option.some.inj (he.symm.trans he')
  obtain rfl : name' = name := by simpa [hrefs] using hname'
  exact Option.some.inj (hlookup'.symm.trans hlookup)

/-- **The evaluation of a copied cell does not come back to the copy.** -/
theorem Consistent.not_traces_of_source? (hs : s.Consistent) (h : s.source? id = some source) :
    ¬ s.Traces source id := by
  obtain ⟨e, name, he, hrefs, hmeets, hlookup, hbreaks⟩ := hs.meets_of_source? h
  exact fun hback => (Breaks.formula hmeets hlookup hbreaks).not_transGen
    (Relation.TransGen.head' ⟨name, hmeets, hlookup⟩ hback)

/-- The cell copied is a cell. -/
theorem Consistent.isLive_source (hs : s.Consistent) (h : s.source? id = some source) :
    s.isLive source = true := hs.isLive_of_reads (hs.reads_of_source? h)

/-- A copy is a cell. -/
theorem Consistent.isLive_copy (hs : s.Consistent) (h : s.source? id = some source) :
    s.isLive id = true := by
  obtain ⟨_, _, he, _⟩ := hs.meets_of_source? h
  obtain ⟨c, hc, -⟩ := formula?_eq_some_iff.mp he
  exact isLive_iff.mpr ⟨c, hc⟩

theorem Consistent.ne_of_source? (hs : s.Consistent) (h : s.source? id = some source) :
    source ≠ id := by
  rintro rfl
  exact hs.not_traces_of_source? h .refl

theorem Breaks.acc_source (hs : s.Consistent) (h : s.Breaks id) :
    Acc (fun source id => s.source? id = some source) id := by
  induction h with
  | text hnone _ =>
    refine ⟨_, fun source h => ?_⟩
    obtain ⟨e, _, he, _⟩ := hs.meets_of_source? h
    simp [hnone] at he
  | @formula id target name hmeets hlookup _ ih =>
    refine ⟨_, fun source h => ?_⟩
    obtain rfl := hs.eq_of_source? h (Reads.refersTo ⟨name, hmeets, hlookup⟩)
    exact ih

/-- **Every chain of copies ends.** -/
theorem Consistent.acc_source (hs : s.Consistent) (id : CellId) :
    Acc (fun source id => s.source? id = some source) id := by
  refine ⟨_, fun source h => ?_⟩
  obtain ⟨_, _, _, _, _, _, hbreaks⟩ := hs.meets_of_source? h
  exact hbreaks.acc_source hs

/-! ## Copies on sheets that agree -/

theorem Agree.source? (h : s.Agree t within) (hs : s.Consistent) (ht : t.Consistent)
    (hid : within id) : t.source? id = s.source? id := by
  refine Option.ext fun source => ?_
  rw [hs.source?_eq_some_iff, ht.source?_eq_some_iff, h.formula? hid, h.plainEvaluate hid]
  refine exists_congr fun e => exists_congr fun name => exists_congr fun err =>
    and_congr_right fun he => and_congr_right fun hsingle => and_congr_left fun _ => ?_
  have hrefs := Expr.references_of_singleReference? hsingle
  rw [h.lookup id name hid ⟨e, [], [], he, by simp [hrefs], by simp⟩]

/-- **On sheets that agree a cell shows the same, if what it copies is the same.** -/
theorem Agree.shown (h : s.Agree t within) (hs : s.Consistent) (ht : t.Consistent)
    (hid : within id)
    (hvalue : ∀ source, s.source? id = some source → t.valueOf source = s.valueOf source) :
    t.shown config id = s.shown config id := by
  have hsource := h.source? hs ht hid
  exact ht.shown_congr hs (h.text id hid) (h.plainEvaluate hid) hsource
    fun source h => hvalue source (hsource ▸ h)

theorem Consistent.source?_of_bare_eq (hs : s.Consistent) (h : s.bare = t.bare) (id : CellId) :
    s.source? id = t.source? id :=
  ((Agree.of_bare_eq h).source? hs (hs.of_bare_eq h) trivial).symm

theorem Consistent.shown_of_bare_eq (hs : s.Consistent) (h : s.bare = t.bare)
    (hvalue : ∀ source, s.source? id = some source → s.valueOf source = t.valueOf source) :
    s.shown config id = t.shown config id :=
  ((Agree.of_bare_eq h).shown hs (hs.of_bare_eq h) trivial
    fun source h => (hvalue source h).symm).symm

/-! ## Evaluating one cell -/

/-- **Evaluating a cell changes what another should show only if it changes a value that is
copied.** -/
theorem Consistent.shown_refresh (hs : s.Consistent) {j : CellId}
    (h : s.source? j = some id → s.valueOf id = s.shown config id) :
    (s.refresh config id).2.shown config j = s.shown config j := by
  refine (hs.shown_of_bare_eq (bare_refresh s config id).symm fun source hsource => ?_).symm
  by_cases heq : source = id
  · subst heq
    rw [valueOf_refresh_self (hs.isLive_source hsource), h hsource]
  · rw [valueOf_refresh_of_ne heq]

/-- **After a cell is evaluated, it shows what it should** — and so does every cell that did before,
unless it is a copy of one that did not. -/
theorem Consistent.valueOf_refresh_eq_shown (hs : s.Consistent) {j : CellId}
    (hlive : s.isLive j = true) (hshown : j ≠ id → s.valueOf j = s.shown config j)
    (hcopied : s.source? j = some id → s.valueOf id = s.shown config id) :
    (s.refresh config id).2.valueOf j = (s.refresh config id).2.shown config j := by
  rw [hs.shown_refresh hcopied]
  by_cases heq : j = id
  · subst heq
    exact valueOf_refresh_self hlive
  · rw [valueOf_refresh_of_ne heq]
    exact hshown heq

/-- Evaluating a cell records it with every cell it reads. -/
theorem Consistent.mem_dependentsOf_refresh_of_reads (hs : s.Consistent) {j : CellId}
    (h : s.Reads id j) : id ∈ (s.refresh config id).2.dependentsOf j :=
  mem_dependentsOf_refresh.mpr (.inr ⟨hs.isLive_of_reads h, mem_noted_of_reads h⟩)

/-- Evaluating a cell records nothing but references. -/
theorem mem_or_refersTo_of_mem_refresh {j : CellId}
    (h : source ∈ (s.refresh config id).2.dependentsOf j) :
    source ∈ s.dependentsOf j ∨ s.RefersTo source j :=
  (mem_dependentsOf_refresh.mp h).imp_right fun ⟨_, hmem⟩ => refersTo_of_mem_noted hmem

end Sheet

end Spreadsheet
