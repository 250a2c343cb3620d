import Spreadsheet.Proofs.Recalculation.Settle

/-!
# Proofs/Recalculation/Bulk — a recalculation is a function of the texts

A sweep leaves every cell with a value of its own showing it, records what every cell reads, and
lists the copies.  Settling them then settles every cell, in whatever order the cells are visited
(`settled_recalculateIn`), and what a settled cell shows follows from the bare sheet.
-/

namespace Spreadsheet

namespace Sheet

variable {s t : Sheet} {config : Config} {id : CellId} {order done : List CellId}

/-! ## The sweep -/

/-- What a sweep over a sheet has reached when the cells of a list have been evaluated. -/
structure Swept (s : Sheet) (config : Config) (done : List CellId) (sweep : Sweep) : Prop where
  bare : sweep.sheet.bare = s.bare
  copies : ∀ copy, copy ∈ sweep.copies ↔ copy.1 ∈ done ∧ s.source? copy.1 = some copy.2
  /-- Cells with a value of their own show it. -/
  own : ∀ id ∈ done, s.isLive id = true → s.source? id = none →
    sweep.sheet.valueOf id = sweep.sheet.shown config id
  /-- Every recorded dependent has a reference. -/
  sound : ∀ source id, id ∈ sweep.sheet.dependentsOf source → s.RefersTo id source
  /-- Every cell read has its reader as a dependent. -/
  recorded : ∀ id ∈ done, ∀ source, s.Reads id source → id ∈ sweep.sheet.dependentsOf source

theorem Sweep.copies_next (config : Config) (sweep : Sweep) (id : CellId) :
    (sweep.next config id).copies =
      ((sweep.sheet.source? id).toList.map fun source => (id, source)) ++ sweep.copies := by
  simp only [Sweep.next, refresh_eq]
  rfl

theorem Swept.next (hs : s.Consistent) {sweep : Sweep} (h : s.Swept config done sweep)
    (id : CellId) : s.Swept config (id :: done) (sweep.next config id) := by
  have hcons : sweep.sheet.Consistent := hs.of_bare_eq h.bare.symm
  have hsource : ∀ j, sweep.sheet.source? j = s.source? j := hcons.source?_of_bare_eq h.bare
  have hlive : ∀ j, sweep.sheet.isLive j = s.isLive j := isLive_of_bare_eq h.bare
  have hbare : (sweep.sheet.refresh config id).2.bare = sweep.sheet.bare := bare_refresh _ _ _
  constructor
  case bare => exact hbare.trans h.bare
  case copies =>
    rintro ⟨j, source⟩
    rw [Sweep.copies_next, List.mem_append, h.copies, List.mem_cons, hsource]
    simp only [List.mem_map, Option.mem_toList, Prod.mk.injEq]
    constructor
    · rintro (⟨_, hid, rfl, rfl⟩ | ⟨hj, hid⟩)
      · exact ⟨.inl rfl, hid⟩
      · exact ⟨.inr hj, hid⟩
    · rintro ⟨rfl | hj, hid⟩
      · exact .inl ⟨source, hid, rfl, rfl⟩
      · exact .inr ⟨hj, hid⟩
  case own =>
    intro j hj hjlive hnone
    exact hcons.valueOf_refresh_eq_shown ((hlive j).trans hjlive)
      (fun hne => h.own j ((List.mem_cons.mp hj).resolve_left hne) hjlive hnone)
      fun hcopy => by simp [hsource, hnone] at hcopy
  case sound =>
    intro source j hj
    exact (mem_or_refersTo_of_mem_refresh hj).elim (h.sound source j)
      (refersTo_of_bare_eq h.bare)
  case recorded =>
    intro j hj source hreads
    rcases List.mem_cons.mp hj with rfl | hj
    · exact hcons.mem_dependentsOf_refresh_of_reads (reads_of_bare_eq h.bare.symm hreads)
    · exact mem_dependentsOf_refresh.mpr (.inl (h.recorded j hj source hreads))

theorem swept_foldl : ∀ (order : List CellId) {done : List CellId} {sweep : Sweep},
    s.Consistent → s.Swept config done sweep →
      s.Swept config (order.reverse ++ done) (order.foldl (Sweep.next config) sweep)
  | [], _, _, _, h => h
  | id :: order, done, sweep, hs, h => by
      rw [List.reverse_cons, List.append_assoc]
      exact swept_foldl order hs (h.next hs id)

/-- **A sweep evaluates every cell listed.** -/
theorem swept_sweep (hs : s.Consistent) (config : Config) (order : List CellId) :
    s.Swept config order (s.clearDependents.sweep config order) := by
  have hstart : s.Swept config [] ⟨s.clearDependents, [], []⟩ :=
    ⟨bare_clearDependents s, by simp, by simp, by simp, by simp⟩
  have h := swept_foldl order hs hstart
  rw [List.append_nil] at h
  exact ⟨h.bare, fun copy => by rw [sweep, h.copies, List.mem_reverse],
    fun id hid => h.own id (List.mem_reverse.mpr hid), h.sound,
    fun id hid => h.recorded id (List.mem_reverse.mpr hid)⟩

/-! ## Settling after the sweep -/

/-- The copies a sweep found, in the order in which they were evaluated. -/
def copiesIn (s : Sheet) (config : Config) (order : List CellId) : List (CellId × CellId) :=
  (s.clearDependents.sweep config order).copies.reverse

theorem recalculateIn_snd (s : Sheet) (config : Config) (order : List CellId) :
    (s.recalculateIn config order).2 = (s.clearDependents.sweep config order).sheet.settle
      (s.copiesIn config order) (s.copiesIn config order).length := rfl

theorem Swept.areCopies (hs : s.Consistent) {sweep : Sweep} (h : s.Swept config order sweep) :
    sweep.sheet.AreCopies sweep.copies.reverse := fun copy hcopy =>
  (hs.source?_of_bare_eq h.bare.symm copy.1).symm.trans
    ((h.copies copy).mp (List.mem_reverse.mp hcopy)).2

theorem Swept.settled_own (hs : s.Consistent) {sweep : Sweep} (h : s.Swept config order sweep)
    (hid : id ∈ order) (hlive : s.isLive id = true) (hnone : s.source? id = none) :
    sweep.sheet.Settled config id := by
  refine .intro (h.own id hid hlive hnone) fun source hsource => ?_
  simp [← hs.source?_of_bare_eq h.bare.symm, hnone] at hsource

theorem Swept.covered (hs : s.Consistent) {sweep : Sweep} (h : s.Swept config order sweep)
    (hall : ∀ id, s.isLive id = true → id ∈ order) :
    sweep.sheet.Covered config sweep.copies.reverse := by
  intro copy hcopy
  obtain ⟨-, hsource⟩ := (h.copies copy).mp (List.mem_reverse.mp hcopy)
  have hlive := hs.isLive_source hsource
  cases hnext : s.source? copy.2 with
  | some next =>
    exact .inl ⟨(copy.2, next), List.mem_reverse.mpr ((h.copies _).mpr ⟨hall _ hlive, hnext⟩), rfl⟩
  | none => exact .inr (h.settled_own hs (hall _ hlive) hlive hnext)

theorem bare_recalculateIn (hs : s.Consistent) (config : Config) (order : List CellId) :
    (s.recalculateIn config order).2.bare = s.bare := by
  rw [recalculateIn_snd, bare_settle]
  exact (swept_sweep hs config order).bare

theorem settled_copies (hs : s.Consistent) (hall : ∀ id, s.isLive id = true → id ∈ order)
    {copy : CellId × CellId} (hcopy : copy ∈ s.copiesIn config order) :
    (s.recalculateIn config order).2.Settled config copy.1 := by
  have h := swept_sweep hs config order
  exact settled_settle _ (hs.of_bare_eq h.bare.symm) (h.areCopies hs) (h.covered hs hall) le_rfl
    (fun _ hc => hc) (fun _ hc hnot => absurd hc hnot) hcopy

/-- **A recalculation settles every cell, in whatever order it evaluates them.** -/
theorem settled_recalculateIn (hs : s.Consistent) (hall : ∀ id, s.isLive id = true → id ∈ order)
    (hid : s.isLive id = true) : (s.recalculateIn config order).2.Settled config id := by
  have h := swept_sweep hs config order
  cases hsource : s.source? id with
  | none =>
    exact (h.settled_own hs (hall id hid) hid hsource).settle (hs.of_bare_eq h.bare.symm)
      (h.areCopies hs)
  | some source =>
    exact settled_copies hs hall
      (List.mem_reverse.mpr ((h.copies (id, source)).mpr ⟨hall id hid, hsource⟩))

/-- After a recalculation further rounds change nothing. -/
theorem settle_copiesIn (hs : s.Consistent) (hall : ∀ id, s.isLive id = true → id ∈ order)
    {rounds : Nat} (hrounds : (s.copiesIn config order).length ≤ rounds) :
    (s.clearDependents.sweep config order).sheet.settle (s.copiesIn config order) rounds
      = (s.recalculateIn config order).2 := by
  have h := swept_sweep hs config order
  have hs' := hs.of_bare_eq h.bare.symm
  have hcopies : (s.clearDependents.sweep config order).sheet.AreCopies (s.copiesIn config order) :=
    h.areCopies hs
  obtain ⟨more, rfl⟩ := Nat.exists_eq_add_of_le hrounds
  rw [settle_add hs' hcopies, ← recalculateIn_snd]
  have hbare : (s.clearDependents.sweep config order).sheet.bare
      = (s.recalculateIn config order).2.bare := by rw [recalculateIn_snd, bare_settle]
  have hsettled : ∀ copy ∈ s.copiesIn config order,
      (s.recalculateIn config order).2.Settled config copy.1 := fun _ => settled_copies hs hall
  exact settle_of_settled (hs'.of_bare_eq hbare) (hcopies.of_bare_eq hs' hbare) hsettled more

/-! ## Two sheets with one bare sheet -/

/-- A sheet is its bare sheet with the values shown and the dependents recorded. -/
theorem eq_of_bare_eq (h : s.bare = t.bare) (hvalue : ∀ id, s.valueOf id = t.valueOf id)
    (hdependents : ∀ id, s.dependentsOf id = t.dependentsOf id) : s = t := by
  refine ext_cells (grid_of_bare_eq h) (size_slots_of_bare_eq h) fun id => ?_
  have hcell := bareCell_of_bare_eq h id
  have hv := hvalue id
  have hd := hdependents id
  rw [valueOf, valueOf] at hv
  rw [dependentsOf, dependentsOf] at hd
  cases hs : s.cell? id with
  | none => cases ht : t.cell? id <;> simp_all
  | some c =>
    cases ht : t.cell? id with
    | none => simp_all
    | some c' =>
      obtain ⟨_, _, _, _, _⟩ := c
      obtain ⟨_, _, _, _, _⟩ := c'
      simp_all [Cell.bare]

/-- Two sweeps that differ in the values stored at most. -/
structure Sweep.Matches (sweep sweep' : Sweep) : Prop where
  bare : sweep.sheet.bare = sweep'.sheet.bare
  dependents : ∀ id, sweep.sheet.dependentsOf id = sweep'.sheet.dependentsOf id
  copies : sweep.copies = sweep'.copies
  notices : sweep.notices = sweep'.notices

theorem dependentsOf_record_congr (h : s.bare = t.bare)
    (hdependents : ∀ id, s.dependentsOf id = t.dependentsOf id) :
    ∀ references id, (s.record references).dependentsOf id = (t.record references).dependentsOf id
  | [], id => hdependents id
  | reference :: references, id => by
      show ((s.record references).addDependent reference.1 reference.2).dependentsOf id
        = ((t.record references).addDependent reference.1 reference.2).dependentsOf id
      rw [dependentsOf_addDependent, dependentsOf_addDependent,
        dependentsOf_record_congr h hdependents references id, isLive_record, isLive_record,
        isLive_of_bare_eq h]

theorem recoveredFrom_of_bare_eq (h : s.bare = t.bare) (id : CellId) :
    (s.verdict id).recoveredFrom = (t.verdict id).recoveredFrom := by
  have hjudge : ∀ text result,
      (s.judge text result).recoveredFrom = (t.judge text result).recoveredFrom := by
    intro text result
    cases result with
    | ok x => rfl
    | error err => cases err <;> rfl
  rw [verdict, verdict, text?_of_bare_eq h, plainEvaluate_of_bare_eq h]
  cases t.text? id with
  | none => rfl
  | some text =>
    dsimp only
    split
    · rfl
    · exact hjudge text _

theorem Sweep.Matches.next {sweep sweep' : Sweep} (hs : sweep.sheet.Consistent)
    (h : sweep.Matches sweep') (id : CellId) :
    (sweep.next config id).Matches (sweep'.next config id) := by
  have hbare : (sweep.sheet.refresh config id).2.bare
      = (sweep'.sheet.refresh config id).2.bare := by
    rw [bare_refresh, bare_refresh, h.bare]
  constructor
  case bare => exact hbare
  case dependents =>
    intro j
    show (sweep.sheet.refresh config id).2.dependentsOf j
      = (sweep'.sheet.refresh config id).2.dependentsOf j
    rw [refresh_eq, refresh_eq, dependentsOf_setValue, dependentsOf_setValue,
      noted_of_bare_eq h.bare, dependentsOf_record_congr h.bare h.dependents]
  case copies => rw [Sweep.copies_next, Sweep.copies_next, hs.source?_of_bare_eq h.bare, h.copies]
  case notices =>
    show (sweep.sheet.refresh config id).2.recoveryNotice id (sweep.sheet.refresh config id).1
        ++ sweep.notices
      = (sweep'.sheet.refresh config id).2.recoveryNotice id (sweep'.sheet.refresh config id).1
        ++ sweep'.notices
    rw [recoveryNotice, recoveryNotice, nameOf_of_bare_eq hbare, refresh_eq, refresh_eq,
      recoveredFrom_of_bare_eq h.bare, h.notices]

theorem matches_foldl : ∀ (order : List CellId) {sweep sweep' : Sweep}, sweep.sheet.Consistent →
    sweep.Matches sweep' →
      (order.foldl (Sweep.next config) sweep).Matches (order.foldl (Sweep.next config) sweep')
  | [], _, _, _, h => h
  | id :: order, sweep, _, hs, h =>
      matches_foldl order
        (hs.of_bare_eq (bare_refresh sweep.sheet config id).symm) (h.next hs id)

theorem matches_sweep (hs : s.Consistent) (h : s.bare = t.bare) (config : Config)
    (order : List CellId) :
    (s.clearDependents.sweep config order).Matches (t.clearDependents.sweep config order) :=
  matches_foldl order (hs.of_bare_eq (bare_clearDependents s).symm)
    ⟨by simp [h], by simp, rfl, rfl⟩

theorem Consistent.mem_ids (hs : s.Consistent) : ∀ id, s.isLive id = true → id ∈ s.ids :=
  fun _ h => hs.mem_ids_iff.mpr h

theorem recalculateIn_of_bare_eq (hs : s.Consistent) (h : s.bare = t.bare) (config : Config)
    (hall : ∀ id, s.isLive id = true → id ∈ order) :
    s.recalculateIn config order = t.recalculateIn config order := by
  have hmatch := matches_sweep hs h config order
  have hcopies : s.copiesIn config order = t.copiesIn config order :=
    congrArg List.reverse hmatch.copies
  have hbare : (s.recalculateIn config order).2.bare = (t.recalculateIn config order).2.bare := by
    rw [bare_recalculateIn hs, bare_recalculateIn (hs.of_bare_eq h), h]
  have hsheet : (s.recalculateIn config order).2 = (t.recalculateIn config order).2 := by
    refine eq_of_bare_eq hbare (fun id => ?_) fun id => ?_
    · have hlive := isLive_of_bare_eq hbare id
      by_cases hid : (s.recalculateIn config order).2.isLive id = true
      · have hs' : s.isLive id = true := by
          rwa [← isLive_of_bare_eq (bare_recalculateIn hs config order)]
        have ht' : t.isLive id = true := by rwa [← isLive_of_bare_eq h]
        exact (settled_recalculateIn hs hall hs').valueOf_eq
          (hs.of_bare_eq (bare_recalculateIn hs config order).symm) hbare
          (settled_recalculateIn (hs.of_bare_eq h)
            (fun id hid => hall id (by rwa [isLive_of_bare_eq h])) ht')
      · rw [Bool.not_eq_true] at hid
        rw [valueOf_of_not_isLive hid, valueOf_of_not_isLive (hlive ▸ hid)]
    · rw [recalculateIn_snd, recalculateIn_snd, dependentsOf_settle, dependentsOf_settle,
        hmatch.dependents]
  have hreport : ∀ u : Sheet, u.recalculateIn config order =
      (⟨order.map (u.recalculateIn config order).2.update,
        (u.clearDependents.sweep config order).notices.reverse ++ [.recalculated order.length]⟩,
        (u.recalculateIn config order).2) := fun _ => rfl
  rw [hreport s, hreport t, hsheet, hmatch.notices]

/-- **The values of settled cells do not depend on the order of evaluation.** -/
theorem valueOf_recalculateIn (hs : s.Consistent) {order order' : List CellId}
    (hall : ∀ id, s.isLive id = true → id ∈ order) (hall' : ∀ id, s.isLive id = true → id ∈ order')
    (id : CellId) : (s.recalculateIn config order).2.valueOf id
      = (s.recalculateIn config order').2.valueOf id := by
  have hbare := bare_recalculateIn hs config order
  have hbare' := bare_recalculateIn hs config order'
  by_cases hid : s.isLive id = true
  · exact (settled_recalculateIn hs hall hid).valueOf_eq (hs.of_bare_eq hbare.symm)
      (hbare.trans hbare'.symm) (settled_recalculateIn hs hall' hid)
  · rw [Bool.not_eq_true] at hid
    rw [valueOf_of_not_isLive ((isLive_of_bare_eq hbare id).trans hid),
      valueOf_of_not_isLive ((isLive_of_bare_eq hbare' id).trans hid)]

/-- **A recalculation is a function of the texts alone** — sheets that differ in nothing but stored
values and dependents are recalculated to the same sheet with the same report, a second
recalculation changes nothing, the values do not depend on the order in which the cells are
visited, and rounds beyond one for each copy change nothing. -/
theorem recalculate_eq_of_bare_eq (config : Config) (hs : s.Consistent) (h : s.bare = t.bare) :
    s.recalculate config = t.recalculate config
      ∧ (s.recalculate config).2.recalculate config = s.recalculate config
      ∧ ∀ order : List CellId, order.Perm s.ids →
        (∀ id, (s.recalculateIn config order).2.valueOf id
          = (s.recalculate config).2.valueOf id)
        ∧ ∀ rounds, (s.copiesIn config order).length ≤ rounds →
          (s.clearDependents.sweep config order).sheet.settle (s.copiesIn config order) rounds
            = (s.recalculateIn config order).2 := by
  have hof : ∀ u : Sheet, s.bare = u.bare → s.recalculate config = u.recalculate config := by
    intro u hu
    rw [recalculate, recalculate, ← ids_of_bare_eq hu]
    exact recalculateIn_of_bare_eq hs hu config hs.mem_ids
  refine ⟨hof t h, (hof _ (bare_recalculateIn hs config s.ids).symm).symm, fun order horder => ?_⟩
  have hall : ∀ id, s.isLive id = true → id ∈ order := fun id hid =>
    horder.mem_iff.mpr (hs.mem_ids id hid)
  exact ⟨valueOf_recalculateIn hs hall hs.mem_ids, fun rounds => settle_copiesIn hs hall⟩

/-- A copy of a plain text is recalculated away from a stale value and a dangling dependent. -/
theorem recalculate_stale_copy :
    let s := ((blank 1 2).modifyCell ⟨0⟩ fun c => { c with text := "B1" }).modifyCell ⟨1⟩
      fun c => { c with text := "plain" }
    let t := (s.setValue ⟨0⟩ "stale").addDependent ⟨1⟩ ⟨7⟩
    s.recalculate {} = t.recalculate {}
      ∧ (s.recalculate {}).2.recalculate {} = s.recalculate {} := by
  intro s t
  have hs : s.Consistent := ((consistent_blank 1 2).enterText _ _).enterText _ _
  have h := recalculate_eq_of_bare_eq {} hs (t := t) (by simp [t])
  exact ⟨h.1, h.2.1⟩

/-! ## Cells without text -/

theorem verdict_of_text?_empty (h : s.text? id = some "") : s.verdict id = ⟨.empty, none⟩ := by
  rw [verdict, h]
  rfl

/-- A cell without text that shows nothing, and copies nothing. -/
structure Sweep.Leaves (sweep : Sweep) (id : CellId) : Prop where
  text : sweep.sheet.text? id = some ""
  value : sweep.sheet.valueOf id = ""
  copies : ∀ copy ∈ sweep.copies, copy.1 ≠ id

theorem Sweep.Leaves.next {sweep : Sweep} (h : sweep.Leaves id) (config : Config) (j : CellId) :
    (sweep.next config j).Leaves id := by
  have hverdict := verdict_of_text?_empty h.text
  constructor
  case text => exact (text?_of_bare_eq (bare_refresh sweep.sheet config j) id).trans h.text
  case value =>
    show (sweep.sheet.refresh config j).2.valueOf id = ""
    by_cases hj : id = j
    · subst hj
      have hlive : sweep.sheet.isLive id = true := by
        obtain ⟨c, hc, -⟩ := Option.map_eq_some_iff.mp h.text
        exact isLive_iff.mpr ⟨c, hc⟩
      rw [valueOf_refresh_self hlive, shown, hverdict]
      rfl
    · rw [valueOf_refresh_of_ne hj, h.value]
  case copies =>
    intro copy hcopy
    rw [Sweep.copies_next, List.mem_append] at hcopy
    rcases hcopy with hcopy | hcopy
    · rintro rfl
      obtain ⟨source, hsource, rfl⟩ := List.mem_map.mp hcopy
      rw [source?, hverdict] at hsource
      cases hsource
    · exact h.copies copy hcopy

theorem Sweep.Leaves.foldl (config : Config) : ∀ (order : List CellId) {sweep : Sweep},
    sweep.Leaves id → (order.foldl (Sweep.next config) sweep).Leaves id
  | [], _, h => h
  | j :: order, _, h => Sweep.Leaves.foldl config order (h.next config j)

/-- **A cell without text that shows nothing goes on showing nothing**, whether or not the sheet is
consistent. -/
theorem valueOf_recalculateIn_of_text?_empty (htext : s.text? id = some "")
    (hvalue : s.valueOf id = "") (config : Config) (order : List CellId) :
    (s.recalculateIn config order).2.valueOf id = "" := by
  have hstart : Sweep.Leaves ⟨s.clearDependents, [], []⟩ id :=
    ⟨(text?_of_bare_eq (bare_clearDependents s) id).trans htext,
      (valueOf_clearDependents s id).trans hvalue, by simp⟩
  have h : (s.clearDependents.sweep config order).Leaves id :=
    Sweep.Leaves.foldl config order hstart
  have hcopies : ∀ copy ∈ s.copiesIn config order, copy.1 ≠ id := fun copy hcopy =>
    h.copies copy (List.mem_reverse.mp hcopy)
  rw [recalculateIn_snd, valueOf_settle_of_forall_ne hcopies, h.value]

end Sheet

end Spreadsheet
