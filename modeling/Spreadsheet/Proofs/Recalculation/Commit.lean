import Spreadsheet.Proofs.Recalculation.Coherence

/-!
# Proofs/Recalculation/Commit — a commit reaches every cell that needs it

A commit visits the cells it finds through recorded dependents.  Some of these records were made by
evaluations that stopped at a failure; still, a cell whose evaluation comes to the committed cell is
recorded at the first of its references that leads there (`visited_or_clear`), and so it is visited.
A visit never disturbs what another cell shows: a copy is found through the cell it copies, hence
after it.
-/

namespace Spreadsheet

/-! ## The walk -/

namespace Walk

variable {base first : Sheet} {config : Config} {start id : CellId}
  {pending work rest : List CellId}
  {w : Walk}

/-- Whether a walk has evaluated a cell. -/
def Visited (w : Walk) (id : CellId) : Prop := w.visited.contains id = true

theorem visited_visit {j : CellId} : (w.visit config id).Visited j ↔ j = id ∨ w.Visited j := by
  rw [Visited, Visited, contains_visited_visit, Bool.or_eq_true, beq_iff_eq, eq_comm]

theorem visited_startWalk {s : Sheet} {j : CellId} : (s.startWalk id).Visited j ↔ j = id := by
  show ((∅ : Std.TreeSet CellId).insert id).contains j = true ↔ j = id
  rw [Std.TreeSet.contains_insert, eq_comm (a := j)]
  simp

/-- What a walk from a cell that began on `first` has covered with a list of cells left to visit. -/
structure Covers (first : Sheet) (start : CellId) (w : Walk) (work : List CellId) : Prop where
  begun : w.Visited start
  /-- No dependent is forgotten. -/
  kept : ∀ source id, id ∈ first.dependentsOf source → id ∈ w.sheet.dependentsOf source
  /-- The dependents of visited cells are visited or on the list. -/
  closed : ∀ source, w.Visited source → ∀ id ∈ first.dependentsOf source, w.Visited id ∨ id ∈ work

theorem covers_start (s : Sheet) (id : CellId) :
    Covers s id (s.startWalk id) (s.dependentsOf id) where
  begun := visited_startWalk.mpr rfl
  kept _ _ h := h
  closed _ hsource _ hj := .inr (visited_startWalk.mp hsource ▸ hj)

/-- A cell visited before is passed over. -/
theorem Covers.skip (h : Covers first start w (id :: rest)) (hid : w.Visited id) :
    Covers first start w rest where
  begun := h.begun
  kept := h.kept
  closed source hsource j hj := (h.closed source hsource j hj).elim .inl fun hmem =>
    (List.mem_cons.mp hmem).elim (fun heq => .inl (heq ▸ hid)) .inr

/-- A visit puts the dependents of the visited cell on the list. -/
theorem Covers.visit (h : Covers first start w (id :: rest)) :
    Covers first start (w.visit config id) ((w.visit config id).pending id rest) := by
  have hkept : ∀ source j, j ∈ first.dependentsOf source →
      j ∈ (w.visit config id).sheet.dependentsOf source := fun source j hj =>
    Sheet.mem_dependentsOf_refresh.mpr (.inl (h.kept source j hj))
  refine ⟨visited_visit.mpr (.inr h.begun), hkept, fun source hsource j hj => ?_⟩
  rcases visited_visit.mp hsource with rfl | hsource
  · exact .inr (List.mem_append_left _ (hkept source j hj))
  · rcases h.closed source hsource j hj with hvisited | hmem
    · exact .inl (visited_visit.mpr (.inr hvisited))
    · rcases List.mem_cons.mp hmem with rfl | hmem
      · exact .inl (visited_visit.mpr (.inl rfl))
      · exact .inr (List.mem_append_right _ hmem)

/-- A walk that is over has visited the dependents of the cells it visited. -/
theorem Covers.visited_of_mem {source : CellId} (h : Covers first start w [])
    (hsource : w.Visited source) (hid : id ∈ first.dependentsOf source) : w.Visited id :=
  (h.closed source hsource id hid).resolve_right List.not_mem_nil

/-- **What every step of a walk keeps holds when nothing is left to visit.** -/
theorem run_of_steps {P : Walk → List CellId → Prop}
    (skip : ∀ w id rest, P w (id :: rest) → w.Visited id → P w rest)
    (visit : ∀ w id rest, P w (id :: rest) → ¬ w.Visited id →
      P (w.visit config id) ((w.visit config id).pending id rest)) (h : P w work) :
    P (w.run config work) [] := by
  induction w, work using Walk.run.induct config with
  | case1 w =>
    rw [Walk.run]
    exact h
  | case2 w id rest hid ih =>
    rw [Walk.run, if_pos hid]
    exact ih (skip w id rest h hid)
  | case3 w id rest hid ih =>
    rw [Walk.run, if_neg hid]
    exact ih (visit w id rest h hid)

/-- What a walk from a cell has reached with a list of cells left to visit.  It began on `first`,
whose texts and names are those of `base`. -/
structure Tracks (base first : Sheet) (config : Config) (start : CellId) (pending : List CellId)
    (w : Walk) (work : List CellId) : Prop where
  consistent : base.Consistent
  bare : w.sheet.bare = base.bare
  begun : w.Visited start
  /-- No dependent is forgotten. -/
  kept : ∀ source id, id ∈ first.dependentsOf source → id ∈ w.sheet.dependentsOf source
  /-- The dependents of visited cells are visited or on the list. -/
  closed : ∀ source, w.Visited source → ∀ id ∈ first.dependentsOf source, w.Visited id ∨ id ∈ work
  sound : ∀ source id, id ∈ w.sheet.dependentsOf source → id ∉ pending → base.RefersTo id source
  recorded : ∀ id, w.Visited id → ∀ source, base.Reads id source →
    id ∈ w.sheet.dependentsOf source
  /-- Every cell but the first was found through a visited one. -/
  found : ∀ id, w.Visited id ∧ id ≠ start ∨ id ∈ work →
    ∃ source, w.Visited source ∧ id ∈ w.sheet.dependentsOf source
  /-- The cells visited, and those whose evaluation does not come to the first, show what they
  should. -/
  shows : ∀ id, base.isLive id = true → (∀ u, base.Traces id u → u ∉ pending) →
    w.Visited id ∨ ¬ base.Traces id start → w.sheet.valueOf id = w.sheet.shown config id

theorem Tracks.covers (h : Tracks base first config start pending w work) :
    Covers first start w work := ⟨h.begun, h.kept, h.closed⟩

/-- A cell visited before is passed over. -/
theorem Tracks.skip (h : Tracks base first config start pending w (id :: rest))
    (hid : w.Visited id) :
    Tracks base first config start pending w rest where
  consistent := h.consistent
  bare := h.bare
  begun := h.begun
  kept := h.kept
  closed := (h.covers.skip hid).closed
  sound := h.sound
  recorded := h.recorded
  found j hj := h.found j (hj.imp_right (List.mem_cons_of_mem _))
  shows := h.shows

/-- What a visit stores does not disturb what another cell shows: a copy of the visited cell is not
visited yet, or it is the first cell, or the visited cell shows the same as before. -/
theorem Tracks.valueOf_eq_shown (h : Tracks base first config start pending w (id :: rest))
    (hid : ¬ w.Visited id) {j : CellId} (hsource : base.source? j = some id)
    (htraces : ∀ u, base.Traces j u → u ∉ pending) (hj : w.Visited j ∨ ¬ base.Traces j start) :
    w.sheet.valueOf id = w.sheet.shown config id := by
  have hreads := h.consistent.reads_of_source? hsource
  refine h.shows id (h.consistent.isLive_source hsource)
    (fun u hu => htraces u (.head hreads hu)) (.inr fun hstart => ?_)
  have hvisited := hj.resolve_right fun hnot => hnot (.head hreads hstart)
  by_cases heq : j = start
  · subst heq
    exact h.consistent.not_traces_of_source? hsource hstart
  · obtain ⟨source, hvisited', hmem⟩ := h.found j (.inl ⟨hvisited, heq⟩)
    obtain rfl := h.consistent.eq_of_source? hsource (h.sound source j hmem (htraces j .refl))
    exact hid hvisited'

/-- **A visit keeps track.** -/
theorem Tracks.visit (h : Tracks base first config start pending w (id :: rest))
    (hid : ¬ w.Visited id) :
    Tracks base first config start pending (w.visit config id)
      ((w.visit config id).pending id rest) := by
  have hcons : w.sheet.Consistent := h.consistent.of_bare_eq h.bare.symm
  have hsource : ∀ j, w.sheet.source? j = base.source? j := hcons.source?_of_bare_eq h.bare
  have hgrows : ∀ source j, j ∈ w.sheet.dependentsOf source →
      j ∈ (w.visit config id).sheet.dependentsOf source := fun source j hj =>
    Sheet.mem_dependentsOf_refresh.mpr (.inl hj)
  have hcovers : Covers first start (w.visit config id) ((w.visit config id).pending id rest) :=
    h.covers.visit
  constructor
  case consistent => exact h.consistent
  case bare => exact (Sheet.bare_refresh w.sheet config id).trans h.bare
  case begun => exact hcovers.begun
  case kept => exact hcovers.kept
  case closed => exact hcovers.closed
  case sound =>
    intro source j hj hnot
    exact (Sheet.mem_or_refersTo_of_mem_refresh hj).elim (fun hj => h.sound source j hj hnot)
      (Sheet.refersTo_of_bare_eq h.bare)
  case recorded =>
    intro j hj source hreads
    rcases visited_visit.mp hj with rfl | hj
    · exact hcons.mem_dependentsOf_refresh_of_reads (Sheet.reads_of_bare_eq h.bare.symm hreads)
    · exact hgrows source j (h.recorded j hj source hreads)
  case found =>
    intro j hj
    have hbefore : w.Visited j ∧ j ≠ start ∨ j ∈ id :: rest →
        ∃ source, (w.visit config id).Visited source
          ∧ j ∈ (w.visit config id).sheet.dependentsOf source := fun hj => by
      obtain ⟨source, hvisited, hmem⟩ := h.found j hj
      exact ⟨source, visited_visit.mpr (.inr hvisited), hgrows source j hmem⟩
    rcases hj with ⟨hj, hne⟩ | hj
    · rcases visited_visit.mp hj with rfl | hj
      · exact hbefore (.inr List.mem_cons_self)
      · exact hbefore (.inl ⟨hj, hne⟩)
    · rcases List.mem_append.mp hj with hj | hj
      · exact ⟨id, visited_visit.mpr (.inl rfl), hj⟩
      · exact hbefore (.inr (List.mem_cons_of_mem _ hj))
  case shows =>
    intro j hlive htraces hj
    have hbefore : j ≠ id → w.Visited j ∨ ¬ base.Traces j start := fun hne =>
      hj.imp_left fun hj => (visited_visit.mp hj).resolve_left hne
    refine hcons.valueOf_refresh_eq_shown ((Sheet.isLive_of_bare_eq h.bare j).trans hlive)
      (fun hne => h.shows j hlive htraces (hbefore hne)) fun hcopy => ?_
    have hcopy' : base.source? j = some id := hsource j ▸ hcopy
    exact h.valueOf_eq_shown hid hcopy' htraces
      (hbefore (h.consistent.ne_of_source? hcopy').symm)

/-- **A walk keeps track until nothing is left to visit.** -/
theorem Tracks.run (h : Tracks base first config start pending w work) :
    Tracks base first config start pending (w.run config work) [] :=
  run_of_steps (fun _ _ _ => Tracks.skip) (fun _ _ _ => Tracks.visit) h

/-! ## What a walk finds

`before` is the sheet before the commit, on which everything is right apart from the pending cells;
of these only the committed cell is no longer pending afterwards. -/

section

variable {before : List CellId}
  (h : Tracks base first config start pending w [])
  (hrecorded : ∀ id source, base.ReadsClear before id source → id ≠ start →
    id ∈ first.dependentsOf source)
  (hbefore : ∀ id ∈ before, id = start ∨ id ∈ pending)

include hbefore in
theorem clear_before {u : CellId} (hclear : base.Clear pending u) (hnot : ¬ base.Reaches u start) :
    base.Clear before u := by
  refine ⟨hclear.1, fun v hv hmem => ?_⟩
  rcases hbefore v hmem with rfl | hmem
  · exact hnot hv
  · exact hclear.2 v hv hmem

include h hrecorded hbefore in
/-- **A cell is visited through the first of its references that leads to the committed cell**, if
there is one. -/
theorem Tracks.visited_or_clear {e : Expr} {earlier later : List String} (hne : id ≠ start)
    (hid : id ∉ pending) (he : base.formula? id = some e) (hrefs : e.references = earlier ++ later)
    (hearlier : ∀ n ∈ earlier, ∃ u, base.lookup n = some u ∧ base.Clear pending u
      ∧ (base.Reaches u start → w.Visited u)) :
    w.Visited id ∨ ∀ n ∈ earlier, ∃ u, base.lookup n = some u ∧ base.Clear before u := by
  by_cases hvisited : w.Visited id
  · exact .inl hvisited
  refine .inr (Sheet.forall_mem_of_prefix fun first' name last hsplit hfirst => ?_)
  obtain ⟨u, hu, hclear, hfound⟩ := hearlier name (by simp [hsplit])
  refine ⟨u, hu, clear_before hbefore hclear fun hreach => hvisited ?_⟩
  have hnot : id ∉ before := fun hmem => (hbefore id hmem).elim hne hid
  refine h.covers.visited_of_mem (hfound hreach)
    (hrecorded id u ⟨hnot, e, first', name, last ++ later, he, ?_, hfirst, hu⟩ hne)
  rw [hrefs, hsplit]
  simp

include h hrecorded hbefore in
/-- A clear cell that leads to the committed cell is visited. -/
theorem Tracks.visited_of_clear {u : CellId} (hclear : base.Clear pending u)
    (hreach : base.Reaches u start) : w.Visited u := by
  obtain ⟨hg, hpending⟩ := hclear
  induction hg with
  | @text u x hnone _ =>
    rcases Relation.ReflTransGen.cases_head hreach with rfl | ⟨_, ⟨e, _, he, _⟩, _⟩
    · exact h.begun
    · simp [hnone] at he
  | @formula u e he hsome hall ih =>
    rcases Relation.ReflTransGen.cases_head hreach with rfl | ⟨next, hstep, hnext⟩
    · exact h.begun
    by_cases hne : u = start
    · exact hne ▸ h.begun
    obtain ⟨e', name, he', hname, hlookup⟩ := hstep
    obtain rfl := Option.some.inj (he.symm.trans he')
    obtain ⟨earlier, later, hrefs⟩ := List.append_of_mem hname
    have hclear : ∀ n ∈ e.references, ∀ v, base.lookup n = some v → base.Clear pending v :=
      fun n hn v hv => ⟨hall n hn v hv, fun x hx => hpending x (.head ⟨e, n, he, hn, hv⟩ hx)⟩
    have hearlier : ∀ n ∈ earlier, ∃ v, base.lookup n = some v ∧ base.Clear pending v
        ∧ (base.Reaches v start → w.Visited v) := fun n hn => by
      have hmem : n ∈ e.references := hrefs ▸ List.mem_append_left _ hn
      obtain ⟨v, hv⟩ := Option.isSome_iff_exists.mp (hsome n hmem)
      exact ⟨v, hv, hclear n hmem v hv, fun hv' => ih n hmem v hv hv' (hclear n hmem v hv).2⟩
    rcases h.visited_or_clear hrecorded hbefore hne (hpending u .refl) he hrefs hearlier with
      hvisited | hbeforeclear
    · exact hvisited
    · have hnot : u ∉ before := fun hmem => (hbefore u hmem).elim hne (hpending u .refl)
      exact h.covers.visited_of_mem
        (ih name hname next hlookup hnext (hclear name hname next hlookup).2)
        (hrecorded u next ⟨hnot, e, earlier, name, later, he, hrefs, hbeforeclear, hlookup⟩ hne)

include h hrecorded hbefore in
/-- **A cell that reads another is visited, or recorded as its dependent before.** -/
theorem Tracks.visited_or_recorded {source : CellId} (hreads : base.ReadsClear pending id source)
    (hne : id ≠ start) : w.Visited id ∨ id ∈ first.dependentsOf source := by
  obtain ⟨hid, e, earlier, name, later, he, hrefs, hearlier, hlookup⟩ := hreads
  have hfound : ∀ n ∈ earlier, ∃ u, base.lookup n = some u ∧ base.Clear pending u
      ∧ (base.Reaches u start → w.Visited u) := fun n hn => by
    obtain ⟨u, hu, hclear⟩ := hearlier n hn
    exact ⟨u, hu, hclear, h.visited_of_clear hrecorded hbefore hclear⟩
  rcases h.visited_or_clear hrecorded hbefore hne hid he hrefs hfound with hvisited | hclear
  · exact .inl hvisited
  · have hnot : id ∉ before := fun hmem => (hbefore id hmem).elim hne hid
    exact .inr (hrecorded id source
      ⟨hnot, e, earlier, name, later, he, hrefs, hclear, hlookup⟩ hne)

include h hrecorded hbefore in
/-- **A cell whose evaluation comes to the committed cell is visited.** -/
theorem Tracks.visited_of_traces (htraces : base.Traces id start)
    (hpending : ∀ u, base.Traces id u → u ∉ pending) : w.Visited id := by
  induction htraces using Relation.ReflTransGen.head_induction_on with
  | refl => exact h.begun
  | @head id next hstep hnext ih =>
    by_cases hne : id = start
    · exact hne ▸ h.begun
    have hvisited := ih fun u hu => hpending u (.head hstep hu)
    have hreads : base.ReadsClear pending id next := by
      obtain ⟨name, ⟨e, earlier, later, he, hrefs, hearlier⟩, hlookup⟩ := hstep
      refine ⟨hpending id .refl, e, earlier, name, later, he, hrefs, fun n hn => ?_, hlookup⟩
      obtain ⟨u, hu, hg⟩ := hearlier n hn
      obtain ⟨first', last, rfl⟩ := List.append_of_mem hn
      have hreads : base.Reads id u := ⟨n, ⟨e, first', last ++ name :: later, he, by simp [hrefs],
        fun m hm => hearlier m (List.mem_append_left _ hm)⟩, hu⟩
      exact ⟨u, hu, hg, fun v hv => hpending v (.head hreads (hg.traces hv))⟩
    rcases h.visited_or_recorded hrecorded hbefore hreads hne with hid | hmem
    · exact hid
    · exact h.covers.visited_of_mem hvisited hmem

end

end Walk

namespace Sheet

variable {s : Sheet} {config : Config} {id : CellId} {pending pending' : List CellId}

/-! ## The commit -/

/-- The sheet on which the walk of a commit begins. -/
def committed (s : Sheet) (config : Config) (id : CellId) : Sheet :=
  ((s.removeDependent id).refresh config id).2

theorem commit_snd (s : Sheet) (config : Config) (id : CellId) : (s.commit config id).2 =
    (((s.committed config id).startWalk id).run config
      ((s.committed config id).dependentsOf id)).sheet := rfl

theorem bare_committed (s : Sheet) (config : Config) (id : CellId) :
    (s.committed config id).bare = s.bare := by
  rw [committed, bare_refresh, bare_removeDependent]

/-- Where a commit starts from a coherent sheet, its walk is on track. -/
theorem Coherent.tracks (id : CellId) (h : s.Coherent config pending)
    (hpending : ∀ j ∈ pending, j = id ∨ j ∈ pending') :
    Walk.Tracks s (s.committed config id) config id pending' ((s.committed config id).startWalk id)
      ((s.committed config id).dependentsOf id) := by
  have hs := h.consistent
  have hremoved : (s.removeDependent id).bare = s.bare := bare_removeDependent s id
  have hs' : (s.removeDependent id).Consistent := hs.of_bare_eq hremoved.symm
  have hvisited : ∀ j, ((s.committed config id).startWalk id).Visited j ↔ j = id :=
    fun j => Walk.visited_startWalk
  have hcovers := Walk.covers_start (s.committed config id) id
  constructor
  case consistent => exact hs
  case bare => exact bare_committed s config id
  case begun => exact hcovers.begun
  case kept => exact hcovers.kept
  case closed => exact hcovers.closed
  case sound =>
    intro source j hj hnot
    rcases mem_or_refersTo_of_mem_refresh hj with hj | hrefers
    · obtain ⟨hj, hne⟩ := mem_dependentsOf_removeDependent.mp hj
      exact h.sound source j hj fun hmem => (hpending j hmem).elim hne hnot
    · exact refersTo_of_bare_eq hremoved hrefers
  case recorded =>
    intro j hj source hreads
    obtain rfl := (hvisited j).mp hj
    exact hs'.mem_dependentsOf_refresh_of_reads (reads_of_bare_eq hremoved.symm hreads)
  case found =>
    rintro j (⟨hj, hne⟩ | hj)
    · exact absurd ((hvisited j).mp hj) hne
    · exact ⟨id, (hvisited id).mpr rfl, hj⟩
  case shows =>
    intro j hlive htraces hj
    have hnot : j ≠ id → ¬ s.Traces j id := fun hne =>
      hj.resolve_left fun hj => hne ((hvisited j).mp hj)
    refine hs'.valueOf_refresh_eq_shown ((isLive_of_bare_eq hremoved j).trans hlive)
      (fun hne => ?_) fun hcopy => ?_
    · rw [valueOf_removeDependent, h.shows j hlive fun u hu hmem =>
        (hpending u hmem).elim (fun heq => hnot hne (heq ▸ hu)) (htraces u hu)]
      exact hs.shown_of_bare_eq hremoved.symm fun source _ =>
        (valueOf_removeDependent s id source).symm
    · exact absurd (.single (reads_of_bare_eq hremoved (hs'.reads_of_source? hcopy)))
        (hnot (hs'.ne_of_source? hcopy).symm)

theorem mem_dependentsOf_committed {source j : CellId} (h : j ∈ s.dependentsOf source)
    (hne : j ≠ id) : j ∈ (s.committed config id).dependentsOf source :=
  mem_dependentsOf_refresh.mpr (.inl (mem_dependentsOf_removeDependent.mpr ⟨h, hne⟩))

theorem ReadsClear.of_bare_eq {t : Sheet} (h : s.bare = t.bare) {source : CellId}
    (hreads : s.ReadsClear pending id source) : t.ReadsClear pending id source := by
  obtain ⟨hid, e, earlier, name, later, he, hrefs, hearlier, hlookup⟩ := hreads
  refine ⟨hid, e, earlier, name, later, (formula?_of_bare_eq h id).symm.trans he, hrefs,
    fun n hn => ?_, (lookup_of_bare_eq h name).symm.trans hlookup⟩
  obtain ⟨u, hu, hclear⟩ := hearlier n hn
  exact ⟨u, (lookup_of_bare_eq h n).symm.trans hu,
    hclear.of_agree (Agree.of_bare_eq h) trivial fun _ _ hnot => hnot⟩

/-- **A commit makes right what the committed cell had a part in.** -/
theorem Coherent.commit (h : s.Coherent config pending)
    (hpending : ∀ j ∈ pending, j = id ∨ j ∈ pending') :
    (s.commit config id).2.Coherent config pending' := by
  have hrun := (Coherent.tracks id h hpending).run
  have hrecorded : ∀ j source, s.ReadsClear pending j source → j ≠ id →
      j ∈ (s.committed config id).dependentsOf source := fun j source hreads hne =>
    mem_dependentsOf_committed (h.recorded j source hreads) hne
  rw [commit_snd]
  generalize ((s.committed config id).startWalk id).run config _ = w at hrun
  have hs := h.consistent.of_bare_eq hrun.bare.symm
  constructor
  case consistent => exact hs
  case sound =>
    exact fun source j hj hnot => refersTo_of_bare_eq hrun.bare.symm (hrun.sound source j hj hnot)
  case recorded =>
    intro j source hreads
    have hreads' : s.ReadsClear pending' j source := hreads.of_bare_eq hrun.bare
    by_cases hne : j = id
    · exact hrun.recorded j (hne ▸ hrun.begun) source hreads'.reads
    · rcases hrun.visited_or_recorded hrecorded hpending hreads' hne with hvisited | hmem
      · exact hrun.recorded j hvisited source hreads'.reads
      · exact hrun.kept source j hmem
  case shows =>
    intro j hlive htraces
    have hagree := Agree.of_bare_eq hrun.bare
    have htraces' : ∀ u, s.Traces j u → u ∉ pending' := fun u hu =>
      htraces u (hagree.symm.traces trivial hu).1
    refine hrun.shows j (by rwa [← isLive_of_bare_eq hrun.bare]) htraces' ?_
    by_cases hstart : s.Traces j id
    · exact .inl (hrun.visited_of_traces hrecorded hpending hstart htraces')
    · exact .inr hstart

end Sheet

end Spreadsheet
