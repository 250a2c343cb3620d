import Spreadsheet.Proofs.Recalculation.Dependents

/-!
# Proofs/Recalculation/Reached — a commit evaluates the cells it leads to, each once

The lists of dependents grow while the walk of a commit runs over them: every evaluation on the way
may record a cell in a list that is being walked.  The cells evaluated are bounded from both sides
all the same.  They are closed under the dependents recorded when the walk began, and each was found
in the list of another that was evaluated before it (`Reached.run`).  So a commit evaluates every
cell it leads to at the beginning, and none it does not lead to in the end
(`refreshed_commit`) — on every sheet, whatever its lists of dependents hold.
-/

namespace Spreadsheet

namespace Sheet

variable {s t : Sheet} {id j : CellId}

/-! ## The graph of dependents -/

/-- The second cell is recorded as a dependent of the first. -/
def Feeds (s : Sheet) (source id : CellId) : Prop := id ∈ s.dependentsOf source

/-- Recorded dependents lead from the first cell to the second. -/
abbrev Spreads (s : Sheet) : CellId → CellId → Prop := Relation.ReflTransGen s.Feeds

theorem feeds_refresh {config : Config} {source : CellId} (h : s.Feeds source id) :
    (s.refresh config j).2.Feeds source id := mem_dependentsOf_refresh.mpr (.inl h)

/-- An evaluation forgets no way from one cell to another. -/
theorem spreads_refresh {config : Config} {start : CellId} (h : s.Spreads start id) :
    (s.refresh config j).2.Spreads start id :=
  Relation.ReflTransGen.mono (fun _ _ => feeds_refresh) _ _ h

/-- What is told of a cell depends on the value it shows, as long as the cells stay the same. -/
theorem update_congr (hbare : s.bare = t.bare) (hvalue : s.valueOf id = t.valueOf id) :
    s.update id = t.update id := by
  rw [update, update, nameOf_of_bare_eq hbare, hvalue]

end Sheet

namespace Walk

variable {first : Sheet} {config : Config} {start id j : CellId} {work rest : List CellId}
  {w w' : Walk}

/-! ## The walk as a recursion -/

/-- A walk over a list, depth first, from its beginning to its end: a visited cell is passed over;
any other is evaluated, then its dependents are walked over, and then the rest of the list. -/
inductive Completes (config : Config) : Walk → List CellId → Walk → Prop
  | done {w : Walk} : Completes config w [] w
  | skip {w w' : Walk} {id : CellId} {rest : List CellId} : w.Visited id →
      Completes config w rest w' → Completes config w (id :: rest) w'
  | visit {w w' w'' : Walk} {id : CellId} {rest : List CellId} : ¬ w.Visited id →
      Completes config (w.visit config id) ((w.visit config id).sheet.dependentsOf id) w' →
      Completes config w' rest w'' → Completes config w (id :: rest) w''

/-- A walk over two lists in turn is a walk over the first and then one over the second. -/
theorem Completes.split (h : Completes config w work w') : ∀ {former latter : List CellId},
    work = former ++ latter →
      ∃ between, Completes config w former between ∧ Completes config between latter w' := by
  induction h with
  | done =>
    intro former latter heq
    obtain ⟨rfl, rfl⟩ := List.append_eq_nil_iff.mp heq.symm
    exact ⟨_, .done, .done⟩
  | skip hid hrest ih =>
    intro former latter heq
    cases former with
    | nil =>
      obtain rfl := heq
      exact ⟨_, .done, .skip hid hrest⟩
    | cons _ former =>
      obtain ⟨rfl, htail⟩ := List.cons.inj heq
      obtain ⟨between, hformer, hlatter⟩ := ih htail
      exact ⟨between, .skip hid hformer, hlatter⟩
  | visit hid hinner hrest _ ih =>
    intro former latter heq
    cases former with
    | nil =>
      obtain rfl := heq
      exact ⟨_, .done, .visit hid hinner hrest⟩
    | cons _ former =>
      obtain ⟨rfl, htail⟩ := List.cons.inj heq
      obtain ⟨between, hformer, hlatter⟩ := ih htail
      exact ⟨between, .visit hid hinner hformer, hlatter⟩

/-- **The recursion comes to an end on every list**, with what the walk over the list yields. -/
theorem completes_run (config : Config) (w : Walk) (work : List CellId) :
    Completes config w work (w.run config work) := by
  induction w, work using Walk.run.induct config with
  | case1 w =>
    rw [Walk.run]
    exact .done
  | case2 w id rest hid ih =>
    rw [Walk.run, if_pos hid]
    exact .skip hid ih
  | case3 w id rest hid ih =>
    rw [Walk.run, if_neg hid]
    obtain ⟨between, hinner, hrest⟩ := ih.split rfl
    exact .visit hid hinner hrest

/-! ## What a walk has reached -/

/-- The cells a walk has evaluated. -/
def evaluated (w : Walk) : List CellId := w.updates.map CellUpdate.id

theorem evaluated_visit : (w.visit config id).evaluated = id :: w.evaluated := rfl

/-- What a walk from a cell has reached with a list of cells left to visit.  It began on `first`. -/
structure Reached (first : Sheet) (start : CellId) (w : Walk) (work : List CellId) : Prop where
  covers : Covers first start w work
  bare : w.sheet.bare = first.bare
  /-- Dependents recorded by now lead to every cell visited or on the list. -/
  led : ∀ id, w.Visited id ∨ id ∈ work → w.sheet.Spreads start id
  visited_iff : ∀ id, w.Visited id ↔ id = start ∨ id ∈ w.evaluated
  nodup : (start :: w.evaluated).Nodup
  /-- What was told of a cell is still so. -/
  shows : ∀ u ∈ w.updates, u = w.sheet.update u.id
  /-- The cells not evaluated show what they showed. -/
  others : ∀ id, id ∉ w.evaluated → w.sheet.valueOf id = first.valueOf id

theorem reached_start (s : Sheet) (id : CellId) :
    Reached s id (s.startWalk id) (s.dependentsOf id) where
  covers := covers_start s id
  bare := rfl
  led j hj := by
    rcases hj with hj | hj
    · exact visited_startWalk.mp hj ▸ .refl
    · exact .single hj
  visited_iff j := visited_startWalk.trans (by simp [evaluated, Sheet.startWalk])
  nodup := List.nodup_singleton id
  shows u hu := absurd hu List.not_mem_nil
  others _ _ := rfl

/-- A cell visited before is passed over. -/
theorem Reached.skip (h : Reached first start w (id :: rest)) (hid : w.Visited id) :
    Reached first start w rest where
  covers := h.covers.skip hid
  bare := h.bare
  led j hj := h.led j (hj.imp_right (List.mem_cons_of_mem _))
  visited_iff := h.visited_iff
  nodup := h.nodup
  shows := h.shows
  others := h.others

/-- **A visit reaches the dependents of the visited cell**, those recorded before the visit and
those recorded by it. -/
theorem Reached.visit (h : Reached first start w (id :: rest)) (hid : ¬ w.Visited id) :
    Reached first start (w.visit config id) ((w.visit config id).pending id rest) := by
  have hnew : id ≠ start ∧ id ∉ w.evaluated :=
    not_or.mp fun hor => hid ((h.visited_iff id).mpr hor)
  have hled : ∀ j, w.Visited j ∨ j ∈ id :: rest → (w.visit config id).sheet.Spreads start j :=
    fun j hj => Sheet.spreads_refresh (h.led j hj)
  have hbare : (w.visit config id).sheet.bare = w.sheet.bare := Sheet.bare_refresh w.sheet config id
  constructor
  case covers => exact h.covers.visit
  case bare => exact hbare.trans h.bare
  case led =>
    rintro j (hj | hj)
    · rcases visited_visit.mp hj with rfl | hj
      · exact hled j (.inr List.mem_cons_self)
      · exact hled j (.inl hj)
    · rcases List.mem_append.mp hj with hj | hj
      · exact (hled id (.inr List.mem_cons_self)).tail hj
      · exact hled j (.inr (List.mem_cons_of_mem _ hj))
  case visited_iff =>
    intro j
    rw [visited_visit, h.visited_iff, evaluated_visit, List.mem_cons, or_left_comm]
  case nodup =>
    rw [evaluated_visit]
    exact (List.Perm.swap _ _ _).nodup (List.nodup_cons.mpr ⟨by simp [hnew], h.nodup⟩)
  case shows =>
    intro u hu
    rcases List.mem_cons.mp hu with rfl | hu
    · rfl
    · have hne : u.id ≠ id := fun heq => hnew.2 (heq ▸ List.mem_map_of_mem hu)
      exact (h.shows u hu).trans
        (Sheet.update_congr hbare.symm (Sheet.valueOf_refresh_of_ne hne).symm)
  case others =>
    intro j hj
    obtain ⟨hne, hj⟩ := not_or.mp fun hor => hj (List.mem_cons.mpr hor)
    exact (Sheet.valueOf_refresh_of_ne hne).trans (h.others j hj)

/-- **A walk reaches until nothing is left to visit.** -/
theorem Reached.run (h : Reached first start w work) (config : Config) :
    Reached first start (w.run config work) [] :=
  run_of_steps (fun _ _ _ => Reached.skip) (fun _ _ _ => Reached.visit) h

/-- **A walk that is over has visited every cell that dependents led to when it began.** -/
theorem Reached.visited_of_spreads (h : Reached first start w []) (hj : first.Spreads start j) :
    w.Visited j := by
  induction hj with
  | refl => exact h.covers.begun
  | tail _ hstep ih => exact h.covers.visited_of_mem ih hstep

end Walk

namespace Sheet

variable {s : Sheet} {config : Config} {id : CellId}

/-! ## The commit -/

/-- What a commit of a cell reports, and the sheet it leaves. -/
structure Refreshed (s : Sheet) (config : Config) (id : CellId) (report : CommitReport)
    (after : Sheet) : Prop where
  /-- The walk over the dependents, depth first, comes to an end. -/
  completes : ∃ w, Walk.Completes config ((s.committed config id).startWalk id)
    ((s.committed config id).dependentsOf id) w ∧ report.dependents = w.updates.reverse
      ∧ after = w.sheet
  /-- The committed cell is reported as such. -/
  committed : report.cell.id = id
  /-- No cell is reported twice, and the committed one not among the dependents. -/
  nodup : (report.dependents.map CellUpdate.id).Nodup
  ne_committed : ∀ u ∈ report.dependents, u.id ≠ id
  /-- Every cell that dependents led to right after the evaluation of the committed cell is
  reported. -/
  reached : ∀ j, (s.committed config id).Spreads id j → j = id
    ∨ ∃ u ∈ report.dependents, u.id = j
  /-- Dependents lead to every cell reported when the commit is over. -/
  led : ∀ u ∈ report.dependents, after.Spreads id u.id
  /-- What is reported of a cell is what the cell shows in the end; an id without a cell is reported
  as such, with no value. -/
  shows : ∀ u ∈ report.updates,
    (∀ c, after.cell? u.id = some c → u.name = c.name ∧ u.value = c.value)
      ∧ (after.cell? u.id = none → u.name = u.id.label ∧ u.value = "")
  /-- A cell that is not reported shows what it showed before. -/
  others : ∀ j, (∀ u ∈ report.updates, u.id ≠ j) → after.valueOf j = s.valueOf j
  /-- All but values and dependents is as before. -/
  bare : after.bare = s.bare

/-- What is told of a cell, read off the cell. -/
theorem update_spec (s : Sheet) (id : CellId) :
    (∀ c, s.cell? id = some c → (s.update id).name = c.name ∧ (s.update id).value = c.value)
      ∧ (s.cell? id = none → (s.update id).name = id.label ∧ (s.update id).value = "") := by
  rw [update, nameOf, valueOf]
  cases s.cell? id <;> simp

/-- **A commit evaluates the cells it leads to, each once, and no others** — on any sheet, and
whatever the lists of dependents hold: loops, cells that refer no more, or ids without a cell. -/
theorem refreshed_commit (s : Sheet) (config : Config) (id : CellId) :
    s.Refreshed config id (s.commit config id).1 (s.commit config id).2 := by
  have h := (Walk.reached_start (s.committed config id) id).run config
  have hcompletes := Walk.completes_run config ((s.committed config id).startWalk id)
    ((s.committed config id).dependentsOf id)
  obtain ⟨hstart, hnodup⟩ := List.nodup_cons.mp h.nodup
  -- The committed cell is visited before the walk begins, so the walk leaves its value alone.
  have hcell : (s.committed config id).update id = (s.commit config id).2.update id :=
    update_congr h.bare.symm (h.others id hstart).symm
  constructor
  case completes => exact ⟨_, hcompletes, rfl, rfl⟩
  case committed => rfl
  case nodup =>
    show (List.map CellUpdate.id (List.reverse _)).Nodup
    rw [List.map_reverse, List.nodup_reverse]
    exact hnodup
  case ne_committed =>
    rintro u hu rfl
    exact hstart (List.mem_map_of_mem (List.mem_reverse.mp hu))
  case reached =>
    intro j hj
    refine ((h.visited_iff j).mp (h.visited_of_spreads hj)).imp_right fun hmem => ?_
    obtain ⟨u, hu, heq⟩ := List.mem_map.mp hmem
    exact ⟨u, List.mem_reverse.mpr hu, heq⟩
  case led =>
    intro u hu
    exact h.led u.id (.inl ((h.visited_iff u.id).mpr
      (.inr (List.mem_map_of_mem (List.mem_reverse.mp hu)))))
  case shows =>
    intro u hu
    have heq : u = (s.commit config id).2.update u.id := by
      rcases List.mem_cons.mp hu with rfl | hu
      · exact hcell
      · exact h.shows u (List.mem_reverse.mp hu)
    rw [heq]
    exact update_spec _ u.id
  case others =>
    intro j hj
    have hne : j ≠ id := fun heq => hj _ List.mem_cons_self heq.symm
    refine (h.others j fun hmem => ?_).trans
      ((valueOf_refresh_of_ne hne).trans (valueOf_removeDependent s id j))
    obtain ⟨u, hu, heq⟩ := List.mem_map.mp hmem
    exact hj u (List.mem_cons_of_mem _ (List.mem_reverse.mpr hu)) heq
  case bare => exact h.bare.trans (bare_committed s config id)

end Sheet

end Spreadsheet
