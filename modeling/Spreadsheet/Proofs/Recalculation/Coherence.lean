import Spreadsheet.Proofs.Recalculation.Bulk

/-!
# Proofs/Recalculation/Coherence — what holds while texts are pending

Texts may be entered without being evaluated; the cells they were entered in are pending.  A sheet
is `Coherent` when everything stored that pending cells have no part in is right: the dependents
recorded for the other cells, and the values of the cells whose evaluation comes to no pending cell.
Without pending cells every cell shows what it should.
-/

namespace Spreadsheet

namespace Sheet

variable {s t : Sheet} {config : Config} {id source target : CellId}
  {pending pending' : List CellId}

/-- A grounded cell from which references lead to no pending cell. -/
def Clear (s : Sheet) (pending : List CellId) (id : CellId) : Prop :=
  s.Grounded id ∧ ∀ u, s.Reaches id u → u ∉ pending

/-- A cell that is not pending refers to another behind references that lead to no pending cell. -/
def ReadsClear (s : Sheet) (pending : List CellId) (id source : CellId) : Prop :=
  id ∉ pending ∧ ∃ e earlier name later, s.formula? id = some e
    ∧ e.references = earlier ++ name :: later
    ∧ (∀ n ∈ earlier, ∃ t, s.lookup n = some t ∧ s.Clear pending t) ∧ s.lookup name = some source

/-- **What is stored is right as far as pending cells have no part in it.** -/
structure Coherent (s : Sheet) (config : Config) (pending : List CellId) : Prop where
  consistent : s.Consistent
  /-- A recorded dependent has a reference, unless it is pending. -/
  sound : ∀ source id, id ∈ s.dependentsOf source → id ∉ pending → s.RefersTo id source
  /-- What a cell reads behind no pending cell has it as a dependent. -/
  recorded : ∀ id source, s.ReadsClear pending id source → id ∈ s.dependentsOf source
  /-- A cell whose evaluation comes to no pending cell shows what it should. -/
  shows : ∀ id, s.isLive id = true → (∀ u, s.Traces id u → u ∉ pending) →
    s.valueOf id = s.shown config id

theorem ReadsClear.reads (h : s.ReadsClear pending id source) : s.Reads id source := by
  obtain ⟨-, e, earlier, name, later, he, hrefs, hearlier, hlookup⟩ := h
  exact ⟨name, ⟨e, earlier, later, he, hrefs, fun n hn =>
    (hearlier n hn).imp fun _ ht => ⟨ht.1, ht.2.1⟩⟩, hlookup⟩

/-- **Where nothing is pending, every cell is settled.** -/
theorem Coherent.settled (h : s.Coherent config []) (hid : s.isLive id = true) :
    s.Settled config id :=
  settled_of_forall h.consistent (fun id hid => h.shows id hid fun _ _ => List.not_mem_nil) hid

/-- **Where nothing is pending, the values are a function of the texts.** -/
theorem Coherent.valueOf_eq (h : s.Coherent config []) (h' : t.Coherent config [])
    (hbare : s.bare = t.bare) (id : CellId) : s.valueOf id = t.valueOf id := by
  by_cases hid : s.isLive id = true
  · exact (h.settled hid).valueOf_eq h.consistent hbare
      (h'.settled (by rwa [← isLive_of_bare_eq hbare]))
  · rw [Bool.not_eq_true] at hid
    rw [valueOf_of_not_isLive hid, valueOf_of_not_isLive (by rwa [← isLive_of_bare_eq hbare])]

/-! ## Evaluating everything -/

theorem Reads.isLive (h : s.Reads id target) : s.isLive id = true := by
  obtain ⟨_, ⟨e, _, _, he, _⟩, _⟩ := h
  exact isLive_of_formula? he

/-- **After a recalculation nothing is pending.** -/
theorem coherent_recalculate (hs : s.Consistent) (config : Config) :
    (s.recalculate config).2.Coherent config [] := by
  have hbare : (s.recalculate config).2.bare = s.bare := bare_recalculateIn hs config s.ids
  have hswept := swept_sweep hs config s.ids
  have hdependents : ∀ j, (s.recalculate config).2.dependentsOf j
      = (s.clearDependents.sweep config s.ids).sheet.dependentsOf j := fun j =>
    dependentsOf_settle _ j _ _
  constructor
  case consistent => exact hs.of_bare_eq hbare.symm
  case sound =>
    intro source id hmem _
    rw [hdependents] at hmem
    exact refersTo_of_bare_eq hbare.symm (hswept.sound source id hmem)
  case recorded =>
    intro id source hreads
    have hreads := reads_of_bare_eq hbare hreads.reads
    rw [hdependents]
    exact hswept.recorded id (hs.mem_ids id hreads.isLive) source hreads
  case shows =>
    intro id hid _
    rw [isLive_of_bare_eq hbare] at hid
    exact (settled_recalculateIn hs hs.mem_ids hid).valueOf_eq_shown

/-- In a new sheet there is nothing to evaluate. -/
theorem coherent_blank (rows cols : Nat) (config : Config) :
    (blank rows cols).Coherent config [] := by
  have hcell : ∀ {id c}, (blank rows cols).cell? id = some c →
      c.text = "" ∧ c.value = "" := by
    intro id c hc
    rw [cell?_blank] at hc
    split at hc
    · cases hc
      exact ⟨rfl, rfl⟩
    · simp at hc
  constructor
  case consistent => exact consistent_blank rows cols
  case sound =>
    intro source id hmem
    rw [dependentsOf_blank] at hmem
    cases hmem
  case recorded =>
    intro id source hreads
    obtain ⟨_, ⟨e, _, _, he, _⟩, _⟩ := hreads.reads
    obtain ⟨c, hc, hparse⟩ := formula?_eq_some_iff.mp he
    exact absurd ((hcell hc).1 ▸ hparse) parseFormula_empty
  case shows =>
    intro id hid _
    obtain ⟨c, hc⟩ := isLive_iff.mp hid
    simp [valueOf, shown, verdict, text?, hc, hcell hc, CellOutcome.render]

/-! ## Entering a text -/

/-- Clear cells stay clear where the sheets agree. -/
theorem Clear.of_agree {within : CellId → Prop} (h : s.Agree t within) (hid : within id)
    (hclear : s.Clear pending id) (hsub : ∀ u, within u → u ∉ pending → u ∉ pending') :
    t.Clear pending' id := by
  have hg : t.Grounded id := h.grounded hid hclear.1
  refine ⟨hg, fun u hu => ?_⟩
  obtain ⟨htraces, -⟩ := h.symm.traces hid (hg.traces hu)
  exact hsub u (h.traces hid htraces).2 (hclear.2 u (Reaches.of_traces htraces))

theorem setText_eq_ok_iff {text : String} : s.setText id text = .ok t ↔
    s.isLive id = true ∧ t = s.modifyCell id fun c => { c with text } := by
  rw [setText]
  split
  · rename_i h
    simp [h, eq_comm]
  · rename_i h
    simp [h]

section

variable {text : String} (ht : s.setText id text = .ok t)

include ht

theorem consistent_setText (hs : s.Consistent) : t.Consistent := by
  obtain ⟨-, rfl⟩ := setText_eq_ok_iff.mp ht
  exact hs.enterText id text

theorem lookup_setText (name : String) : t.lookup name = s.lookup name := by
  obtain ⟨-, rfl⟩ := setText_eq_ok_iff.mp ht
  rfl

theorem text?_setText_of_ne {j : CellId} (h : j ≠ id) : t.text? j = s.text? j := by
  obtain ⟨-, rfl⟩ := setText_eq_ok_iff.mp ht
  rw [text?, text?, cell?_modifyCell, if_neg h]

theorem valueOf_setText (j : CellId) : t.valueOf j = s.valueOf j := by
  obtain ⟨-, rfl⟩ := setText_eq_ok_iff.mp ht
  exact valueOf_modifyCell s id j fun _ => rfl

theorem dependentsOf_setText (j : CellId) : t.dependentsOf j = s.dependentsOf j := by
  obtain ⟨-, rfl⟩ := setText_eq_ok_iff.mp ht
  rw [dependentsOf, dependentsOf, cell?_modifyCell]
  by_cases h : j = id
  · rw [if_pos h]
    cases s.cell? j <;> rfl
  · rw [if_neg h]

/-- Away from the cell entered, the sheets before and after agree. -/
theorem agree_setText {within : CellId → Prop} (hne : ∀ u, within u → u ≠ id)
    (hclosed : ∀ u v, within u → t.Reads u v → within v) : t.Agree s within where
  closed := hclosed
  text u hu := (text?_setText_of_ne ht (hne u hu)).symm
  lookup _ name _ _ := (lookup_setText ht name).symm

/-- A cell whose evaluation does not come to the cell entered evaluates as before. -/
theorem agree_setText_traces {start : CellId} (h : ∀ u, t.Traces start u → u ≠ id) :
    t.Agree s (t.Traces start) :=
  agree_setText ht h fun _ _ hu hstep => hu.tail hstep

theorem clear_of_setText {u : CellId} (hclear : t.Clear (id :: pending) u) : s.Clear pending u := by
  have hne : ∀ v, t.Traces u v → v ≠ id := fun v hv heq =>
    hclear.2 v (Reaches.of_traces hv) (heq ▸ List.mem_cons_self)
  exact hclear.of_agree (agree_setText_traces ht hne) .refl
    fun _ _ hnot hmem => hnot (List.mem_cons_of_mem _ hmem)

/-- **A cell a text is entered in becomes pending, and what is stored stays right apart from
it.** -/
theorem Coherent.setText (h : s.Coherent config pending) : t.Coherent config (id :: pending) := by
  have hformula : ∀ j, j ≠ id → t.formula? j = s.formula? j := fun j hj => by
    rw [formula?_eq, formula?_eq, text?_setText_of_ne ht hj]
  constructor
  case consistent => exact consistent_setText ht h.consistent
  case sound =>
    intro source j hmem hnot
    rw [dependentsOf_setText ht] at hmem
    obtain ⟨e, name, he, hname, hlookup⟩ :=
      h.sound source j hmem fun hj => hnot (List.mem_cons_of_mem _ hj)
    exact ⟨e, name, (hformula j fun hj => hnot (hj ▸ List.mem_cons_self)).trans he, hname,
      (lookup_setText ht name).trans hlookup⟩
  case recorded =>
    rintro j source ⟨hnot, e, earlier, name, later, he, hrefs, hearlier, hlookup⟩
    rw [dependentsOf_setText ht]
    refine h.recorded j source ⟨fun hj => hnot (List.mem_cons_of_mem _ hj), e, earlier, name, later,
      (hformula j fun hj => hnot (hj ▸ List.mem_cons_self)).symm.trans he, hrefs, fun n hn => ?_,
      (lookup_setText ht name).symm.trans hlookup⟩
    obtain ⟨u, hu, hclear⟩ := hearlier n hn
    exact ⟨u, (lookup_setText ht n).symm.trans hu, clear_of_setText ht hclear⟩
  case shows =>
    intro j hlive htraces
    have hne : ∀ u, t.Traces j u → u ≠ id := fun u hu heq =>
      htraces u hu (heq ▸ List.mem_cons_self)
    have hagree := agree_setText_traces ht hne
    have hlive' : s.isLive j = true := by
      obtain ⟨-, rfl⟩ := setText_eq_ok_iff.mp ht
      rwa [isLive_modifyCell] at hlive
    rw [valueOf_setText ht, h.shows j hlive' fun u hu hmem =>
      htraces u (hagree.symm.traces .refl hu).1 (List.mem_cons_of_mem _ hmem)]
    exact hagree.shown (consistent_setText ht h.consistent) h.consistent .refl
      fun source _ => (valueOf_setText ht source).symm

end

end Sheet

end Spreadsheet
