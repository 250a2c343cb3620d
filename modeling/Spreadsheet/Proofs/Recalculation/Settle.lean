import Spreadsheet.Proofs.Evaluation.Copies
import Spreadsheet.Recalculation.Bulk

/-!
# Proofs/Recalculation/Settle — settling the copies reaches a fixed point

A cell is settled when it shows what it should and so does every cell along its chain of copies; the
value of a settled cell depends on the bare sheet alone (`Settled.valueOf_eq`).  A round leaves
settled cells alone and settles every copy whose source is settled.  As chains of copies end, each
round that is needed settles another copy, and one round for each copy is enough (`settled_settle`).
-/

namespace Spreadsheet

namespace Sheet

variable {s t : Sheet} {config : Config} {id source : CellId} {copy : CellId × CellId}
  {copies : List (CellId × CellId)}

/-! ## Settled cells -/

/-- The cells that show what they should, and copy nothing but such cells. -/
inductive Settled (s : Sheet) (config : Config) : CellId → Prop
  | intro {id : CellId} : s.valueOf id = s.shown config id →
      (∀ source, s.source? id = some source → Settled s config source) → Settled s config id

theorem Settled.valueOf_eq_shown (h : s.Settled config id) : s.valueOf id = s.shown config id := by
  cases h
  assumption

/-- **Settled cells show the same on sheets with one bare sheet.** -/
theorem Settled.valueOf_eq (hs : s.Consistent) (h : s.bare = t.bare) (hid : s.Settled config id)
    (ht : t.Settled config id) : s.valueOf id = t.valueOf id := by
  induction hid with
  | @intro id hshown _ ih =>
    obtain ⟨hshown', hsource'⟩ := ht
    rw [hshown, hshown']
    exact hs.shown_of_bare_eq h fun source hsource =>
      ih source hsource (hsource' source (hs.source?_of_bare_eq h id ▸ hsource))

/-- Where all cells show what they should, all are settled. -/
theorem settled_of_forall (hs : s.Consistent)
    (h : ∀ id, s.isLive id = true → s.valueOf id = s.shown config id) (hid : s.isLive id = true) :
    s.Settled config id := by
  have hacc := hs.acc_source id
  induction hacc with
  | intro id _ ih =>
    exact .intro (h id hid) fun source hsource => ih source hsource (hs.isLive_source hsource)

/-- A value stored in a cell that is not settled leaves the settled cells alone. -/
theorem Settled.setValue (hs : s.Consistent) (hnot : ¬ s.Settled config id) (value : String)
    {other : CellId} (h : s.Settled config other) : (s.setValue id value).Settled config other := by
  have hbare := bare_setValue s id value
  have hs' : (s.setValue id value).Consistent := hs.of_bare_eq hbare.symm
  induction h with
  | @intro other hshown hsource ih =>
    have hne : other ≠ id := fun h => hnot (h ▸ .intro hshown hsource)
    refine .intro ?_ fun source h => ih source (hs.source?_of_bare_eq hbare.symm other ▸ h)
    rw [valueOf_setValue_of_ne hne, hshown]
    refine hs.shown_of_bare_eq hbare.symm fun source h => (valueOf_setValue_of_ne ?_ value).symm
    exact fun heq => hnot (heq ▸ hsource source h)

/-! ## One copy -/

theorem settleOne_eq (hs : s.Consistent) (h : s.source? copy.1 = some copy.2) :
    s.settleOne copy = if s.valueOf copy.1 = s.valueOf copy.2 then (s, false)
      else (s.setValue copy.1 (s.valueOf copy.2), true) := by
  obtain ⟨target, htarget⟩ := isLive_iff.mp (hs.isLive_copy h)
  obtain ⟨source, hsource⟩ := isLive_iff.mp (hs.isLive_source h)
  simp [settleOne, valueOf, htarget, hsource]

theorem settleOne_fst (hs : s.Consistent) (h : s.source? copy.1 = some copy.2) :
    (s.settleOne copy).1 = s.setValue copy.1 (s.valueOf copy.2) := by
  rw [settleOne_eq hs h]
  split
  · rename_i heq
    rw [← heq, setValue_valueOf]
  · rfl

theorem bare_settleOne (s : Sheet) (copy : CellId × CellId) :
    (s.settleOne copy).1.bare = s.bare := by
  rw [settleOne]
  split
  · split
    · rfl
    · exact bare_setValue s _ _
  · rfl

/-- Copying a value leaves settled cells alone. -/
theorem Settled.settleOne (hs : s.Consistent) (h : s.source? copy.1 = some copy.2) {other : CellId}
    (hother : s.Settled config other) : (s.settleOne copy).1.Settled config other := by
  by_cases hcopy : s.Settled config copy.1
  · have heq : s.valueOf copy.1 = s.valueOf copy.2 :=
      hcopy.valueOf_eq_shown.trans (hs.shown_of_source? h)
    rwa [settleOne_eq hs h, if_pos heq]
  · rw [settleOne_fst hs h]
    exact hother.setValue hs hcopy _

/-- **A copy of a settled cell becomes settled.** -/
theorem settled_settleOne (hs : s.Consistent) (h : s.source? copy.1 = some copy.2)
    (hsource : s.Settled config copy.2) : (s.settleOne copy).1.Settled config copy.1 := by
  have hbare := bare_settleOne s copy
  have hs' : (s.settleOne copy).1.Consistent := hs.of_bare_eq hbare.symm
  have hsource' : (s.settleOne copy).1.source? copy.1 = some copy.2 :=
    (hs.source?_of_bare_eq hbare.symm copy.1).symm.trans h
  refine .intro ?_ fun source heq => ?_
  · rw [hs'.shown_of_source? hsource', settleOne_fst hs h,
      valueOf_setValue_self (hs.isLive_copy h),
      valueOf_setValue_of_ne (hs.ne_of_source? h)]
  · obtain rfl := Option.some.inj (hsource'.symm.trans heq)
    exact hsource.settleOne hs h

/-! ## One round -/

theorem bare_settleRound : ∀ (s : Sheet) (copies : List (CellId × CellId)),
    (s.settleRound copies).1.bare = s.bare
  | _, [] => rfl
  | s, copy :: copies =>
      (bare_settleRound (s.settleOne copy).1 copies).trans (bare_settleOne s copy)

/-- Every entry of a list of copies is a copy and the cell it copies. -/
def AreCopies (s : Sheet) (copies : List (CellId × CellId)) : Prop :=
  ∀ copy ∈ copies, s.source? copy.1 = some copy.2

theorem AreCopies.of_bare_eq (hs : s.Consistent) (h : s.bare = t.bare)
    (hcopies : s.AreCopies copies) :
    t.AreCopies copies := fun copy hcopy =>
  (hs.source?_of_bare_eq h copy.1).symm.trans (hcopies copy hcopy)

/-- A round leaves settled cells alone. -/
theorem Settled.settleRound (hs : s.Consistent) (hcopies : s.AreCopies copies)
    (h : s.Settled config id) : (s.settleRound copies).1.Settled config id := by
  induction copies generalizing s with
  | nil => exact h
  | cons copy copies ih =>
    have hbare := (bare_settleOne s copy).symm
    have hcopy := hcopies copy List.mem_cons_self
    exact ih (hs.of_bare_eq hbare)
      (fun c hc => hcopies.of_bare_eq hs hbare c (List.mem_cons_of_mem _ hc))
      (h.settleOne hs hcopy)

/-- **A round settles every copy of a settled cell.** -/
theorem settled_settleRound (hs : s.Consistent) (hcopies : s.AreCopies copies)
    (hmem : copy ∈ copies) (hsource : s.Settled config copy.2) :
    (s.settleRound copies).1.Settled config copy.1 := by
  induction copies generalizing s with
  | nil => cases hmem
  | cons first copies ih =>
    have hbare := (bare_settleOne s first).symm
    have hfirst := hcopies first List.mem_cons_self
    have hs' := hs.of_bare_eq hbare
    have hcopies' : (s.settleOne first).1.AreCopies copies := fun c hc =>
      hcopies.of_bare_eq hs hbare c (List.mem_cons_of_mem _ hc)
    rcases List.mem_cons.mp hmem with rfl | hmem
    · show ((s.settleOne copy).1.settleRound copies).1.Settled config copy.1
      exact (settled_settleOne hs hfirst hsource).settleRound hs' hcopies'
    · exact ih hs' hcopies' hmem (hsource.settleOne hs hfirst)

/-- A round that changes nothing finds every copy equal to its source. -/
theorem settleRound_unchanged (hs : s.Consistent) (hcopies : s.AreCopies copies)
    (h : (s.settleRound copies).2 = false) : (s.settleRound copies).1 = s
      ∧ ∀ copy ∈ copies, s.valueOf copy.1 = s.valueOf copy.2 := by
  induction copies with
  | nil => exact ⟨rfl, by simp⟩
  | cons copy copies ih =>
    have hcopy := settleOne_eq hs (hcopies copy List.mem_cons_self)
    rw [Sheet.settleRound] at h ⊢
    split at hcopy
    · rename_i heq
      simp only [hcopy, Bool.false_or] at h ⊢
      obtain ⟨hsame, hall⟩ := ih (fun c hc => hcopies c (List.mem_cons_of_mem _ hc)) h
      refine ⟨hsame, fun c hc => ?_⟩
      rcases List.mem_cons.mp hc with rfl | hc
      · exact heq
      · exact hall c hc
    · simp [hcopy] at h

/-- Where all copies are settled, a round changes nothing. -/
theorem settleRound_of_settled (hs : s.Consistent) (hcopies : s.AreCopies copies)
    (h : ∀ copy ∈ copies, s.Settled config copy.1) : s.settleRound copies = (s, false) := by
  induction copies with
  | nil => rfl
  | cons copy copies ih =>
    have hcopy := hcopies copy List.mem_cons_self
    have heq : s.valueOf copy.1 = s.valueOf copy.2 :=
      (h copy List.mem_cons_self).valueOf_eq_shown.trans (hs.shown_of_source? hcopy)
    rw [Sheet.settleRound, settleOne_eq hs hcopy, if_pos heq]
    simp only [ih (fun c hc => hcopies c (List.mem_cons_of_mem _ hc)) fun c hc =>
      h c (List.mem_cons_of_mem _ hc), Bool.false_or]

/-! ## All rounds -/

/-- Every copy in a list copies another in the list, or a settled cell. -/
def Covered (s : Sheet) (config : Config) (copies : List (CellId × CellId)) : Prop :=
  ∀ copy ∈ copies, (∃ next ∈ copies, next.1 = copy.2) ∨ s.Settled config copy.2

/-- **A round settles one of the copies that are not settled, unless all are.** -/
theorem exists_settled_of_settleRound (hs : s.Consistent) (hcopies : s.AreCopies copies)
    (hcovered : s.Covered config copies) {rest : List (CellId × CellId)} (hne : rest ≠ [])
    (hsub : ∀ copy ∈ rest, copy ∈ copies)
    (hrest : ∀ copy ∈ copies, copy ∉ rest → s.Settled config copy.1) :
    ∃ copy ∈ rest, (s.settleRound copies).1.Settled config copy.1 := by
  by_contra hnone
  have hnot : ∀ copy ∈ rest, ¬ (s.settleRound copies).1.Settled config copy.1 :=
    fun copy hcopy h => hnone ⟨copy, hcopy, h⟩
  obtain ⟨copy, hcopy⟩ := List.exists_mem_of_ne_nil rest hne
  have hacc := hs.acc_source copy.1
  generalize hid : copy.1 = id at hacc
  induction hacc generalizing copy with
  | intro id _ ih =>
    subst hid
    have hmem := hsub copy hcopy
    refine hnot copy hcopy (settled_settleRound hs hcopies hmem ?_)
    rcases hcovered copy hmem with ⟨next, hnext, heq⟩ | hsettled
    · by_cases hin : next ∈ rest
      · exact absurd heq (ih copy.2 (hcopies copy hmem) next hin)
      · exact heq ▸ hrest next hnext hin
    · exact hsettled

/-- Where every copy equals its source, all are settled. -/
theorem settled_of_unchanged (hs : s.Consistent) (hcopies : s.AreCopies copies)
    (hcovered : s.Covered config copies)
    (heq : ∀ copy ∈ copies, s.valueOf copy.1 = s.valueOf copy.2) (hcopy : copy ∈ copies) :
    s.Settled config copy.1 := by
  have hacc := hs.acc_source copy.1
  generalize hid : copy.1 = id at hacc
  induction hacc generalizing copy with
  | intro id _ ih =>
    subst hid
    have hsource := hcopies copy hcopy
    refine .intro ((heq copy hcopy).trans (hs.shown_of_source? hsource).symm) fun source h => ?_
    obtain rfl := Option.some.inj (hsource.symm.trans h)
    rcases hcovered copy hcopy with ⟨next, hnext, hlink⟩ | hsettled
    · exact ih copy.2 hsource hnext hlink
    · exact hsettled

theorem settle_succ (s : Sheet) (copies : List (CellId × CellId)) (rounds : Nat) :
    s.settle copies (rounds + 1) = if (s.settleRound copies).2 then
      (s.settleRound copies).1.settle copies rounds else (s.settleRound copies).1 := rfl

theorem bare_settle (copies : List (CellId × CellId)) : ∀ (rounds : Nat) (s : Sheet),
    (s.settle copies rounds).bare = s.bare
  | 0, _ => rfl
  | rounds + 1, s => by
      rw [settle_succ]
      split
      · exact (bare_settle copies rounds _).trans (bare_settleRound s copies)
      · exact bare_settleRound s copies

/-- Settling leaves settled cells alone. -/
theorem Settled.settle {rounds : Nat} (hs : s.Consistent) (hcopies : s.AreCopies copies)
    (h : s.Settled config id) : (s.settle copies rounds).Settled config id := by
  induction rounds generalizing s with
  | zero => exact h
  | succ rounds ih =>
    have hbare := (bare_settleRound s copies).symm
    have hround := h.settleRound hs hcopies
    rw [settle_succ]
    split
    · exact ih (hs.of_bare_eq hbare) (hcopies.of_bare_eq hs hbare) hround
    · exact hround

/-- One round leaves fewer copies unsettled — `rest` holds those that may not be settled yet. -/
theorem exists_rest_of_settleRound {rounds : Nat} {rest : List (CellId × CellId)}
    (hs : s.Consistent) (hcopies : s.AreCopies copies) (hcovered : s.Covered config copies)
    (hlength : rest.length ≤ rounds + 1) (hsub : ∀ copy ∈ rest, copy ∈ copies)
    (hrest : ∀ copy ∈ copies, copy ∉ rest → s.Settled config copy.1) :
    ∃ rest' : List (CellId × CellId), rest'.length ≤ rounds ∧ (∀ copy ∈ rest', copy ∈ copies)
      ∧ ∀ copy ∈ copies, copy ∉ rest' → (s.settleRound copies).1.Settled config copy.1 := by
  classical
  refine ⟨rest.filter fun c => ¬ (s.settleRound copies).1.Settled config c.1, ?_,
    fun c hc => hsub c (List.mem_filter.mp hc).1, fun c hc hnot => ?_⟩
  · by_cases hne : rest = []
    · simp [hne]
    · obtain ⟨c, hc, hsettled⟩ := exists_settled_of_settleRound hs hcopies hcovered hne hsub hrest
      have hlt := List.length_filter_lt_length_iff_exists
        (p := fun c => decide ¬ (s.settleRound copies).1.Settled config c.1)
        |>.mpr ⟨c, hc, by simpa using hsettled⟩
      omega
  · by_cases hin : c ∈ rest
    · by_contra hunsettled
      exact hnot (List.mem_filter.mpr ⟨hin, by simpa using hunsettled⟩)
    · exact (hrest c hc hin).settleRound hs hcopies

/-- **As many rounds as there are unsettled copies settle them all.** -/
theorem settled_settle {rounds : Nat} (rest : List (CellId × CellId)) (hs : s.Consistent)
    (hcopies : s.AreCopies copies) (hcovered : s.Covered config copies)
    (hlength : rest.length ≤ rounds) (hsub : ∀ copy ∈ rest, copy ∈ copies)
    (hrest : ∀ copy ∈ copies, copy ∉ rest → s.Settled config copy.1) (hcopy : copy ∈ copies) :
    (s.settle copies rounds).Settled config copy.1 := by
  induction rounds generalizing s rest with
  | zero =>
    obtain rfl := List.length_eq_zero_iff.mp (Nat.le_zero.mp hlength)
    exact hrest copy hcopy List.not_mem_nil
  | succ rounds ih =>
    rw [settle_succ]
    split
    · have hbare := (bare_settleRound s copies).symm
      have hcovered' : (s.settleRound copies).1.Covered config copies := fun c hc =>
        (hcovered c hc).imp_right fun h => h.settleRound hs hcopies
      obtain ⟨rest', hlength', hsub', hrest'⟩ :=
        exists_rest_of_settleRound hs hcopies hcovered hlength hsub hrest
      exact ih rest' (hs.of_bare_eq hbare) (hcopies.of_bare_eq hs hbare) hcovered' hlength' hsub'
        hrest'
    · rename_i hchanged
      obtain ⟨hsame, hall⟩ := settleRound_unchanged hs hcopies (by simpa using hchanged)
      rw [hsame]
      exact settled_of_unchanged hs hcopies hcovered hall hcopy

/-- Settled copies stay as they are in all further rounds. -/
theorem settle_of_settled (hs : s.Consistent) (hcopies : s.AreCopies copies)
    (h : ∀ copy ∈ copies, s.Settled config copy.1) : ∀ rounds, s.settle copies rounds = s
  | 0 => rfl
  | rounds + 1 => by
      rw [settle_succ, settleRound_of_settled hs hcopies h]
      rfl

/-- Further rounds go on from where the first ones ended. -/
theorem settle_add (hs : s.Consistent) (hcopies : s.AreCopies copies) (more : Nat) :
    ∀ rounds, s.settle copies (rounds + more) = (s.settle copies rounds).settle copies more := by
  intro rounds
  induction rounds generalizing s with
  | zero => rw [Nat.zero_add, settle]
  | succ rounds ih =>
    have hbare := (bare_settleRound s copies).symm
    rw [Nat.succ_add, settle_succ, settle_succ]
    split
    · exact ih (hs.of_bare_eq hbare) (hcopies.of_bare_eq hs hbare)
    · rename_i hchanged
      have hsame := (settleRound_unchanged hs hcopies (by simpa using hchanged)).1
      rw [hsame]
      cases more with
      | zero => rfl
      | succ more => rw [settle_succ, if_neg hchanged, hsame]

/-! ## Dependents -/

theorem dependentsOf_settleOne (s : Sheet) (copy : CellId × CellId) (j : CellId) :
    (s.settleOne copy).1.dependentsOf j = s.dependentsOf j := by
  rw [settleOne]
  split
  · split
    · rfl
    · exact dependentsOf_setValue s _ j _
  · rfl

theorem dependentsOf_settleRound : ∀ (s : Sheet) (copies : List (CellId × CellId)) (j : CellId),
    (s.settleRound copies).1.dependentsOf j = s.dependentsOf j
  | _, [], _ => rfl
  | s, copy :: copies, j =>
      (dependentsOf_settleRound (s.settleOne copy).1 copies j).trans
        (dependentsOf_settleOne s copy j)

theorem dependentsOf_settle (copies : List (CellId × CellId)) (j : CellId) :
    ∀ (rounds : Nat) (s : Sheet), (s.settle copies rounds).dependentsOf j = s.dependentsOf j
  | 0, _ => rfl
  | rounds + 1, s => by
      rw [settle_succ]
      split
      · exact (dependentsOf_settle copies j rounds _).trans (dependentsOf_settleRound s copies j)
      · exact dependentsOf_settleRound s copies j

/-! ## Values of other cells -/

/-- Settling leaves cells alone that copy nothing. -/
theorem valueOf_settleOne_of_ne (s : Sheet) {copy : CellId × CellId} {j : CellId}
    (h : copy.1 ≠ j) : (s.settleOne copy).1.valueOf j = s.valueOf j := by
  rw [settleOne]
  split
  · split
    · rfl
    · exact valueOf_setValue_of_ne h.symm _
  · rfl

theorem valueOf_settleRound_of_forall_ne {j : CellId} :
    ∀ (s : Sheet) {copies : List (CellId × CellId)}, (∀ copy ∈ copies, copy.1 ≠ j) →
      (s.settleRound copies).1.valueOf j = s.valueOf j
  | _, [], _ => rfl
  | s, copy :: _, h =>
      (valueOf_settleRound_of_forall_ne (s.settleOne copy).1 fun c hc =>
        h c (List.mem_cons_of_mem _ hc)).trans
        (valueOf_settleOne_of_ne s (h copy List.mem_cons_self))

theorem valueOf_settle_of_forall_ne {j : CellId} {copies : List (CellId × CellId)}
    (h : ∀ copy ∈ copies, copy.1 ≠ j) :
    ∀ (rounds : Nat) (s : Sheet), (s.settle copies rounds).valueOf j = s.valueOf j
  | 0, _ => rfl
  | rounds + 1, s => by
      rw [settle_succ]
      split
      · exact (valueOf_settle_of_forall_ne h rounds _).trans (valueOf_settleRound_of_forall_ne s h)
      · exact valueOf_settleRound_of_forall_ne s h

end Sheet

end Spreadsheet
