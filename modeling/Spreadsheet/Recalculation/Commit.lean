import Spreadsheet.Recalculation.Journal
import Std.Data.TreeSet.Lemmas

/-!
# Recalculation/Commit — evaluating a changed cell and everything that depends on it

A commit forgets the references of the cell, evaluates it anew, and then walks the graph of
dependents depth first, evaluating every cell it reaches once.  The walk keeps a list of cells still
to visit; the dependents of a visited cell, as recorded right after its evaluation, go in front.
-/

namespace Spreadsheet

/-- A cell and what it shows. -/
structure CellUpdate where
  id : CellId
  name : String
  value : String
deriving DecidableEq, Repr

/-- What a cell shows; an id without a cell shows nothing. -/
def Sheet.update (s : Sheet) (id : CellId) : CellUpdate := ⟨id, s.nameOf id, s.valueOf id⟩

/-! ## The walk -/

/-- A walk over the dependents under way. -/
structure Walk where
  sheet : Sheet
  /-- The cells that need no further visit. -/
  visited : Std.TreeSet CellId
  /-- The cells evaluated on the way, latest first, and what they show. -/
  updates : List CellUpdate
  /-- What was noted on the way, latest first. -/
  notices : Journal

namespace Walk

/-- Evaluates a cell and marks it as visited. -/
def visit (config : Config) (id : CellId) (w : Walk) : Walk :=
  let (verdict, s) := w.sheet.refresh config id
  let update := s.update id
  { sheet := s
    visited := w.visited.insert id
    updates := update :: w.updates
    notices := .propagated update.name update.value ::
      (s.recoveryNotice id verdict ++ w.notices) }

/-- The cells that have not been visited, by the numbers of their ids. -/
def unvisited (w : Walk) : List Nat :=
  (List.range w.sheet.slots.size).filter fun i =>
    w.sheet.isLive ⟨i⟩ && !w.visited.contains ⟨i⟩

/-- The cells to visit after a cell: its dependents, then the others. -/
def pending (w : Walk) (id : CellId) (rest : List CellId) : List CellId :=
  w.sheet.dependentsOf id ++ rest

theorem contains_visited_visit (config : Config) (id j : CellId) (w : Walk) :
    (w.visit config id).visited.contains j = (id == j || w.visited.contains j) := by
  show (w.visited.insert id).contains j = _
  rw [Std.TreeSet.contains_insert, Bool.eq_iff_iff]
  simp

theorem isLive_visit (config : Config) (id j : CellId) (w : Walk) :
    (w.visit config id).sheet.isLive j = w.sheet.isLive j :=
  Sheet.isLive_refresh w.sheet config id j

theorem size_slots_visit (config : Config) (id : CellId) (w : Walk) :
    (w.visit config id).sheet.slots.size = w.sheet.slots.size :=
  Sheet.size_slots_refresh w.sheet config id

/-- A visit takes the visited cell off the cells to visit. -/
theorem unvisited_visit (config : Config) (id : CellId) (w : Walk) :
    (w.visit config id).unvisited = w.unvisited.filter fun i => !(id == (⟨i⟩ : CellId)) := by
  unfold unvisited
  rw [size_slots_visit, List.filter_filter]
  refine List.filter_congr fun i _ => ?_
  rw [isLive_visit, contains_visited_visit]
  cases id == (⟨i⟩ : CellId) <;> simp

/-- A visit never adds to the cells to visit. -/
theorem unvisited_visit_le (config : Config) (id : CellId) (w : Walk) :
    (w.visit config id).unvisited.length ≤ w.unvisited.length := by
  rw [unvisited_visit]
  exact List.length_filter_le _ _

/-- **A visit to a live cell leaves fewer cells to visit.** -/
theorem unvisited_visit_lt (config : Config) {id : CellId} {w : Walk}
    (hv : w.visited.contains id = false) (hl : w.sheet.isLive id = true) :
    (w.visit config id).unvisited.length < w.unvisited.length := by
  rw [unvisited_visit]
  refine List.length_filter_lt_length_iff_exists.mpr ⟨id.index, ?_, by simp⟩
  refine List.mem_filter.mpr ⟨List.mem_range.mpr ?_, by simp [hv, hl]⟩
  simp only [Sheet.isLive, Sheet.cell?, Option.isSome_iff_exists, Option.join_eq_some_iff] at hl
  obtain ⟨c, hc⟩ := hl
  exact (Array.getElem?_eq_some_iff.mp hc).1

/-- An id without a cell adds nothing to the cells to visit. -/
theorem pending_of_not_isLive {w : Walk} {id : CellId} {rest : List CellId}
    (hl : w.sheet.isLive id = false) : w.pending id rest = rest := by
  simp only [Sheet.isLive, Option.isSome_eq_false_iff, Option.isNone_iff_eq_none] at hl
  simp [pending, Sheet.dependentsOf, hl]

/-- Visits the listed cells and everything that depends on them. -/
def run (config : Config) (w : Walk) (work : List CellId) : Walk :=
  match work with
  | [] => w
  | id :: rest =>
      if w.visited.contains id then w.run config rest
      else (w.visit config id).run config ((w.visit config id).pending id rest)
termination_by (w.unvisited.length, work.length)
decreasing_by
  · exact Prod.Lex.right _ (by simp)
  · rename_i hv
    cases hl : w.sheet.isLive id with
    | true =>
        have hv : w.visited.contains id = false := by simpa only [Bool.not_eq_true] using hv
        exact Prod.Lex.left _ _ (unvisited_visit_lt config hv hl)
    | false =>
        rw [pending_of_not_isLive (by rw [isLive_visit, hl])]
        rcases Nat.lt_or_eq_of_le (unvisited_visit_le config id w) with h | h
        · exact Prod.Lex.left _ _ h
        · rw [h]
          exact Prod.Lex.right _ (by simp)

end Walk

/-! ## Committing a cell -/

/-- What a commit did. -/
structure CommitReport where
  /-- The committed cell. -/
  cell : CellUpdate
  /-- The failure to tell the user, if the cell did not show it before. -/
  message : Option String
  /-- The other cells evaluated, in the order of the walk. -/
  dependents : List CellUpdate
  journal : Journal
deriving DecidableEq, Repr

namespace CommitReport

/-- The committed cell and the other cells evaluated. -/
def updates (report : CommitReport) : List CellUpdate := report.cell :: report.dependents

end CommitReport

namespace Sheet

/-- Where a walk from a cell begins: nothing but that cell is visited. -/
def startWalk (s : Sheet) (id : CellId) : Walk := ⟨s, (∅ : Std.TreeSet CellId).insert id, [], []⟩

/-- Evaluates a cell with its references found anew, and everything that depends on it. -/
def commit (s : Sheet) (config : Config) (id : CellId) : CommitReport × Sheet :=
  let previous := s.valueOf id
  let (verdict, s) := (s.removeDependent id).refresh config id
  let cell := s.update id
  let message := if cell.value = previous then none else verdict.outcome.message
  let warning : Journal := message.toList.map (.failed cell.name)
  let w := (s.startWalk id).run config (s.dependentsOf id)
  let journal := s.recoveryNotice id verdict ++ warning ++
    .committed cell.name cell.value :: w.notices.reverse
  (⟨cell, message, w.updates.reverse, journal⟩, w.sheet)

end Sheet

end Spreadsheet
