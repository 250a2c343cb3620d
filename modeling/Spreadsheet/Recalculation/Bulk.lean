import Spreadsheet.Recalculation.Commit

/-!
# Recalculation/Bulk — evaluating every cell

A recalculation forgets all dependents and evaluates every cell once.  A cell that shows another
cell's value may have been evaluated before that cell; such cells are settled afterwards, in rounds,
until a round changes nothing.
-/

namespace Spreadsheet

/-- What a recalculation did. -/
structure Recalculation where
  updates : List CellUpdate
  journal : Journal
deriving DecidableEq, Repr

namespace Sheet

/-! ## The sweep -/

/-- A sweep over the cells under way. -/
structure Sweep where
  sheet : Sheet
  /-- The cells that show another cell's value, latest first, each with that cell. -/
  copies : List (CellId × CellId)
  /-- What was noted on the way, latest first. -/
  notices : Journal

/-- Evaluates the next cell of a sweep. -/
def Sweep.next (config : Config) (sweep : Sweep) (id : CellId) : Sweep :=
  let (verdict, s) := sweep.sheet.refresh config id
  { sheet := s
    copies := (verdict.outcome.source?.toList.map fun source => (id, source)) ++ sweep.copies
    notices := s.recoveryNotice id verdict ++ sweep.notices }

/-- Evaluates the listed cells in turn. -/
def sweep (s : Sheet) (config : Config) (order : List CellId) : Sweep :=
  order.foldl (Sweep.next config) ⟨s, [], []⟩

/-! ## Settling the copies -/

/-- Copies one value, and tells whether that changed anything. -/
def settleOne (s : Sheet) (copy : CellId × CellId) : Sheet × Bool :=
  match s.cell? copy.2, s.cell? copy.1 with
  | some source, some target =>
      if target.value = source.value then (s, false) else (s.setValue copy.1 source.value, true)
  | _, _ => (s, false)

/-- Copies every value once, and tells whether that changed anything. -/
def settleRound (s : Sheet) : List (CellId × CellId) → Sheet × Bool
  | [] => (s, false)
  | copy :: copies =>
      let (s, changed) := s.settleOne copy
      let (s, changedLater) := s.settleRound copies
      (s, changed || changedLater)

/-- Copies values in at most so many rounds, until a round changes nothing. -/
def settle (copies : List (CellId × CellId)) : Nat → Sheet → Sheet
  | 0, s => s
  | rounds + 1, s =>
      let (s, changed) := s.settleRound copies
      if changed then s.settle copies rounds else s

/-! ## Recalculating -/

/-- Evaluates the listed cells in this order, with all references found anew. -/
def recalculateIn (s : Sheet) (config : Config) (order : List CellId) : Recalculation × Sheet :=
  let swept := s.clearDependents.sweep config order
  let copies := swept.copies.reverse
  let s := swept.sheet.settle copies copies.length
  (⟨order.map s.update, swept.notices.reverse ++ [.recalculated order.length]⟩, s)

/-- Evaluates every cell, row by row. -/
def recalculate (s : Sheet) (config : Config) : Recalculation × Sheet :=
  s.recalculateIn config s.ids

end Sheet

end Spreadsheet
