import Spreadsheet.Proofs.Evaluation.Reads

/-!
# Proofs/Evaluation/Noted — a pass notes exactly the references it comes to

An evaluation resolves the references of a formula from left to right and stops at the first that
cannot be read.  So a pass that notes a reference of a cell has read every reference before it, and
the cell `Reads` what it refers to (`notesReads_runPass`); together with `mem_references_of_reads`,
the references noted for the evaluated cell are known from the texts alone
(`mem_references_iff_reads`), whether or not the evaluation fails in the end.
-/

namespace Spreadsheet

namespace Sheet

variable {s : Sheet} {id target current : CellId} {name : String} {path : List CellId} {p : Pass}

/-- Every reference noted is one that the evaluation of the referring cell comes to. -/
def NotesReads (s : Sheet) (p : Pass) : Prop := ∀ r ∈ p.references, s.Reads r.2 r.1

/-- The names resolved so far can all be read. -/
def AllRead (s : Sheet) (names : List String) : Prop :=
  ∀ name ∈ names, ∃ t, s.lookup name = some t ∧ s.Grounded t

theorem AllRead.append {names : List String} (h : s.AllRead names) {x : Float}
    (hx : s.plainReference path name = .ok x) : s.AllRead (names ++ [name]) := fun n hn =>
  (List.mem_append.mp hn).elim (h n) fun hn =>
    List.mem_singleton.mp hn ▸ grounded_of_plainReference hx

theorem Meets.isLive (h : s.Meets id name) : s.isLive id = true := by
  obtain ⟨e, -, -, he, -⟩ := h
  exact isLive_of_formula? he

/-- Evaluating a text keeps the notes right, when resolving a name the text meets does. -/
theorem NotesReads.evaluateText {resolve : String → Pass → PassResult Float} {id : CellId}
    (hfaithful : s.Faithful path (p.count id)) (h : s.NotesReads p)
    (hyields : ∀ e, s.formula? id = some e → ∀ name ∈ e.references, ∀ p, s.Faithful path p →
      Yields (resolve name p) (s.plainReference path name) (s.Faithful path)
        fun _ => s.NotesReferences)
    (hnotes : ∀ name, s.Meets id name → ∀ p, s.Faithful path p → s.NotesReads p →
      s.NotesReads (resolve name p).2) :
    s.NotesReads (s.evaluateText resolve id p).2 := by
  obtain ⟨-, hafter⟩ := evaluateText_yields resolve (s.plainReference path)
    (fun names p => s.Faithful path p ∧ s.NotesReads p ∧ s.AllRead names)
    (fun _ p => s.NotesReads p)
    (fun e he earlier name later p hrefs ⟨hp, hread, hearlier⟩ => by
      have hkept := hnotes name ⟨e, earlier, later, he, hrefs, hearlier⟩ p hp hread
      exact (hyields e he name (by simp [hrefs]) p hp).imp
        (fun _ hx hp' => ⟨hp', hkept, hearlier.append hx⟩) fun _ _ _ => hkept)
    ⟨hfaithful, h, fun _ hn => absurd hn List.not_mem_nil⟩
    (fun _ p' hp' _ => by rcases hp' with rfl | rfl <;> exact h)
  cases hv : s.plainText (s.plainReference path) id with
  | ok y =>
    rw [hv] at hafter
    obtain ⟨-, -, -, hnoted, -⟩ := hafter
    exact hnoted
  | error err =>
    rw [hv] at hafter
    exact hafter

/-- **Resolving a name that the text of a cell meets keeps the notes right.** -/
theorem NotesReads.resolveWithin : ∀ {depth : Nat} {path : List CellId} {current : CellId}
    {name : String} {p : Pass}, s.Trail path current → s.slots.size < path.length + depth →
    s.Meets current name → s.Faithful path p → s.NotesReads p →
    s.NotesReads (s.resolveWithin depth current name p).2 := by
  intro depth
  induction depth with
  | zero =>
    intro path current name p htrail hdepth
    exact absurd htrail.length_le (by omega)
  | succ depth ih =>
    intro path current name p htrail hdepth hmeets hp h
    have ⟨e, earlier, later, he, hrefs, _⟩ := hmeets
    have hstep : ∀ target, s.lookup name = some target → s.RefersTo current target :=
      fun target hlookup => ⟨e, name, he, by simp [hrefs], hlookup⟩
    have hnoted : ∀ target, s.lookup name = some target → s.NotesReads (p.note target current) :=
      fun target hlookup r hr =>
        (List.mem_cons.mp hr).elim (fun heq => heq ▸ ⟨name, hmeets, hlookup⟩) (h r)
    refine resolveWithin_cases (motive := fun step => s.NotesReads step.2) (fun _ => h)
      (fun target _ hlookup _ => hnoted target hlookup)
      (fun target hlookup _ _ => hnoted target hlookup)
      fun target deeper hlookup _ hnew hdeeper => ?_
    obtain rfl := Nat.succ.inj hdeeper
    rw [hp.inProgress] at hnew
    have htrail' := htrail.cons (hstep target hlookup) hnew
    have hdepth' : s.slots.size < (target :: path).length + depth := by
      rw [List.length_cons]
      omega
    exact NotesReads.evaluateText ((hp.enter (hstep target hlookup)).count target)
      (hnoted target hlookup)
      (fun e' he' inner hinner p' hp' =>
        resolveWithin_yields (htrail' (isLive_of_formula? he')) hdepth' he' hinner hp')
      fun inner hinner p' hp' hread => ih (htrail' hinner.isLive) hdepth' hinner hp' hread

end Sheet

end Spreadsheet
