import Spreadsheet.Proofs.Console.Commands

/-!
# Proofs/Console/Modified — the mark of a modified workbook hides no unsaved work

Along a history of commands and operations goes a baseline: the contents of the sheet when it was
last started, saved or opened.  The baseline is told by what is done and by what is answered; the
mark has no part in it.  Whatever is done either makes a new baseline, or marks the workbook as
modified, or leaves contents and mark alone (`marksChanges_act`).  So a workbook that is not marked
holds its baseline, after any history (`contents_eq_baseline`).
-/

namespace Spreadsheet

/-- Whether a command with this answer makes a new baseline: it has started over, or saved or opened
a file. -/
def Command.renews (answer : String) : Command → Bool
  | newSheet => true
  | save file => answer = "saved to " ++ file
  | load file => answer = "loaded " ++ file
  | _ => false

namespace Workbook

variable {σ : Type} {system : FileSystem σ} {b b' : Workbook}

/-! ## Histories and their baselines -/

/-- What can be done with a workbook: a command, which finds the files in some state, or one of the
operations that commands are made of. -/
inductive Action (σ : Type) where
  | command (files : σ) (command : Command)
  | request (request : Request)
  | markSaved (file : String)
  | clearStatus

/-- The workbook after an action. -/
def act (system : FileSystem σ) (b : Workbook) : Action σ → Workbook
  | .command files command => ((b.execute command).runWith system files).1.workbook
  | .request request => b.perform request
  | .markSaved file => b.markSaved file
  | .clearStatus => { b with status := none }

/-- What a command answers. -/
def answerTo (system : FileSystem σ) (b : Workbook) (files : σ) (command : Command) : String :=
  ((b.execute command).runWith system files).1.text

/-- Whether an action makes a new baseline: a command whose answer says so, or a request that takes
over a sheet without marking it, or the mark that a file holds the sheet. -/
def renews (system : FileSystem σ) (b : Workbook) : Action σ → Bool
  | .command files command => command.renews (b.answerTo system files command)
  | .request request => request.renews
  | .markSaved _ => true
  | .clearStatus => false

/-- The workbook after a list of actions. -/
def actAll (system : FileSystem σ) (b : Workbook) (actions : List (Action σ)) : Workbook :=
  actions.foldl (act system) b

/-- The baseline after a list of actions. -/
def baselineAfter (system : FileSystem σ) (b : Workbook) (baseline : Sheet.Contents) :
    List (Action σ) → Sheet.Contents
  | [] => baseline
  | action :: actions =>
      let b' := b.act system action
      b'.baselineAfter system
        (if b.renews system action then b'.sheet.contents else baseline) actions

/-! ## One action -/

theorem renews_of_request? {command : Command} {request : Request}
    (h : command.request? = some request) (answer : String) :
    command.renews answer = request.renews := by
  cases command <;> cases h <;> rfl

/-- A command whose answer reports no new baseline marks what it changes. -/
theorem Leaves.marksChanges {command : Command} {answer : String}
    (hleaves : b.Leaves command answer b') (h : command.renews answer = false) :
    b.MarksChanges b' := by
  cases hleaves with
  | kept => exact .refl b
  | performed hrequest =>
    rw [renews_of_request? hrequest] at h
    exact marksChanges_perform h
  | saved file => exact absurd rfl (of_decide_eq_false h)
  | loaded file => exact absurd rfl (of_decide_eq_false h)
  | imported => exact .inl rfl

/-- **An action that makes no new baseline marks what it changes.** -/
theorem marksChanges_act {action : Action σ} (h : b.renews system action = false) :
    b.MarksChanges (b.act system action) := by
  cases action with
  | command files command => exact (leaves_execute b command files).marksChanges h
  | request request => exact marksChanges_perform h
  | markSaved file => cases h
  | clearStatus => exact .refl b

/-! ## Any history -/

/-- A workbook that is not marked as modified holds its baseline. -/
def UpToDate (b : Workbook) (baseline : Sheet.Contents) : Prop :=
  b.dirty = false → b.sheet.contents = baseline

theorem UpToDate.of_marksChanges {baseline : Sheet.Contents} (h : b.UpToDate baseline)
    (hmarks : b.MarksChanges b') : b'.UpToDate baseline := by
  intro hclean
  rcases hmarks with hdirty | ⟨hdirty, hcontents⟩
  · rw [hdirty] at hclean
    cases hclean
  · rw [hcontents]
    exact h (hdirty.symm.trans hclean)

theorem UpToDate.act {baseline : Sheet.Contents} (h : b.UpToDate baseline) (action : Action σ) :
    (b.act system action).UpToDate
      (if b.renews system action then (b.act system action).sheet.contents else baseline) := by
  cases hrenews : b.renews system action with
  | true => exact fun _ => rfl
  | false => exact h.of_marksChanges (marksChanges_act hrenews)

theorem UpToDate.actAll : ∀ (actions : List (Action σ)) {b : Workbook} {baseline : Sheet.Contents},
    b.UpToDate baseline →
      (b.actAll system actions).UpToDate (b.baselineAfter system baseline actions)
  | [], _, _, h => h
  | action :: actions, _, _, h => UpToDate.actAll actions (h.act action)

/-- **A workbook that is not marked as modified holds what was last started, saved or opened** —
whatever was done before, and whether or not it succeeded.  So nothing is lost when `quit` has
nothing to say. -/
theorem contents_eq_baseline (system : FileSystem σ) (config : Config) (actions : List (Action σ)) :
    let b := (new config).actAll system actions
    let baseline := (new config).baselineAfter system (new config).sheet.contents actions
    (b.dirty = false → b.sheet.rows = baseline.rows ∧ b.sheet.cols = baseline.cols
        ∧ ∀ p, b.sheet.textAt? p = baseline.textAt? p)
      ∧ ∀ files, b.answerTo system files .quit = "" → b.sheet.rows = baseline.rows
        ∧ b.sheet.cols = baseline.cols ∧ ∀ p, b.sheet.textAt? p = baseline.textAt? p := by
  intro b baseline
  have hclean : b.dirty = false → b.sheet.rows = baseline.rows ∧ b.sheet.cols = baseline.cols
      ∧ ∀ p, b.sheet.textAt? p = baseline.textAt? p := by
    intro hdirty
    have hstart : (new config).UpToDate (new config).sheet.contents := fun _ => rfl
    have hcontents : b.sheet.contents = baseline := hstart.actAll actions hdirty
    rw [← hcontents]
    exact ⟨rfl, rfl, fun _ => rfl⟩
  refine ⟨hclean, fun files hquit => hclean ?_⟩
  have hanswer : b.answerTo system files .quit
      = if b.dirty then "unsaved changes discarded" else "" := rfl
  rw [hanswer] at hquit
  cases hdirty : b.dirty with
  | true => simp [hdirty] at hquit
  | false => rfl

/-- A text is entered, the workbook is marked as saved, and all cells are evaluated: `quit` has
nothing to say, and the sheet holds what was saved. -/
theorem contents_eq_baseline_saved :
    let actions : List (Action Folder) :=
      [.command ⟨[]⟩ (.set "A1" "7"), .markSaved "a", .command ⟨[]⟩ .recalculate]
    let b := (new {}).actAll Folder.system actions
    let baseline := (new {}).baselineAfter Folder.system (new {}).sheet.contents actions
    b.dirty = false ∧ b.answerTo Folder.system ⟨[]⟩ .quit = ""
      ∧ b.sheet.rows = baseline.rows ∧ b.sheet.cols = baseline.cols
      ∧ ∀ p, b.sheet.textAt? p = baseline.textAt? p := by
  intro actions b baseline
  have hdirty : b.dirty = false := rfl
  have hquit : b.answerTo Folder.system ⟨[]⟩ .quit = "" := rfl
  exact ⟨hdirty, hquit, (contents_eq_baseline Folder.system {} actions).2 ⟨[]⟩ hquit⟩

end Workbook

end Spreadsheet
