import Spreadsheet.Proofs.Formula.Grammar
import Spreadsheet.Proofs.Formula.Leaves

/-!
# Proofs/Formula/Sound — what the reader accepts derives from the grammar

Between two tokens the stack and the formula read last account for all tokens read so far: each
frame for the tokens that opened it, an operator for its left operand as well.  A frame below an
operator never binds as tightly as the operator takes its operand from (`Below`), and so every
operation that the reader completes is one of the grammar.
-/

namespace Spreadsheet

namespace ParseState

/-! ## The stack -/

/-- No sign waits for the operand, nor an operator that binds at the level or tighter. -/
def Below (level : Nat) : List Frame → Prop
  | .sign _ :: _ => False
  | .operator _ op :: _ => op.level < level
  | _ => True

/-- No sign waits for the operand, and if an operator does, it takes one of the level. -/
def Fits (level : Nat) : List Frame → Prop
  | .sign _ :: _ => False
  | .operator _ op :: _ => op.givesTo ≤ level
  | _ => True

/-- The tokens that left a stack of frames waiting. -/
inductive Waiting : List Frame → List Token → Prop
  | nil : Waiting [] []
  | marker {frames ts} : Waiting frames ts → Waiting (.marker :: frames) (ts ++ [.equal])
  | sign {frames ts} (s : Sign) : Waiting frames ts →
      Waiting (.sign s :: frames) (ts ++ [s.token])
  | group {frames ts} : Waiting frames ts → Waiting (.group :: frames) (ts ++ [.leftParen])
  | call {frames ts} (f : Builtin) : Waiting frames ts →
      Waiting (.call f :: frames) (ts ++ [.function f, .leftParen])
  | operator {frames ts us left token op} : Waiting frames ts → Below op.takesFrom frames →
      Derives (.ofLevel op.takesFrom) us left → BinaryOp.ofToken? token = some op →
      Waiting (.operator left op :: frames) (ts ++ us ++ [token])

/-- A stack and a formula account for tokens: those that opened the frames, then those of the
formula. -/
def Split (level : Nat) (frames : List Frame) (e : Expr) (ts : List Token) : Prop :=
  ∃ opening us, ts = opening ++ us ∧ Waiting frames opening ∧ Derives (.ofLevel level) us e

variable {frames : List Frame} {ts us : List Token} {e : Expr} {token : Token} {op : BinaryOp}
  {level n : Nat} {state next : ParseState}

/-- Every operator takes a unary formula behind it. -/
theorem Below.fits_unary (h : Below level frames) : Fits 4 frames := by
  cases frames with
  | nil => trivial
  | cons frame frames =>
    cases frame with
    | operator left op =>
      show op.givesTo ≤ 4
      cases op <;> decide
    | _ => exact h

/-- Below an operator, its own operation is what the next operator takes. -/
theorem Below.fits (h : Below op.takesFrom frames) : Fits op.level frames := by
  cases frames with
  | nil => trivial
  | cons frame frames =>
    cases frame with
    | operator left below =>
      change below.level < op.takesFrom at h
      show below.givesTo ≤ op.level
      revert h
      cases op <;> cases below <;> decide
    | _ => exact h

/-- **Completing waiting operators keeps the account.** -/
theorem split_reduce (hwaiting : Waiting frames ts) (he : Derives (.ofLevel n) us e)
    (hlevel : level ≤ n) (hfits : Fits n frames) :
    Split level (reduce level frames e).1 (reduce level frames e).2 (ts ++ us)
      ∧ Below level (reduce level frames e).1 := by
  fun_induction reduce level frames e generalizing n ts us with
  | case1 e left op frames hop ih =>
    cases hwaiting with
    | operator hwaiting hbelow hleft htoken =>
      have hbinary := Derives.binary htoken hleft (he.ofLevel_of_le hfits)
      rw [List.append_assoc, List.append_assoc, List.singleton_append]
      exact ih hwaiting hbinary hop hbelow.fits
  | case2 e left op frames hop =>
    exact ⟨⟨ts, us, rfl, hwaiting, he.ofLevel_of_le hlevel⟩, Nat.lt_of_not_le hop⟩
  | case3 frames e hother =>
    refine ⟨⟨ts, us, rfl, hwaiting, he.ofLevel_of_le hlevel⟩, ?_⟩
    cases frames with
    | nil => trivial
    | cons frame frames =>
      cases frame with
      | operator left op => exact (hother left op frames rfl).elim
      | _ => exact hfits

/-! ## Between two tokens -/

/-- What a state says of the tokens read so far. -/
def Accounts (state : ParseState) (ts : List Token) : Prop :=
  match state.mode with
  | .start | .operand => Waiting state.frames ts
  | .argument f => ∃ opening, ts = opening ++ [.function f] ∧ Waiting state.frames opening
  | .complete e => Split 4 state.frames e ts ∧ Below 4 state.frames

/-- A unary formula goes to the signs that wait for it. -/
theorem accounts_supply (hwaiting : Waiting frames ts) (he : Derives .unary us e) :
    (supply frames e).Accounts (ts ++ us) := by
  fun_induction supply frames e generalizing ts us with
  | case1 frames e s ih =>
    cases hwaiting with
    | sign _ hwaiting =>
      rw [List.append_assoc]
      exact ih hwaiting (.sign _ he)
  | case2 frames e hother =>
    refine ⟨⟨ts, us, rfl, hwaiting, he⟩, ?_⟩
    cases frames with
    | nil => trivial
    | cons frame frames =>
      cases frame with
      | sign s => exact (hother s frames rfl).elim
      | operator left op =>
        show op.level < 4
        cases op <;> decide
      | _ => trivial

theorem accounts_stepOperand (hwaiting : Waiting frames ts)
    (h : stepOperand frames token = .ok next) : next.Accounts (ts ++ [token]) := by
  cases token <;> simp only [stepOperand, Except.ok.injEq, reduceCtorEq] at h <;> subst h
  case number text => exact accounts_supply hwaiting (.unsigned (.number text))
  case reference name => exact accounts_supply hwaiting (.unsigned (.reference name))
  case function f => exact ⟨ts, rfl, hwaiting⟩
  case plus => exact hwaiting.sign .plus
  case minus => exact hwaiting.sign .minus
  case leftParen => exact hwaiting.group

theorem accounts_stepClosing {opening : List Token} (hwaiting : Waiting frames opening)
    (he : Derives .unary us e) (hbelow : Below 4 frames)
    (h : stepClosing frames e token = .ok next) :
    next.Accounts (opening ++ us ++ [token]) := by
  obtain ⟨⟨opening', us', happ, hwaiting', he'⟩, -⟩ :=
    split_reduce (n := 4) hwaiting he (Nat.zero_le 4) hbelow.fits_unary
  rw [happ]
  rw [stepClosing] at h
  split at h
  · rename_i outer inner hreduce
    rw [hreduce] at hwaiting' he'
    split at h
    · rename_i htoken
      cases h
      cases hwaiting' with
      | @group _ opening'' hwaiting'' =>
        have := accounts_supply hwaiting'' (.unsigned (.group he'))
        simpa [htoken] using this
    · simp at h
  · rename_i f outer inner hreduce
    rw [hreduce] at hwaiting' he'
    split at h
    · rename_i htoken
      cases h
      cases hwaiting' with
      | @call _ opening'' _ hwaiting'' =>
        have := accounts_supply hwaiting'' (.unsigned (.call f he'))
        simpa [htoken] using this
    · simp at h
  · simp at h

theorem accounts_stepComplete {opening : List Token} (hwaiting : Waiting frames opening)
    (he : Derives .unary us e) (hbelow : Below 4 frames)
    (h : stepComplete frames e token = .ok next) :
    next.Accounts (opening ++ us ++ [token]) := by
  rw [stepComplete] at h
  split at h
  · rename_i op hop
    cases h
    -- Waiting operators are completed down to the level this one takes on its left.
    have hlevel : op.takesFrom ≤ 4 := by cases op <;> decide
    obtain ⟨⟨opening', us', happ, hwaiting', he'⟩, hbelow'⟩ :=
      split_reduce (n := 4) hwaiting he hlevel hbelow.fits_unary
    rw [happ]
    exact hwaiting'.operator hbelow' he' hop
  · exact accounts_stepClosing hwaiting he hbelow h

/-- **Every token that is accepted is accounted for.** -/
theorem Accounts.step (hstate : state.Accounts ts) (h : state.step token = .ok next) :
    next.Accounts (ts ++ [token]) := by
  obtain ⟨mode, frames⟩ := state
  cases mode with
  | start =>
    simp only [ParseState.step] at h
    split at h
    · rename_i htoken
      cases h
      exact htoken ▸ Waiting.marker hstate
    · exact accounts_stepOperand hstate h
  | operand => exact accounts_stepOperand hstate h
  | argument f =>
    obtain ⟨opening, rfl, hwaiting⟩ := hstate
    simp only [ParseState.step] at h
    split at h
    · rename_i htoken
      cases h
      rw [htoken, List.append_assoc]
      exact hwaiting.call f
    · simp at h
  | complete e =>
    obtain ⟨⟨opening, us, rfl, hwaiting, he⟩, hbelow⟩ := hstate
    exact accounts_stepComplete hwaiting he hbelow h

/-! ## Reading a list of tokens -/

/-- Reads a list of tokens. -/
def read : ParseState → List Token → Except FaultCause ParseState
  | state, [] => .ok state
  | state, token :: tokens =>
      match state.step token with
      | .ok next => next.read tokens
      | .error cause => .error cause

/-- The formula that a list of tokens is read as. -/
def recognize (tokens : List Token) : Except FaultCause Expr :=
  match initial.read tokens with
  | .ok state => state.finish
  | .error cause => .error cause

theorem recognize_eq_ok_iff :
    recognize ts = .ok e ↔ ∃ state, initial.read ts = .ok state ∧ state.finish = .ok e := by
  rw [recognize]
  cases initial.read ts with
  | ok state => simp
  | error cause => simp

theorem Accounts.read : ∀ {us : List Token} {state next : ParseState} {ts : List Token},
    state.Accounts ts → state.read us = .ok next → next.Accounts (ts ++ us)
  | [], state, next, ts, hstate, h => by
      cases h
      rwa [List.append_nil]
  | token :: us, state, next, ts, hstate, h => by
      simp only [ParseState.read] at h
      split at h
      · rename_i middle hstep
        rw [List.append_cons]
        exact (hstate.step hstep).read h
      · simp at h

theorem derives_unwind {e' : Expr} (hwaiting : Waiting frames ts) (he : Derives .formula us e)
    (h : unwind frames e = .ok e') : Derives .formula (ts ++ us) e' := by
  fun_induction unwind frames e generalizing ts us with
  | case1 e =>
    cases hwaiting
    cases h
    exact he
  | case2 frames e ih =>
    cases hwaiting with
    | marker hwaiting =>
      rw [List.append_assoc]
      exact ih hwaiting he.marked h
  | case3 => simp at h

theorem derives_of_finish (hstate : state.Accounts ts) (h : state.finish = .ok e) :
    Derives .formula ts e := by
  obtain ⟨mode, frames⟩ := state
  cases mode with
  | complete e =>
    obtain ⟨⟨opening, us, rfl, hwaiting, he⟩, hbelow⟩ := hstate
    obtain ⟨⟨opening', us', happ, hwaiting', he'⟩, -⟩ :=
      split_reduce (n := 4) hwaiting he (Nat.zero_le 4) (Below.fits_unary hbelow)
    rw [happ]
    exact derives_unwind hwaiting' he'.unmarked h
  | _ => simp [finish] at h

/-- **What is recognized derives from the grammar**, with the same tree. -/
theorem derives_of_recognize (h : recognize ts = .ok e) : Derives .formula ts e := by
  obtain ⟨state, hread, hfinish⟩ := recognize_eq_ok_iff.mp h
  have hinitial : initial.Accounts [] := Waiting.nil
  exact derives_of_finish (hinitial.read hread) hfinish

end ParseState

end Spreadsheet
