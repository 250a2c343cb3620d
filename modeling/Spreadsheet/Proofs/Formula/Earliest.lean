import Spreadsheet.Proofs.Formula.Completion
import Spreadsheet.Proofs.Formula.Items
import Spreadsheet.Proofs.Formula.Texts

/-!
# Proofs/Formula/Earliest — errors are reported at the earliest place

Reading stops at a token, at a place where no token can be read, or at the end of the text.  What was
read before begins a formula, because it can be completed, and if it is a token or the end that cannot
be read on, then no formula has it there: the reader decides by the tokens so far
(`parseFormula_earliest`).
-/

namespace Spreadsheet

open Text

variable {front rest : List Char} {token : Token} {ts us : List Token}
  {position place : Nat} {text : String}

/-! ## Refusals -/

/-- The item a fault is about. -/
def FaultCause.item : FaultCause → Item
  | lexical fault => .fault fault
  | unknownIdentifier name => .token (.identifier name)
  | unexpected found | expected _ found => found.elim .ending .token
  | trailing found => .token found

namespace ParseState

variable {state next : ParseState} {cause : FaultCause}

/-- The reader cannot go on with an item. -/
def Refuses (state : ParseState) : Item → Prop
  | .token token => ∃ cause, state.step token = .error cause
  | .fault _ => True
  | .ending => ∃ cause, state.finish = .error cause

theorem item_of_stepOperand {frames : List Frame} (h : stepOperand frames token = .error cause) :
    cause.item = .token token := by
  cases token <;> cases h <;> rfl

theorem item_of_stepComplete {frames : List Frame} {e : Expr}
    (h : stepComplete frames e token = .error cause) : cause.item = .token token := by
  rw [stepComplete] at h
  split at h
  · cases h
  · rw [stepClosing] at h
    split at h
    · split at h <;> cases h
      rfl
    · split at h <;> cases h
      rfl
    · cases h
      rfl

/-- **The report of a refused token is about that token.** -/
theorem item_of_step (h : state.step token = .error cause) : cause.item = .token token := by
  obtain ⟨mode, frames⟩ := state
  cases mode with
  | start =>
    simp only [step] at h
    split at h
    · cases h
    · exact item_of_stepOperand h
  | operand => exact item_of_stepOperand h
  | argument f =>
    simp only [step] at h
    split at h <;> cases h
    rfl
  | complete e => exact item_of_stepComplete h

theorem item_of_unwind {frames : List Frame} {e : Expr} (h : unwind frames e = .error cause) :
    cause.item = .ending := by
  fun_induction unwind frames e with
  | case1 => cases h
  | case2 e frames ih => exact ih h
  | case3 =>
    cases h
    rfl

theorem item_of_finish (h : state.finish = .error cause) : cause.item = .ending := by
  obtain ⟨mode, frames⟩ := state
  cases mode with
  | complete e => exact item_of_unwind h
  | _ =>
    cases h
    rfl

theorem read_append (h : state.read ts = .ok next) (us : List Token) :
    state.read (ts ++ us) = next.read us := by
  induction ts generalizing state with
  | nil =>
    cases h
    rfl
  | cons token ts ih =>
    rw [read] at h
    split at h
    · rename_i middle hstep
      rw [List.cons_append, read, hstep]
      exact ih h
    · cases h

end ParseState

variable {item : Item}

/-- The item comes behind the first tokens of a list, or the list ends there. -/
def Item.Follows (item : Item) (ts us : List Token) : Prop :=
  match item with
  | .token token => ts ++ [token] <+: us
  | .fault _ => False
  | .ending => us = ts

/-- **What the reader refuses, no formula has.** -/
theorem ParseState.Refuses.not_follows {state : ParseState} {e : Expr}
    (h : state.Refuses item) (hread : initial.read ts = .ok state) (he : recognize us = .ok e) :
    ¬item.Follows ts us := by
  intro hfollows
  obtain ⟨last, hlast, hfinish⟩ := recognize_eq_ok_iff.mp he
  cases item with
  | token token =>
    obtain ⟨cause, hstep⟩ := h
    obtain ⟨behind, rfl⟩ := hfollows
    rw [List.append_assoc, read_append hread, List.singleton_append, read, hstep] at hlast
    cases hlast
  | fault => exact hfollows
  | ending =>
    obtain ⟨cause, hcause⟩ := h
    obtain rfl : us = ts := hfollows
    obtain rfl := Except.ok.inj (hread.symm.trans hlast)
    rw [hcause] at hfinish
    cases hfinish

/-! ## Where reading stops -/

/-- Reading stops at an item of the scan that the reader refuses. -/
theorem shows_of_readLexemes {ending : Ending} {fault : Fault} : ∀ {lexemes : List Lexeme}
    {state : ParseState}, readLexemes state lexemes = .error fault → ∃ ts next,
      Shows ⟨lexemes, ending⟩ ts fault.cause.item fault.position ∧ state.read ts = .ok next
        ∧ next.Refuses fault.cause.item
  | [], state, h => by cases h
  | lexeme :: lexemes, state, h => by
      rw [readLexemes, stepLexeme] at h
      cases hstep : state.step lexeme.token with
      | ok middle =>
        rw [hstep] at h
        have h : readLexemes middle lexemes = .error fault := h
        obtain ⟨ts, next, hshows, hread, hrefuses⟩ := shows_of_readLexemes h
        exact ⟨lexeme.token :: ts, next, .later hshows,
          (ParseState.read_cons hstep ts).trans hread, hrefuses⟩
      | error cause =>
        rw [hstep] at h
        cases h
        rw [ParseState.item_of_step hstep]
        exact ⟨[], state, .token, rfl, cause, hstep⟩

theorem shows_of_parseScan {scan : Scan} {fault : Fault} (h : parseScan scan = .error fault) :
    ∃ ts state, Shows scan ts fault.cause.item fault.position
      ∧ ParseState.initial.read ts = .ok state ∧ state.Refuses fault.cause.item := by
  obtain ⟨lexemes, ending⟩ := scan
  rw [parseScan] at h
  split at h
  · cases h
    rename_i hread
    exact shows_of_readLexemes hread
  · rename_i state hread
    have hread := readLexemes_eq_ok_iff.mp hread
    split at h
    · cases h
      rename_i heq
      dsimp only at heq
      subst heq
      exact ⟨_, state, Shows.behind .failed lexemes, hread, trivial⟩
    · rename_i heq
      dsimp only at heq
      subst heq
      split at h
      · cases h
      · rename_i cause hfinish
        cases h
        rw [ParseState.item_of_finish hfinish]
        exact ⟨_, state, Shows.behind .finished lexemes, hread, cause, hfinish⟩

/-! ## Errors -/

/-- **What was read of a text begins a formula**: the same characters with a completion behind. -/
theorem exists_completed {state : ParseState} (hcuts : Cuts front rest ts)
    (hread : ParseState.initial.read ts = .ok state) :
    ∃ us e, parseFormula (String.ofList (front ++ ' ' :: spell us)) = .ok e
      ∧ (scan (front ++ ' ' :: spell us)).tokens = ts ++ us := by
  obtain ⟨us, e, hus, he⟩ := ParseState.exists_completion hread
  have hwhole := (hcuts.gentler (gentler_blank rest _)).whole
    (.blank (by decide) (cuts_spell hus))
  refine ⟨us, e, parseFormula_eq_ok_iff_cuts.mpr ⟨_, ?_, he⟩, (cuts_iff.mp hwhole).2⟩
  rwa [String.toList_ofList]

/-- **An item offends in a text**: what is before it begins a formula, and no formula has it behind
the same tokens. -/
structure Offends (item : Item) (text : String) (ts : List Token) (position : Nat) : Prop where
  /-- The item stands behind the tokens, and it is reported where it stands. -/
  heads : ∃ front rest offset, text.toList = front ++ rest ∧ Cuts front rest ts
    ∧ Heads item rest offset ∧ position = front.length + offset
  position_le : position ≤ text.length
  completable : ∃ text' us e, parseFormula text' = .ok e
    ∧ (scan text'.toList).tokens = ts ++ us
  refused : ∀ text' e, parseFormula text' = .ok e →
    ¬item.Follows ts (scan text'.toList).tokens

/-- **Errors are reported at the earliest place.**  If a text is no formula, the report is about an
item that offends in it, at its place. -/
theorem parseFormula_earliest {err : SyntaxError} (h : parseFormula text = .error err) :
    ∃ fault ts, parse text.toList = .error fault ∧ err = fault.report
      ∧ Offends fault.cause.item text ts err.position := by
  rw [parseFormula] at h
  split at h
  · cases h
  rename_i fault hparse
  cases h
  obtain ⟨ts, state, hshows, hread, hrefuses⟩ := shows_of_parseScan hparse
  obtain ⟨front, rest, offset, htext, hcuts, hheads, hplace⟩ := hshows.exists_heads
  rw [Nat.zero_add] at hplace
  refine ⟨fault, ts, hparse, rfl, ⟨front, rest, offset, htext, hcuts, hheads, hplace⟩, ?_, ?_, ?_⟩
  · have := hheads.offset_le
    rw [← String.length_toList, htext, List.length_append]
    change fault.position ≤ _
    omega
  · obtain ⟨us, e, he, htokens⟩ := exists_completed hcuts hread
    exact ⟨_, us, e, he, by rwa [String.toList_ofList]⟩
  · intro text' e he
    have hrecognize := ParseState.recognize_of_derives (parseFormula_eq_ok_iff.mp he).2
    exact hrefuses.not_follows hread hrecognize

/-- A closing parenthesis where an operand should start. -/
theorem parseFormula_earliest_paren :
    parseFormula "1 + )" = .error ⟨"Unexpected token: RightParen", 4⟩
      ∧ ∃ ts, Offends (.token .rightParen) "1 + )" ts 4 := by
  have h : parseFormula "1 + )" = .error ⟨"Unexpected token: RightParen", 4⟩ := by decide +kernel
  have hparse : parse "1 + )".toList = .error ⟨.unexpected (some .rightParen), 4⟩ := by
    decide +kernel
  obtain ⟨fault, ts, hfault, -, hoffends⟩ := parseFormula_earliest h
  obtain rfl := Except.error.inj (hparse.symm.trans hfault)
  exact ⟨h, ts, hoffends⟩

end Spreadsheet
