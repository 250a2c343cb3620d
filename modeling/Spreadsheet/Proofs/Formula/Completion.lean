import Spreadsheet.Proofs.Formula.Sound
import Spreadsheet.Proofs.Formula.Spelling

/-!
# Proofs/Formula/Completion — whatever has been read can be completed

The frames on the stack wait for an operand, and whatever operand they are given, closing the open
parentheses makes a formula of it (`exists_derives_closed`).  For that the markers must lie at the
bottom (`MarkersFirst`), as no operation or parenthesis may hold one; the reader accepts a marker only
while the stack holds nothing else.  So the tokens that were accepted begin a formula at every time
(`exists_completion`).
-/

namespace Spreadsheet

namespace ParseState

variable {frames : List Frame} {frame : Frame} {ts us : List Token} {e : Expr} {token : Token}
  {level n : Nat} {state next : ParseState}

/-! ## Markers -/

/-- Below a marker there are only markers. -/
def MarkersFirst (frames : List Frame) : Prop :=
  frames.Pairwise fun above below => above = .marker → below = .marker

/-- What holds of the frames between two tokens: at the start they are markers. -/
def Ordered (state : ParseState) : Prop :=
  MarkersFirst state.frames ∧ (state.mode = .start → ∀ frame ∈ state.frames, frame = .marker)

theorem MarkersFirst.of_suffix {outer : List Frame} (h : MarkersFirst frames)
    (hsuffix : outer <:+ frames) : MarkersFirst outer := List.Pairwise.sublist hsuffix.sublist h

theorem MarkersFirst.ordered (h : MarkersFirst state.frames) (hmode : state.mode ≠ .start) :
    state.Ordered := ⟨h, fun hstart => absurd hstart hmode⟩

theorem MarkersFirst.push (h : MarkersFirst frames) (hframe : frame ≠ .marker) :
    Ordered ⟨.operand, frame :: frames⟩ :=
  ordered (List.pairwise_cons.mpr ⟨fun _ _ hmarker => absurd hmarker hframe, h⟩) (by simp)

/-- Signs take an operand, and the frames below them stay. -/
theorem supply_spec (frames : List Frame) (e : Expr) :
    (supply frames e).frames <:+ frames ∧ ∃ e', (supply frames e).mode = .complete e' := by
  fun_induction supply frames e with
  | case1 e s frames ih => exact ⟨ih.1.trans (List.suffix_cons _ _), ih.2⟩
  | case2 frames e hother => exact ⟨List.suffix_refl _, e, rfl⟩

theorem MarkersFirst.supply (h : MarkersFirst frames) (e : Expr) :
    (ParseState.supply frames e).Ordered := by
  obtain ⟨hsuffix, e', hmode⟩ := supply_spec frames e
  exact (h.of_suffix hsuffix).ordered (by simp [hmode])

theorem reduce_suffix (level : Nat) (frames : List Frame) (e : Expr) :
    (reduce level frames e).1 <:+ frames := by
  fun_induction reduce level frames e with
  | case1 e left op frames hop ih => exact ih.trans (List.suffix_cons _ _)
  | case2 | case3 => exact List.suffix_refl _

/-- A closing parenthesis takes frames off the stack and leaves an operand. -/
theorem exists_supply_of_stepClosing (h : stepClosing frames e token = .ok next) :
    ∃ outer e', outer <:+ frames ∧ next = supply outer e' := by
  have hsuffix := reduce_suffix 0 frames e
  rw [stepClosing] at h
  split at h
  · rename_i outer inner hreduce
    rw [hreduce] at hsuffix
    split at h <;> cases h
    exact ⟨outer, _, (List.suffix_cons _ _).trans hsuffix, rfl⟩
  · rename_i f outer inner hreduce
    rw [hreduce] at hsuffix
    split at h <;> cases h
    exact ⟨outer, _, (List.suffix_cons _ _).trans hsuffix, rfl⟩
  · cases h

theorem MarkersFirst.stepOperand (h : MarkersFirst frames)
    (hstep : stepOperand frames token = .ok next) : next.Ordered := by
  cases token <;> simp only [ParseState.stepOperand, Except.ok.injEq, reduceCtorEq] at hstep <;>
    subst hstep
  case number | reference => exact h.supply _
  case function => exact h.ordered (by simp)
  case plus | minus | leftParen => exact h.push (by simp)

theorem MarkersFirst.stepComplete (h : MarkersFirst frames)
    (hstep : stepComplete frames e token = .ok next) : next.Ordered := by
  rw [ParseState.stepComplete] at hstep
  split at hstep
  · cases hstep
    exact (h.of_suffix (reduce_suffix _ _ _)).push (by simp)
  · obtain ⟨outer, e', hsuffix, rfl⟩ := exists_supply_of_stepClosing hstep
    exact (h.of_suffix hsuffix).supply e'

/-- **A marker is accepted only above markers.** -/
theorem Ordered.step (h : state.Ordered) (hstep : state.step token = .ok next) :
    next.Ordered := by
  obtain ⟨mode, frames⟩ := state
  obtain ⟨hframes, hstart⟩ := h
  cases mode with
  | start =>
    simp only [ParseState.step] at hstep
    split at hstep
    · cases hstep
      have hmarkers : ∀ frame ∈ Frame.marker :: frames, frame = .marker :=
        List.forall_mem_cons.mpr ⟨rfl, hstart rfl⟩
      exact ⟨List.pairwise_cons.mpr ⟨fun frame hframe _ => hstart rfl frame hframe, hframes⟩,
        fun _ => hmarkers⟩
    · exact hframes.stepOperand hstep
  | operand => exact hframes.stepOperand hstep
  | argument f =>
    simp only [ParseState.step] at hstep
    split at hstep <;> cases hstep
    exact hframes.push (by simp)
  | complete e => exact hframes.stepComplete hstep

theorem Ordered.read : ∀ {us : List Token} {state next : ParseState},
    state.Ordered → state.read us = .ok next → next.Ordered
  | [], state, next, hstate, h => by
      cases h
      exact hstate
  | token :: us, state, next, hstate, h => by
      simp only [ParseState.read] at h
      split at h
      · rename_i middle hstep
        exact (hstate.step hstep).read h
      · cases h

/-! ## Closing parentheses -/

/-- Whether the frame on top takes an operand of the level. -/
def Takes (level : Nat) : List Frame → Prop
  | .sign _ :: _ => 4 ≤ level
  | .operator _ op :: _ => op.givesTo ≤ level
  | _ => True

/-- A unary formula is taken by every frame. -/
theorem takes_unary : ∀ (frames : List Frame), Takes 4 frames
  | .sign _ :: _ => Nat.le_refl 4
  | .operator _ op :: _ => by
      show op.givesTo ≤ 4
      cases op <;> decide
  | [] | .marker :: _ | .group :: _ | .call _ :: _ => trivial

theorem Fits.takes : ∀ {frames : List Frame}, Fits level frames → Takes level frames
  | .operator _ _ :: _, h => h
  | [], _ | .marker :: _, _ | .group :: _, _ | .call _ :: _, _ => trivial

/-- Markers stand before any formula. -/
theorem exists_derives_marked (hwaiting : Waiting frames ts)
    (hmarkers : ∀ frame ∈ frames, frame = .marker) (he : Derives .formula us e) :
    ∃ e', Derives .formula (ts ++ us) e' := by
  induction hwaiting generalizing us e with
  | nil => exact ⟨e, he⟩
  | marker _ ih =>
    rw [List.append_assoc]
    exact ih (fun frame hframe => hmarkers frame (List.mem_cons_of_mem _ hframe)) he.marked
  | sign | group | call | operator => cases hmarkers _ List.mem_cons_self

/-- **Whatever operand the frames are given, closing the open parentheses makes a formula.** -/
theorem exists_derives_closed (hwaiting : Waiting frames ts) (hframes : MarkersFirst frames)
    (he : Derives (.ofLevel n) us e) (htakes : Takes n frames) :
    ∃ count e', Derives .formula (ts ++ us ++ List.replicate count .rightParen) e' := by
  -- Each frame makes of its operand an operand for the frame below, up to the markers.
  induction hwaiting generalizing n us e with
  | nil =>
    have hcomparison : Derives (.ofLevel 0) us e := he.ofLevel_of_le (Nat.zero_le n)
    exact ⟨0, e, by simpa using hcomparison.unmarked⟩
  | @marker frames ts hwaiting _ =>
    have hcomparison : Derives (.ofLevel 0) us e := he.ofLevel_of_le (Nat.zero_le n)
    have hmarkers : ∀ frame ∈ frames, frame = .marker :=
      fun frame hframe => (List.pairwise_cons.mp hframes).1 frame hframe rfl
    obtain ⟨e', he'⟩ := exists_derives_marked hwaiting hmarkers hcomparison.unmarked.marked
    exact ⟨0, e', by simpa using he'⟩
  | sign s _ ih =>
    have hsign : Derives .unary (s.token :: us) (.unary s e) := .sign s (he.ofLevel_of_le htakes)
    have h := ih (n := 4) (List.pairwise_cons.mp hframes).2 hsign (takes_unary _)
    rwa [List.append_assoc _ [s.token]]
  | group _ ih =>
    have hinner : Derives (.ofLevel 0) us e := he.ofLevel_of_le (Nat.zero_le n)
    have hgroup : Derives (.ofLevel 4) (.leftParen :: (us ++ [.rightParen])) e :=
      .unsigned (.group hinner)
    obtain ⟨count, e', h⟩ := ih (List.pairwise_cons.mp hframes).2 hgroup (takes_unary _)
    exact ⟨count + 1, e', by simpa [List.replicate_succ] using h⟩
  | call f _ ih =>
    have hinner : Derives (.ofLevel 0) us e := he.ofLevel_of_le (Nat.zero_le n)
    have hcall : Derives (.ofLevel 4) (.function f :: .leftParen :: (us ++ [.rightParen]))
      (.call f e) := .unsigned (.call f hinner)
    obtain ⟨count, e', h⟩ := ih (List.pairwise_cons.mp hframes).2 hcall (takes_unary _)
    exact ⟨count + 1, e', by simpa [List.replicate_succ] using h⟩
  | operator _ hbelow hleft htoken ih =>
    have hbinary := Derives.binary htoken hleft (he.ofLevel_of_le htakes)
    obtain ⟨count, e', h⟩ := ih (List.pairwise_cons.mp hframes).2 hbinary hbelow.fits.takes
    exact ⟨count, e', by simpa using h⟩

/-! ## Completing what has been read -/

/-- The tokens that give a state an operand if it needs one. -/
def operand : Mode → List Token
  | .start | .operand => [.number "1"]
  | .argument _ => [.leftParen, .number "1", .rightParen]
  | .complete _ => []

theorem exists_derives_operand (haccounts : state.Accounts ts) (hordered : state.Ordered) :
    ∃ count e,
      Derives .formula (ts ++ operand state.mode ++ List.replicate count .rightParen) e := by
  obtain ⟨mode, frames⟩ := state
  have hone : Derives (.ofLevel 4) [.number "1"] (.number "1") := .unsigned (.number "1")
  cases mode with
  | start => exact exists_derives_closed haccounts hordered.1 hone (takes_unary _)
  | operand => exact exists_derives_closed haccounts hordered.1 hone (takes_unary _)
  | argument f =>
    obtain ⟨opening, rfl, hwaiting⟩ := haccounts
    have hcall : Derives .primary (.function f :: .leftParen :: ([.number "1"] ++ [.rightParen]))
        (.call f (.number "1")) := .call f (.comparison hone)
    obtain ⟨count, e, he⟩ :=
      exists_derives_closed (n := 4) hwaiting hordered.1 hcall.unsigned (takes_unary _)
    exact ⟨count, e, by simpa [operand] using he⟩
  | complete e =>
    obtain ⟨⟨opening, us, rfl, hwaiting, he⟩, -⟩ := haccounts
    obtain ⟨count, e', he'⟩ := exists_derives_closed hwaiting hordered.1 he (takes_unary _)
    exact ⟨count, e', by simpa [operand] using he'⟩

theorem isSpellable_operand {mode : Mode} (h : token ∈ operand mode) : token.IsSpellable := by
  have hone : IsNumberText "1".toList := ⟨['1'], by decide, List.all_eq_true.mp (by decide), .inl rfl⟩
  cases mode <;> simp only [operand, List.mem_cons, List.not_mem_nil, or_false] at h
  case start | operand => exact h ▸ hone
  case argument => rcases h with rfl | rfl | rfl <;> trivial

/-- **Whatever has been read begins a formula**, and the tokens that complete it can be written. -/
theorem exists_completion (h : initial.read ts = .ok state) :
    ∃ us e, (∀ token ∈ us, token.IsSpellable) ∧ Derives .formula (ts ++ us) e := by
  have hinitial : initial.Accounts [] ∧ initial.Ordered := ⟨Waiting.nil, .nil, fun _ => nofun⟩
  have haccounts : state.Accounts ts := hinitial.1.read h
  obtain ⟨count, e, he⟩ := exists_derives_operand haccounts (hinitial.2.read h)
  rw [List.append_assoc] at he
  refine ⟨_, e, fun token htoken => ?_, he⟩
  rcases List.mem_append.mp htoken with hoperand | hclosing
  · exact isSpellable_operand hoperand
  · obtain rfl := List.eq_of_mem_replicate hclosing
    trivial

end ParseState

end Spreadsheet
