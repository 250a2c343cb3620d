import Spreadsheet.Proofs.Formula.Sound

/-!
# Proofs/Formula/Complete — whatever derives from the grammar is recognized

Reading the tokens of a part of a formula leaves its tree in the hands of the frames that wait for
it.  Signs get it at once.  Operators get it when they are completed: the reader may still hold the
last operations of the part on its stack, and what matters is that completing them gives the tree of
the whole part (`LeadsTo`).  As reading is deterministic, a list of tokens has at most one tree.
-/

namespace Spreadsheet

namespace ParseState

/-- Behind the frames, where no operator binds at `bound` or tighter, reading the tokens leaves what
the tree becomes when operators up to `level` are completed. -/
def LeadsTo (bound level : Nat) (ts : List Token) (e : Expr) : Prop :=
  ∀ frames rest, Below bound frames → ∃ e' frames',
    read ⟨.operand, frames⟩ (ts ++ rest) = read ⟨.complete e', frames'⟩ rest
      ∧ ∀ k ≤ level, reduce k frames' e' = reduce k frames e

/-- What reading the tokens of a part of a formula leaves. -/
def Leads : Category → List Token → Expr → Prop
  | .formula, ts, e => ∀ frames, Below 0 frames →
      ∃ state, read ⟨.start, frames⟩ ts = .ok state ∧ state.finish = unwind frames e
  | .tier tier, ts, e => LeadsTo tier.level tier.level ts e
  | .power, ts, e => LeadsTo 4 3 ts e
  | .unary, ts, e | .primary, ts, e => ∀ frames rest,
      read ⟨.operand, frames⟩ (ts ++ rest) = (supply frames e).read rest

variable {bound bound' level level' : Nat} {ts us rest : List Token} {e left right : Expr}
  {token : Token} {op : BinaryOp} {frames : List Frame} {state next : ParseState}

/-! ## One step -/

theorem read_cons (h : state.step token = .ok next) (rest : List Token) :
    state.read (token :: rest) = next.read rest := by
  rw [read, h]

theorem supply_of_below (h : Below level frames) (e : Expr) :
    supply frames e = ⟨.complete e, frames⟩ := by
  cases frames with
  | nil => rfl
  | cons frame frames =>
    cases frame with
    | sign s => exact h.elim
    | _ => rfl

theorem reduce_of_below (h : Below level frames) (e : Expr) :
    reduce level frames e = (frames, e) := by
  cases frames with
  | nil => rfl
  | cons frame frames =>
    cases frame with
    | operator left op => rw [reduce, if_neg (Nat.not_le_of_gt h)]
    | _ => rfl

theorem Below.mono (h : Below level frames) (hle : level ≤ level') : Below level' frames := by
  cases frames with
  | nil => trivial
  | cons frame frames =>
    cases frame with
    | operator left op => exact Nat.lt_of_lt_of_le h hle
    | _ => exact h

/-- At its start, a formula without a marker is read like an operand. -/
theorem read_start (h : token ≠ .equal) (frames : List Frame) (ts : List Token) :
    read ⟨.start, frames⟩ (token :: ts) = read ⟨.operand, frames⟩ (token :: ts) := by
  have hstep : step ⟨.start, frames⟩ token = step ⟨.operand, frames⟩ token := by
    simp only [step, if_neg h]
  rw [read, read, hstep]

/-! ## Operands and operations -/

theorem LeadsTo.mono (h : LeadsTo bound level ts e) (hbound : bound' ≤ bound)
    (hlevel : level' ≤ level) : LeadsTo bound' level' ts e := by
  intro frames rest hbelow
  obtain ⟨e', frames', hread, hreduce⟩ := h frames rest (hbelow.mono hbound)
  exact ⟨e', frames', hread, fun k hk => hreduce k (Nat.le_trans hk hlevel)⟩

/-- A unary formula is complete at once, unless a sign waits for it. -/
theorem Leads.leadsTo (h : Leads .unary ts e) (bound level : Nat) : LeadsTo bound level ts e :=
  fun frames rest hbelow =>
    ⟨e, frames, (h frames rest).trans (by rw [supply_of_below hbelow]), fun _ _ => rfl⟩

/-- **An operation follows from its operands** — the left one is complete when its operator is read,
and the right one goes to the operator. -/
theorem LeadsTo.binary (hop : BinaryOp.ofToken? token = some op)
    (hleft : LeadsTo op.takesFrom op.takesFrom ts left) (hright : LeadsTo bound level us right)
    (hbound : op.level < bound) (hlevel : op.level ≤ level) :
    LeadsTo op.takesFrom op.level (ts ++ token :: us) (.binary op left right) := by
  intro frames rest hbelow
  -- Reading the left operand may leave operators open that the operator itself completes.
  obtain ⟨e', frames', hread, hreduce⟩ := hleft frames (token :: (us ++ rest)) hbelow
  have hstep : step ⟨.complete e', frames'⟩ token
      = .ok ⟨.operand, .operator left op :: frames⟩ := by
    simp only [step, stepComplete, hop]
    rw [hreduce op.takesFrom (Nat.le_refl _), reduce_of_below hbelow]
  obtain ⟨e'', frames'', hread', hreduce'⟩ := hright (.operator left op :: frames) rest hbound
  refine ⟨e'', frames'', ?_, fun k hk => ?_⟩
  · rw [List.append_assoc, List.cons_append, hread, read_cons hstep, hread']
  · rw [hreduce' k (Nat.le_trans hk hlevel), reduce, if_pos hk]

/-- A parenthesis closes what it encloses. -/
theorem read_closing (h : LeadsTo 0 0 ts e) {frame : Frame} (hframe : Below 0 (frame :: frames))
    (hclose : ∀ frames' e', reduce 0 frames' e' = (frame :: frames, e) →
      stepClosing frames' e' .rightParen = .ok next) (rest : List Token) :
    read ⟨.operand, frame :: frames⟩ (ts ++ .rightParen :: rest) = next.read rest := by
  obtain ⟨e', frames', hread, hreduce⟩ := h (frame :: frames) (.rightParen :: rest) hframe
  have hstep : step ⟨.complete e', frames'⟩ .rightParen = .ok next :=
    hclose frames' e' (by rw [hreduce 0 (Nat.le_refl 0), reduce_of_below hframe])
  rw [hread, read_cons hstep]

/-! ## Derivations -/

/-- A part of a formula begins with a token that is no marker. -/
theorem exists_cons_of_derives {category : Category} (h : Derives category ts e)
    (hcategory : category ≠ .formula) : ∃ token us, ts = token :: us ∧ token ≠ .equal := by
  induction h with
  | marked | unmarked => exact absurd rfl hcategory
  | @operand tier _ _ _ ih => exact ih (by cases tier <;> simp [Tier.operand])
  | operation _ _ _ ih =>
    obtain ⟨token, us, rfl, hne⟩ := ih (by simp)
    exact ⟨token, _, rfl, hne⟩
  | base _ ih => exact ih (by simp)
  | power _ _ ih =>
    obtain ⟨token, us, rfl, hne⟩ := ih (by simp)
    exact ⟨token, _, rfl, hne⟩
  | sign s => exact ⟨s.token, _, rfl, by cases s <;> simp [Sign.token]⟩
  | unsigned _ ih => exact ih (by simp)
  | number text => exact ⟨_, _, rfl, by simp⟩
  | reference name => exact ⟨_, _, rfl, by simp⟩
  | call f => exact ⟨_, _, rfl, by simp⟩
  | group => exact ⟨_, _, rfl, by simp⟩

/-- The operand of a tier leads to what the tier does. -/
theorem leadsTo_operand {tier : Tier} (h : Leads tier.operand ts e) :
    LeadsTo (tier.level + 1) (tier.level + 1) ts e := by
  cases tier with
  | comparison => exact h
  | addition => exact h
  | multiplication => exact LeadsTo.mono h (by decide) (by decide)

/-- **Reading follows the derivation.** -/
theorem leads_of_derives {category : Category} (h : Derives category ts e) :
    Leads category ts e := by
  induction h with
  | marked _ ih => exact fun frames hbelow => ih (.marker :: frames) trivial
  | @unmarked ts e h ih =>
    intro frames hbelow
    obtain ⟨token, us, rfl, hne⟩ := exists_cons_of_derives h (by simp)
    obtain ⟨e', frames', hread, hreduce⟩ := ih frames [] hbelow
    rw [List.append_nil] at hread
    refine ⟨⟨.complete e', frames'⟩, (read_start hne frames us).trans hread, ?_⟩
    simp only [finish]
    rw [hreduce 0 (Nat.zero_le _), reduce_of_below hbelow]
  | operand _ ih => exact (leadsTo_operand ih).mono (Nat.le_succ _) (Nat.le_succ _)
  | @operation tier ts us token op left right _ hop _ ihleft ihright =>
    obtain ⟨htoken, htakes, hlevel⟩ := Tier.operator_spec hop
    have hleft : LeadsTo op.takesFrom op.takesFrom ts left := by
      rw [htakes]
      exact ihleft
    have h := LeadsTo.binary htoken hleft (leadsTo_operand ihright) (by omega) (by omega)
    rwa [htakes, hlevel] at h
  | base _ ih => exact Leads.leadsTo ih 4 3
  | power _ _ ihleft ihright =>
    have hop : BinaryOp.ofToken? .power = some .power := rfl
    exact LeadsTo.binary hop (Leads.leadsTo ihleft 4 4) ihright (by decide) (by decide)
  | sign s _ ih =>
    intro frames rest
    have hstep : step ⟨.operand, frames⟩ s.token = .ok ⟨.operand, .sign s :: frames⟩ := by
      cases s <;> rfl
    rw [List.cons_append, read_cons hstep, ih, supply]
  | unsigned _ ih => exact ih
  | number text => exact fun frames rest => read_cons rfl rest
  | reference name => exact fun frames rest => read_cons rfl rest
  | call f _ ih =>
    intro frames rest
    have hname : step ⟨.operand, frames⟩ (.function f) = .ok ⟨.argument f, frames⟩ := rfl
    have hopen : step ⟨.argument f, frames⟩ .leftParen = .ok ⟨.operand, .call f :: frames⟩ := rfl
    have hbelow : Below 0 (.call f :: frames) := trivial
    rw [List.cons_append, read_cons hname, List.cons_append, read_cons hopen, List.append_assoc]
    refine read_closing ih hbelow (fun frames' e' hreduce => ?_) rest
    simp [stepClosing, hreduce]
  | group _ ih =>
    intro frames rest
    have hopen : step ⟨.operand, frames⟩ .leftParen = .ok ⟨.operand, .group :: frames⟩ := rfl
    have hbelow : Below 0 (.group :: frames) := trivial
    rw [List.cons_append, read_cons hopen, List.append_assoc]
    refine read_closing ih hbelow (fun frames' e' hreduce => ?_) rest
    simp [stepClosing, hreduce]

/-- **What derives from the grammar is recognized**, with the same tree. -/
theorem recognize_of_derives (h : Derives .formula ts e) : recognize ts = .ok e := by
  obtain ⟨state, hread, hfinish⟩ := leads_of_derives h [] trivial
  exact recognize_eq_ok_iff.mpr ⟨state, hread, hfinish⟩

/-- **The reader recognizes exactly the formulas of the grammar.** -/
theorem recognize_eq_ok_iff_derives : recognize ts = .ok e ↔ Derives .formula ts e :=
  ⟨derives_of_recognize, recognize_of_derives⟩

end ParseState

/-- **A list of tokens has at most one tree.** -/
theorem Derives.unique {ts : List Token} {e e' : Expr} (h : Derives .formula ts e)
    (h' : Derives .formula ts e') : e = e' :=
  Except.ok.inj ((ParseState.recognize_of_derives h).symm.trans (ParseState.recognize_of_derives h'))

end Spreadsheet
