import Spreadsheet.Formula.Parse

/-!
# Proofs/Formula/Leaves — reading a formula loses no leaf and reorders none

The numbers and references of a formula are exactly those among its tokens, in the same order
(`leaves_of_parse`).  The reader only moves operands between its stack and the formula read last,
so the leaves on the stack followed by those of that formula are the leaves read so far.
-/

namespace Spreadsheet

/-- Whether a token is read as a leaf of the tree. -/
def Token.isLeaf : Token → Bool
  | .number _ | .reference _ => true
  | _ => false

namespace Expr

/-- The numbers and references of a formula from left to right, each as the token it was. -/
def leaves : Expr → List Token
  | number text => [.number text]
  | reference name => [.reference name]
  | unary _ operand => operand.leaves
  | binary _ left right => left.leaves ++ right.leaves
  | call _ argument => argument.leaves
  | formula inner => inner.leaves

theorem mem_references_iff {e : Expr} {name : String} :
    name ∈ e.references ↔ .reference name ∈ e.leaves := by
  induction e with
  | number text => simp [references, leaves]
  | reference n => simp [references, leaves]
  | unary _ operand ih => simpa [references, leaves] using ih
  | binary _ left right ihl ihr => simp [references, leaves, ihl, ihr]
  | call _ argument ih => simpa [references, leaves] using ih
  | formula inner ih => simpa [references, leaves] using ih

end Expr

namespace ParseState

/-! ## The leaves between two tokens -/

/-- The leaves of the left operand a frame holds. -/
def frameLeaves : Frame → List Token
  | .operator left _ => left.leaves
  | _ => []

/-- The leaves on a stack, the outermost first. -/
def stackLeaves : List Frame → List Token
  | [] => []
  | frame :: frames => stackLeaves frames ++ frameLeaves frame

/-- The leaves of the formula read last. -/
def modeLeaves : Mode → List Token
  | .complete e => e.leaves
  | _ => []

/-- The leaves read so far. -/
def leaves (state : ParseState) : List Token := stackLeaves state.frames ++ modeLeaves state.mode

theorem leaves_supply (frames : List Frame) (e : Expr) :
    (supply frames e).leaves = stackLeaves frames ++ e.leaves := by
  fun_induction supply frames e with
  | case1 frames e s ih => simpa [stackLeaves, frameLeaves, Expr.leaves] using ih
  | case2 frames e => rfl

theorem leaves_reduce (level : Nat) (frames : List Frame) (e : Expr) :
    stackLeaves (reduce level frames e).1 ++ (reduce level frames e).2.leaves
      = stackLeaves frames ++ e.leaves := by
  fun_induction reduce level frames e with
  | case1 e left op frames h ih =>
    simpa [stackLeaves, frameLeaves, Expr.leaves] using ih
  | case2 => rfl
  | case3 => rfl

theorem leaves_stepOperand {frames : List Frame} {token : Token} {state : ParseState}
    (h : stepOperand frames token = .ok state) :
    state.leaves = stackLeaves frames ++ [token].filter Token.isLeaf := by
  cases token <;> simp only [stepOperand, Except.ok.injEq, reduceCtorEq] at h <;> subst h
  case number text => exact leaves_supply frames (.number text)
  case reference name => exact leaves_supply frames (.reference name)
  all_goals simp [leaves, stackLeaves, frameLeaves, modeLeaves, Token.isLeaf]

theorem leaves_stepClosing {frames : List Frame} {e : Expr} {token : Token} {state : ParseState}
    (h : stepClosing frames e token = .ok state) :
    state.leaves = stackLeaves frames ++ e.leaves ++ [token].filter Token.isLeaf := by
  have hr := leaves_reduce 0 frames e
  rw [stepClosing] at h
  split at h
  · rename_i outer inner hred
    rw [hred] at hr
    split at h
    · rename_i ht
      cases h
      simp [leaves_supply, ← hr, ht, stackLeaves, frameLeaves, Token.isLeaf]
    · simp at h
  · rename_i f outer inner hred
    rw [hred] at hr
    split at h
    · rename_i ht
      cases h
      simp [leaves_supply, ← hr, ht, stackLeaves, frameLeaves, Expr.leaves, Token.isLeaf]
    · simp at h
  · simp at h

/-- An operator token is no leaf. -/
theorem isLeaf_of_operator {token : Token} {op : BinaryOp}
    (h : BinaryOp.ofToken? token = some op) : token.isLeaf = false := by
  cases token <;> simp_all [BinaryOp.ofToken?, Token.isLeaf]

theorem leaves_stepComplete {frames : List Frame} {e : Expr} {token : Token} {state : ParseState}
    (h : stepComplete frames e token = .ok state) :
    state.leaves = stackLeaves frames ++ e.leaves ++ [token].filter Token.isLeaf := by
  rw [stepComplete] at h
  split at h
  · rename_i op hop
    cases h
    have hr := leaves_reduce op.takesFrom frames e
    simp [leaves, stackLeaves, frameLeaves, modeLeaves, isLeaf_of_operator hop, hr]
  · exact leaves_stepClosing h

/-- **A token adds its leaf at the end.** -/
theorem leaves_step {state next : ParseState} {token : Token} (h : state.step token = .ok next) :
    next.leaves = state.leaves ++ [token].filter Token.isLeaf := by
  obtain ⟨mode, frames⟩ := state
  cases mode with
  | start =>
    simp only [step] at h
    split at h
    · rename_i ht
      cases h
      simp [leaves, stackLeaves, frameLeaves, modeLeaves, ht, Token.isLeaf]
    · simpa [leaves, modeLeaves] using leaves_stepOperand h
  | operand => simpa [leaves, modeLeaves] using leaves_stepOperand h
  | argument f =>
    simp only [step] at h
    split at h
    · rename_i ht
      cases h
      simp [leaves, stackLeaves, frameLeaves, modeLeaves, ht, Token.isLeaf]
    · simp at h
  | complete e => simpa [leaves, modeLeaves] using leaves_stepComplete h

theorem leaves_unwind {frames : List Frame} {e e' : Expr} (h : unwind frames e = .ok e') :
    e'.leaves = stackLeaves frames ++ e.leaves := by
  fun_induction unwind frames e with
  | case1 e => cases h; rfl
  | case2 frames e ih => simpa [stackLeaves, frameLeaves, Expr.leaves] using ih h
  | case3 => cases h

theorem leaves_finish {state : ParseState} {e : Expr} (h : state.finish = .ok e) :
    e.leaves = state.leaves := by
  obtain ⟨mode, frames⟩ := state
  cases mode with
  | complete e =>
    simp only [finish] at h
    rw [leaves_unwind h, leaves_reduce]
    rfl
  | _ => cases h

end ParseState

/-! ## The whole text -/

theorem leaves_readLexemes : ∀ {lexemes : List Lexeme} {state next : ParseState},
    readLexemes state lexemes = .ok next →
      next.leaves = state.leaves ++ (lexemes.map Lexeme.token).filter Token.isLeaf
  | [], state, next, h => by cases h; simp
  | lexeme :: lexemes, state, next, h => by
      simp only [readLexemes, stepLexeme] at h
      cases hs : state.step lexeme.token with
      | error cause => simp [hs] at h
      | ok middle =>
        simp only [hs] at h
        rw [leaves_readLexemes h, ParseState.leaves_step hs, List.append_assoc,
          ← List.filter_append]
        rfl

/-- What a successful reading went through: every token was accepted, none was unreadable, and the
formula may end where the text ends. -/
theorem parse_ok {cs : List Char} {e : Expr} (h : parse cs = .ok e) :
    ∃ state, readLexemes .initial (scan cs).lexemes = .ok state ∧ state.finish = .ok e
      ∧ ∃ position, (scan cs).ending = .finished position := by
  rw [parse, parseScan] at h
  split at h
  · simp at h
  · rename_i state hstate
    split at h
    · simp at h
    · rename_i position hend
      split at h
      · rename_i e' hfin
        cases h
        exact ⟨state, hstate, hfin, position, hend⟩
      · simp at h

/-- **The leaves of a formula are those among its tokens, in the same order.** -/
theorem leaves_of_parse {cs : List Char} {e : Expr} (h : parse cs = .ok e) :
    e.leaves = (scan cs).tokens.filter Token.isLeaf := by
  obtain ⟨state, hread, hfin, -⟩ := parse_ok h
  rw [ParseState.leaves_finish hfin, leaves_readLexemes hread]
  rfl

theorem parseFormula_ok {text : String} {e : Expr} (h : parseFormula text = .ok e) :
    parse text.toList = .ok e := by
  rw [parseFormula] at h
  split at h
  · rename_i e' he
    cases h
    exact he
  · simp at h

end Spreadsheet
