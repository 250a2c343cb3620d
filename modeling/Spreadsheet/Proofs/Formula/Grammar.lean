import Spreadsheet.Formula.Parse

/-!
# Proofs/Formula/Grammar — the grammar of formulas

    Formula        ::= "=" Formula | Comparison
    Comparison     ::= Addition ( ( "<" | ">" | "=" ) Addition )*
    Addition       ::= Multiplication ( ( "+" | "-" ) Multiplication )*
    Multiplication ::= Power ( ( "*" | "/" ) Power )*
    Power          ::= Unary ( "^" Power )?
    Unary          ::= ( "+" | "-" ) Unary | Primary
    Primary        ::= Number | CellRef | Call | "(" Comparison ")"
    Call           ::= ( "inc" | "dec" | "not" ) "(" Comparison ")"

`Derives` says which tokens are a formula and which tree they stand for.  The three tiers in the
middle are built alike, and their operators group to the left: the operation read last is the
outermost.
-/

namespace Spreadsheet

/-- The operators that group to the left, the loosest first. -/
inductive Tier where
  | comparison
  | addition
  | multiplication

/-- The parts of a formula. -/
inductive Category where
  | formula
  | tier (tier : Tier)
  | power
  | unary
  | primary

/-- The operators of a tier, each with its token. -/
def Tier.operators : Tier → List (Token × BinaryOp)
  | comparison => [(.less, .less), (.greater, .greater), (.equal, .equal)]
  | addition => [(.plus, .add), (.minus, .subtract)]
  | multiplication => [(.times, .multiply), (.divide, .divide)]

/-- What stands between the operators of a tier. -/
def Tier.operand : Tier → Category
  | comparison => .tier .addition
  | addition => .tier .multiplication
  | multiplication => .power

/-- The token of a sign. -/
def Sign.token : Sign → Token
  | plus => .plus
  | minus => .minus

/-- **The tokens of a part of a formula and its tree.** -/
inductive Derives : Category → List Token → Expr → Prop
  | marked {ts e} : Derives .formula ts e → Derives .formula (.equal :: ts) (.formula e)
  | unmarked {ts e} : Derives (.tier .comparison) ts e → Derives .formula ts e
  | operand {tier ts e} : Derives tier.operand ts e → Derives (.tier tier) ts e
  | operation {tier ts us token op left right} : Derives (.tier tier) ts left →
      (token, op) ∈ tier.operators → Derives tier.operand us right →
      Derives (.tier tier) (ts ++ token :: us) (.binary op left right)
  | base {ts e} : Derives .unary ts e → Derives .power ts e
  | power {ts us left right} : Derives .unary ts left → Derives .power us right →
      Derives .power (ts ++ .power :: us) (.binary .power left right)
  | sign {ts e} (s : Sign) : Derives .unary ts e → Derives .unary (s.token :: ts) (.unary s e)
  | unsigned {ts e} : Derives .primary ts e → Derives .unary ts e
  | number (text : String) : Derives .primary [.number text] (.number text)
  | reference (name : String) : Derives .primary [.reference name] (.reference name)
  | call {ts e} (f : Builtin) : Derives (.tier .comparison) ts e →
      Derives .primary (.function f :: .leftParen :: (ts ++ [.rightParen])) (.call f e)
  | group {ts e} : Derives (.tier .comparison) ts e →
      Derives .primary (.leftParen :: (ts ++ [.rightParen])) e

/-! ## Levels

The parts between a comparison and a unary form a chain, in which each holds the next; the level of
an operator is the place of its operations in the chain. -/

/-- The parts of a formula by the level of the operators that may stand in them openly. -/
def Category.ofLevel : Nat → Category
  | 0 => .tier .comparison
  | 1 => .tier .addition
  | 2 => .tier .multiplication
  | 3 => .power
  | _ => .unary

/-- The level of the operand behind an operator. -/
def BinaryOp.givesTo (op : BinaryOp) : Nat :=
  match op with
  | power => op.level
  | _ => op.level + 1

/-- The level of the operators of a tier. -/
def Tier.level : Tier → Nat
  | comparison => 0
  | addition => 1
  | multiplication => 2

variable {ts us : List Token} {e left right : Expr} {token : Token} {op : BinaryOp}

/-- A tier's operators have its level, and take their left operands from there. -/
theorem Tier.operator_spec {tier : Tier} (h : (token, op) ∈ tier.operators) :
    BinaryOp.ofToken? token = some op ∧ op.takesFrom = tier.level ∧ op.level = tier.level := by
  cases tier <;> simp only [Tier.operators, List.mem_cons, Prod.mk.injEq, List.not_mem_nil,
    or_false] at h
  case comparison => rcases h with ⟨rfl, rfl⟩ | ⟨rfl, rfl⟩ | ⟨rfl, rfl⟩ <;> exact ⟨rfl, rfl, rfl⟩
  case addition => rcases h with ⟨rfl, rfl⟩ | ⟨rfl, rfl⟩ <;> exact ⟨rfl, rfl, rfl⟩
  case multiplication => rcases h with ⟨rfl, rfl⟩ | ⟨rfl, rfl⟩ <;> exact ⟨rfl, rfl, rfl⟩

theorem Derives.ofLevel_of_succ : ∀ {n : Nat},
    Derives (.ofLevel (n + 1)) ts e → Derives (.ofLevel n) ts e
  | 0, h => show Derives (.tier .comparison) _ _ from .operand h
  | 1, h => show Derives (.tier .addition) _ _ from .operand h
  | 2, h => show Derives (.tier .multiplication) _ _ from .operand h
  | 3, h => .base h
  | _ + 4, h => h

/-- **What binds tighter may stand where looser operators are allowed.** -/
theorem Derives.ofLevel_of_le {m n : Nat} (h : Derives (.ofLevel n) ts e) (hle : m ≤ n) :
    Derives (.ofLevel m) ts e := by
  induction hle with
  | refl => exact h
  | step _ ih => exact ih h.ofLevel_of_succ

theorem Derives.comparison (h : Derives .unary ts e) : Derives (.tier .comparison) ts e :=
  ofLevel_of_le (n := 4) h (Nat.zero_le 4)

/-- An operation has the level of its operator. -/
theorem Derives.binary (hop : BinaryOp.ofToken? token = some op)
    (hleft : Derives (.ofLevel op.takesFrom) ts left)
    (hright : Derives (.ofLevel op.givesTo) us right) :
    Derives (.ofLevel op.level) (ts ++ token :: us) (.binary op left right) := by
  cases token <;> cases hop
  case less | greater | equal =>
    show Derives (.tier .comparison) _ _
    exact .operation hleft (by decide) hright
  case plus | minus =>
    show Derives (.tier .addition) _ _
    exact .operation hleft (by decide) hright
  case times | divide =>
    show Derives (.tier .multiplication) _ _
    exact .operation hleft (by decide) hright
  case power => exact .power hleft hright

end Spreadsheet
