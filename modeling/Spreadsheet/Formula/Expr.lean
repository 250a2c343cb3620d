import Spreadsheet.Formula.Token

/-!
# Formula/Expr — formulas as trees

A formula is a number, a reference, a sign, an infix operation or a function applied to formulas,
or a formula behind the marker `=`.  Parentheses leave no node.
-/

namespace Spreadsheet

/-- The signs that stand before an operand. -/
inductive Sign where
  | plus
  | minus
deriving DecidableEq, Repr

/-- The operators that stand between two operands. -/
inductive BinaryOp where
  | equal
  | less
  | greater
  | add
  | subtract
  | multiply
  | divide
  | power
deriving DecidableEq, Repr

namespace BinaryOp

/-- How tightly an operator binds: comparisons least, powers most. -/
def level : BinaryOp → Nat
  | equal | less | greater => 0
  | add | subtract => 1
  | multiply | divide => 2
  | power => 3

/-- The level from which an operator to the left of this one takes the operand between them: the
same level where operators group to the left, a higher one for powers, which group to the right. -/
def takesFrom (op : BinaryOp) : Nat :=
  match op with
  | power => op.level + 1
  | _ => op.level

/-- The operator a token stands for between two operands. -/
def ofToken? : Token → Option BinaryOp
  | .equal => some equal
  | .less => some less
  | .greater => some greater
  | .plus => some add
  | .minus => some subtract
  | .times => some multiply
  | .divide => some divide
  | .power => some power
  | _ => none

end BinaryOp

/-- The sign a token stands for before an operand. -/
def Sign.ofToken? : Token → Option Sign
  | .plus => some .plus
  | .minus => some .minus
  | _ => none

/-- A formula. -/
inductive Expr where
  /-- A number as it is written. -/
  | number (text : String)
  /-- A cell, by its name in capital letters. -/
  | reference (name : String)
  | unary (sign : Sign) (operand : Expr)
  | binary (op : BinaryOp) (left right : Expr)
  | call (f : Builtin) (argument : Expr)
  /-- A formula behind the marker `=`. -/
  | formula (inner : Expr)
deriving DecidableEq, Repr

namespace Expr

/-- The formula behind all markers at its start. -/
def stripMarkers : Expr → Expr
  | formula inner => inner.stripMarkers
  | e => e

/-- Whether the tree is a single number or reference. -/
def isPrimitive : Expr → Bool
  | number _ | reference _ => true
  | _ => false

/-- The cell's name if, markers apart, the formula is one reference. -/
def singleReference? (e : Expr) : Option String :=
  match e.stripMarkers with
  | reference name => some name
  | _ => none

/-- The names of the cells a formula refers to, from left to right. -/
def references : Expr → List String
  | number _ => []
  | reference name => [name]
  | unary _ operand => operand.references
  | binary _ left right => left.references ++ right.references
  | call _ argument => argument.references
  | formula inner => inner.references

end Expr

end Spreadsheet
