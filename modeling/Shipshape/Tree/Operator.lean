/-!
# Operators

* `Shipshape.BinaryOp` – the operators between two operands;
* `Shipshape.UnaryOp` – the operators before one operand.

Each has one written form (`Shipshape.BinaryOp.symbol`, `Shipshape.UnaryOp.symbol`).
-/

namespace Shipshape

/-- An operator between two operands. -/
inductive BinaryOp where
  /-- Sum of numbers, or one text after another. -/
  | add
  /-- Difference. -/
  | sub
  /-- Product. -/
  | mul
  /-- Quotient. -/
  | div
  /-- Power. -/
  | pow
  /-- Remainder. -/
  | rem
  /-- Less than. -/
  | lt
  /-- At most. -/
  | le
  /-- Greater than. -/
  | gt
  /-- At least. -/
  | ge
  /-- Equal. -/
  | eq
  /-- Different. -/
  | ne
  /-- Conjunction. -/
  | and
  /-- Disjunction. -/
  | or
deriving DecidableEq, Inhabited, Repr

/-- The written form of an operator between two operands. -/
def BinaryOp.symbol : BinaryOp → String
  | .add => "+"
  | .sub => "-"
  | .mul => "*"
  | .div => "/"
  | .pow => "**"
  | .rem => "%"
  | .lt => "<"
  | .le => "<="
  | .gt => ">"
  | .ge => ">="
  | .eq => "=="
  | .ne => "!="
  | .and => "and"
  | .or => "or"

/-- An operator before one operand. -/
inductive UnaryOp where
  /-- The opposite number. -/
  | negate
  /-- The opposite truth value. -/
  | not
deriving DecidableEq, Inhabited, Repr

/-- The written form of an operator before one operand. -/
def UnaryOp.symbol : UnaryOp → String
  | .negate => "-"
  | .not => "not"

end Shipshape
