import Shipshape.Source.Span
import Shipshape.Tree.Literal
import Shipshape.Tree.Operator

/-!
# Expressions

* `Shipshape.Expr` – an expression as written;
* `Shipshape.Expr.span` – where it stands.

Every node carries its own span, as its last argument.
-/

namespace Shipshape

/-- An expression as written. -/
inductive Expr where
  /-- A constant. -/
  | literal (value : Literal) (span : Span)
  /-- The use of a name. -/
  | symbol (name : String) (span : Span)
  /-- The object at hand, inside a class. -/
  | self (span : Span)
  /-- An operator between two operands. -/
  | binary (op : BinaryOp) (left right : Expr) (span : Span)
  /-- An operator before one operand. -/
  | unary (op : UnaryOp) (operand : Expr) (span : Span)
  /-- A choice between two values. -/
  | conditional (test consequent alternate : Expr) (span : Span)
  /-- A call of a function. -/
  | call (callee : Expr) (args : List Expr) (span : Span)
  /-- An element of an array, by its index. -/
  | subscript (array index : Expr) (span : Span)
  /-- An array by its elements. -/
  | array (elements : List Expr) (span : Span)
  /-- A map by its entries, each a key and a value. -/
  | map (entries : List (Expr × Expr)) (span : Span)
  /-- A field of an object. -/
  | member (object : Expr) (name : String) (span : Span)
  /-- A call of a method of an object. -/
  | methodCall (object : Expr) (name : String) (args : List Expr) (span : Span)
  /-- A new object of a class. -/
  | construct (className : String) (args : List Expr) (span : Span)
deriving Inhabited

/-- Where an expression stands. -/
def Expr.span : Expr → Span
  | .literal _ span | .symbol _ span | .self span | .binary _ _ _ span | .unary _ _ span
  | .conditional _ _ _ span | .call _ _ span | .subscript _ _ span | .array _ span | .map _ span
  | .member _ _ span | .methodCall _ _ _ span | .construct _ _ span => span

end Shipshape
