import Shipshape.Class
import Shipshape.Entity
import Shipshape.Tree.Stmt

/-!
# Checked trees

A program after it was checked: every expression carries its type, every use of a
name the entity it stands for, every declaration the entity it makes.

* `Shipshape.Checked.Expr`, `Shipshape.Checked.Stmt` – checked expressions and
  statements;
* `Shipshape.Checked.Function`, `Shipshape.Checked.Class` – the declarations that
  hold blocks;
* `Shipshape.Checked.Program` – a checked program with what is known about its
  classes in the end.

The shape is that of the tree as written, without type expressions. An expression
statement has no span but that of its expression.
-/

namespace Shipshape.Checked

/-- A checked expression. The last two arguments of a node are its type and where
it stands. -/
inductive Expr where
  /-- A constant. -/
  | literal (value : Literal) (ty : Ty) (span : Span)
  /-- The use of a name, with the entity it stands for. -/
  | symbol (name : String) (entity : Entity) (ty : Ty) (span : Span)
  /-- The object at hand, with its class. -/
  | self (cls : ClassRef) (ty : Ty) (span : Span)
  /-- An operator between two operands. -/
  | binary (op : BinaryOp) (left right : Expr) (ty : Ty) (span : Span)
  /-- An operator before one operand. -/
  | unary (op : UnaryOp) (operand : Expr) (ty : Ty) (span : Span)
  /-- A choice between two values. -/
  | conditional (test consequent alternate : Expr) (ty : Ty) (span : Span)
  /-- A call of a function, with the signature it was checked against. -/
  | call (callee : Expr) (signature : Signature) (args : List Expr) (ty : Ty) (span : Span)
  /-- An element of an array, by its index. -/
  | subscript (array index : Expr) (ty : Ty) (span : Span)
  /-- An array by its elements. -/
  | array (elements : List Expr) (ty : Ty) (span : Span)
  /-- A map by its entries. -/
  | map (entries : List (Expr × Expr)) (ty : Ty) (span : Span)
  /-- A field of an object. -/
  | member (object : Expr) (name : String) (ty : Ty) (span : Span)
  /-- A call of a method, with the signature it was checked against. -/
  | methodCall (object : Expr) (name : String) (signature : Signature) (args : List Expr) (ty : Ty)
      (span : Span)
  /-- A new object of a class. -/
  | construct (cls : ClassRef) (args : List Expr) (ty : Ty) (span : Span)
deriving Inhabited

/-- The type of a checked expression. -/
def Expr.ty : Expr → Ty
  | .literal _ ty _ | .symbol _ _ ty _ | .self _ ty _ | .binary _ _ _ ty _ | .unary _ _ ty _
  | .conditional _ _ _ ty _ | .call _ _ _ ty _ | .subscript _ _ ty _ | .array _ ty _ | .map _ ty _
  | .member _ _ ty _ | .methodCall _ _ _ _ ty _ | .construct _ _ ty _ => ty

/-- Where a checked expression stands. -/
def Expr.span : Expr → Span
  | .literal _ _ span | .symbol _ _ _ span | .self _ _ span | .binary _ _ _ _ span
  | .unary _ _ _ span | .conditional _ _ _ _ span | .call _ _ _ _ span | .subscript _ _ _ span
  | .array _ _ span | .map _ _ span | .member _ _ _ span | .methodCall _ _ _ _ _ span
  | .construct _ _ _ span => span

/-- A checked function or method. -/
structure Function (σ : Type) where
  /-- The function itself. -/
  entity : Entity
  /-- Its parameters. -/
  params : List Entity
  /-- The type of its result. -/
  result : Ty
  /-- Its body. -/
  body : Block σ
  /-- Where the declaration stands. -/
  span : Span

/-- A checked class. -/
structure Class (σ : Type) where
  /-- The name of the class, as an entity. -/
  entity : Entity
  /-- The class itself. -/
  cls : ClassRef
  /-- The constructor, as a function named like the class. -/
  ctor : Entity
  /-- The parameters of the constructor. -/
  params : List Entity
  /-- The body of the constructor. -/
  body : Block σ
  /-- Where the constructor stands. -/
  ctorSpan : Span
  /-- The methods. -/
  methods : List (Function σ)
  /-- Where the declaration stands. -/
  span : Span

/-- A checked statement. -/
inductive Stmt where
  /-- A variable with its type and its first value. -/
  | var (entity : Entity) (ty : Ty) (value : Expr) (span : Span)
  /-- A function. -/
  | function (decl : Function Stmt)
  /-- A class. -/
  | classDecl (decl : Class Stmt)
  /-- A field with its type and its first value. -/
  | field (entity : Entity) (ty : Ty) (value : Expr) (span : Span)
  /-- A new value for a target. -/
  | assign (target value : Expr) (span : Span)
  /-- A value to be printed. -/
  | print (value : Expr) (span : Span)
  /-- An expression for its effect. -/
  | expr (value : Expr)
  /-- The first branch whose condition holds, or else the alternate. -/
  | ifElse (branches : List (Branch Expr Stmt)) (alternate : Option (Block Stmt)) (span : Span)
  /-- A loop under a condition. -/
  | whileLoop (test : Expr) (body : Block Stmt) (span : Span)
  /-- A loop that counts. -/
  | forLoop (entity : Entity) (start stop : Expr) (body : Block Stmt) (span : Span)
  /-- A loop over an array or a map. -/
  | forEach (entity : Entity) (iterable : Expr) (body : Block Stmt) (span : Span)
  /-- The end of the loop at hand. -/
  | breakLoop (span : Span)
  /-- The end of the function at hand. -/
  | ret (value : Option Expr) (span : Span)

/-- Where a checked statement stands. -/
def Stmt.span : Stmt → Span
  | .function decl => decl.span
  | .classDecl decl => decl.span
  | .expr value => value.span
  | .var _ _ _ span | .field _ _ _ span | .assign _ _ span | .print _ span | .ifElse _ _ span
  | .whileLoop _ _ span | .forLoop _ _ _ _ span | .forEach _ _ _ span | .breakLoop span
  | .ret _ span => span

/-- A checked program. -/
structure Program where
  /-- The statements at the top level. -/
  body : List Stmt
  /-- Where the program stands. -/
  span : Span
  /-- What is known about its classes when all of it was checked. -/
  classes : ClassTable

end Shipshape.Checked
