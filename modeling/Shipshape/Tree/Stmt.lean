import Shipshape.Tree.TypeExpr
import Shipshape.Tree.Expr

/-!
# Statements and programs

* `Shipshape.Block`, `Shipshape.Branch` – statements in a row, and such a row
  under a condition, over any sort of statement and expression;
* `Shipshape.FnDecl`, `Shipshape.ClassDecl` – the declarations that hold blocks;
* `Shipshape.Stmt`, `Shipshape.Program` – a statement and a program as written.

Functions and methods are declared alike: a method is a function declaration
inside a class. The alternate of a choice may be absent, which is not the same as
being empty.
-/

namespace Shipshape

/-- Statements in a row. -/
structure Block (σ : Type) where
  /-- The statements. -/
  body : List σ
  /-- Where the block stands. -/
  span : Span
deriving Inhabited

/-- A block under a condition. -/
structure Branch (ε σ : Type) where
  /-- The condition. -/
  test : ε
  /-- What runs if the condition holds. -/
  body : Block σ

/-- A parameter of a function, a method or a constructor. -/
structure Param where
  /-- The name. -/
  name : String
  /-- The type as written. -/
  typeExpr : TypeExpr
  /-- Where the parameter stands. -/
  span : Span
deriving Inhabited

/-- The declaration of a function or a method. -/
structure FnDecl (σ : Type) where
  /-- The name. -/
  name : String
  /-- The parameters. -/
  params : List Param
  /-- The result type as written; a function without one returns nothing. -/
  result : Option TypeExpr
  /-- The body. -/
  body : Block σ
  /-- Where the declaration stands. -/
  span : Span

/-- The declaration of a class: a constructor and methods. Fields are declared by
statements in their bodies. -/
structure ClassDecl (σ : Type) where
  /-- The name. -/
  name : String
  /-- The parameters of the constructor. -/
  params : List Param
  /-- The body of the constructor. -/
  body : Block σ
  /-- Where the constructor stands. -/
  ctorSpan : Span
  /-- The methods. -/
  methods : List (FnDecl σ)
  /-- Where the declaration stands. -/
  span : Span

/-- A statement as written. -/
inductive Stmt where
  /-- A variable with its first value, and its type if it is written. -/
  | var (name : String) (typeExpr : Option TypeExpr) (value : Expr) (span : Span)
  /-- A function. -/
  | function (decl : FnDecl Stmt)
  /-- A class. -/
  | classDecl (decl : ClassDecl Stmt)
  /-- A field of the class at hand, with its first value. -/
  | field (typeExpr : TypeExpr) (name : String) (value : Expr) (span : Span)
  /-- A new value for a target. -/
  | assign (target value : Expr) (span : Span)
  /-- A value to be printed. -/
  | print (value : Expr) (span : Span)
  /-- An expression for its effect. -/
  | expr (value : Expr) (span : Span)
  /-- The first branch whose condition holds, or else the alternate. -/
  | ifElse (branches : List (Branch Expr Stmt)) (alternate : Option (Block Stmt)) (span : Span)
  /-- A loop under a condition. -/
  | whileLoop (test : Expr) (body : Block Stmt) (span : Span)
  /-- A loop that counts. -/
  | forLoop (name : String) (start stop : Expr) (body : Block Stmt) (span : Span)
  /-- A loop over the elements of an array or the values of a map. -/
  | forEach (name : String) (typeExpr : Option TypeExpr) (iterable : Expr) (body : Block Stmt)
      (span : Span)
  /-- The end of the loop at hand. -/
  | breakLoop (span : Span)
  /-- The end of the function at hand, with its value if there is one. -/
  | ret (value : Option Expr) (span : Span)

/-- Where a statement stands. -/
def Stmt.span : Stmt → Span
  | .function decl => decl.span
  | .classDecl decl => decl.span
  | .var _ _ _ span | .field _ _ _ span | .assign _ _ span | .print _ span | .expr _ span
  | .ifElse _ _ span | .whileLoop _ _ span | .forLoop _ _ _ _ span | .forEach _ _ _ _ span
  | .breakLoop span | .ret _ span => span

/-- A program as written. -/
structure Program where
  /-- The statements at the top level. -/
  body : List Stmt
  /-- Where the program stands. -/
  span : Span

end Shipshape
