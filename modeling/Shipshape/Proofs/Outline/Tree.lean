import Shipshape.Checked.Tree

/-!
# Outlines

What a program and its checked form have in common.

* `Shipshape.Outline.Stmt`, `Shipshape.Outline.Program` – a tree without types: neither those
  that a program writes nor those that a check finds;
* `Shipshape.Stmt.outline`, `Shipshape.Program.outline` – the outline of what is written;
* `Shipshape.Checked.Expr.erase`, `Shipshape.Checked.Stmt.erase`,
  `Shipshape.Checked.Program.erase` – the outline of what was checked, where an entity leaves
  its name and a class its name.

An expression writes no types, so the outline of an expression is the expression. Of a
statement the outline lacks the types that are written, the spans of parameters, and the span
of a statement that is only an expression; all else is there, in its order.
-/

namespace Shipshape

namespace Outline

/-- A function or a method without types. -/
structure Function (σ : Type) where
  /-- The name. -/
  name : String
  /-- The names of the parameters. -/
  params : List String
  /-- The body. -/
  body : Block σ
  /-- Where the declaration stands. -/
  span : Span

/-- A class without types. -/
structure Class (σ : Type) where
  /-- The name. -/
  name : String
  /-- The name of the constructor. -/
  ctor : String
  /-- The names of the parameters of the constructor. -/
  params : List String
  /-- The body of the constructor. -/
  body : Block σ
  /-- Where the constructor stands. -/
  ctorSpan : Span
  /-- The methods. -/
  methods : List (Function σ)
  /-- Where the declaration stands. -/
  span : Span

/-- A statement without types. -/
inductive Stmt where
  /-- A variable with its first value. -/
  | var (name : String) (value : Expr) (span : Span)
  /-- A function. -/
  | function (decl : Function Stmt)
  /-- A class. -/
  | classDecl (decl : Class Stmt)
  /-- A field with its first value. -/
  | field (name : String) (value : Expr) (span : Span)
  /-- A new value for a target. -/
  | assign (target value : Expr) (span : Span)
  /-- A value to be printed. -/
  | print (value : Expr) (span : Span)
  /-- An expression for its effect. -/
  | expr (value : Expr)
  /-- The first branch whose condition holds, or else the alternate. -/
  | ifElse (branches : List (Branch Expr Stmt)) (alternate : Option (Block Stmt)) (span : Span)
  /-- A loop under a condition. -/
  | whileLoop (test : Expr) (body : Block Stmt) (span : Span)
  /-- A loop that counts. -/
  | forLoop (name : String) (start stop : Expr) (body : Block Stmt) (span : Span)
  /-- A loop over an array or a map. -/
  | forEach (name : String) (iterable : Expr) (body : Block Stmt) (span : Span)
  /-- The end of the loop at hand. -/
  | breakLoop (span : Span)
  /-- The end of the function at hand. -/
  | ret (value : Option Expr) (span : Span)

/-- A program without types. -/
structure Program where
  /-- The statements at the top level. -/
  body : List Stmt
  /-- Where the program stands. -/
  span : Span

end Outline

/-! ### What is written -/

mutual

/-- **The outline of a statement.** -/
def Stmt.outline : Stmt → Outline.Stmt
  | .var name _ value span => .var name value span
  | .function decl => .function (functionOutline decl)
  | .classDecl decl => .classDecl (classOutline decl)
  | .field _ name value span => .field name value span
  | .assign target value span => .assign target value span
  | .print value span => .print value span
  | .expr value _ => .expr value
  | .ifElse branches alternate span =>
    .ifElse (branchesOutline branches) (alternateOutline alternate) span
  | .whileLoop test body span => .whileLoop test (blockOutline body) span
  | .forLoop name start stop body span => .forLoop name start stop (blockOutline body) span
  | .forEach name _ iterable body span => .forEach name iterable (blockOutline body) span
  | .breakLoop span => .breakLoop span
  | .ret value span => .ret value span

/-- The outline of a function. -/
def functionOutline : FnDecl Stmt → Outline.Function Outline.Stmt
  | ⟨name, params, _, body, span⟩ => ⟨name, params.map Param.name, blockOutline body, span⟩

/-- The outline of a class. The constructor is named like the class. -/
def classOutline : ClassDecl Stmt → Outline.Class Outline.Stmt
  | ⟨name, params, body, ctorSpan, methods, span⟩ =>
    ⟨name, name, params.map Param.name, blockOutline body, ctorSpan, methodsOutline methods, span⟩

/-- The outlines of methods. -/
def methodsOutline : List (FnDecl Stmt) → List (Outline.Function Outline.Stmt)
  | [] => []
  | f :: fs => functionOutline f :: methodsOutline fs

/-- The outlines of branches. -/
def branchesOutline : List (Branch Expr Stmt) → List (Branch Expr Outline.Stmt)
  | [] => []
  | ⟨test, body⟩ :: rest => ⟨test, blockOutline body⟩ :: branchesOutline rest

/-- The outline of an alternate. One that is absent stays so. -/
def alternateOutline : Option (Block Stmt) → Option (Block Outline.Stmt)
  | none => none
  | some body => some (blockOutline body)

/-- The outline of a block. -/
def blockOutline : Block Stmt → Block Outline.Stmt
  | ⟨body, span⟩ => ⟨stmtsOutline body, span⟩

/-- The outlines of statements. -/
def stmtsOutline : List Stmt → List Outline.Stmt
  | [] => []
  | x :: xs => x.outline :: stmtsOutline xs

end

/-- **The outline of a program.** -/
def Program.outline (p : Program) : Outline.Program := ⟨stmtsOutline p.body, p.span⟩

/-! ### What was checked -/

namespace Checked

mutual

/-- **A checked expression as it was written**, with the name of its entity for a use of a
name, and the name of its class for a new object. -/
def Expr.erase : Checked.Expr → Shipshape.Expr
  | .literal value _ span => .literal value span
  | .symbol _ entity _ span => .symbol entity.name span
  | .self _ _ span => .self span
  | .binary op left right _ span => .binary op left.erase right.erase span
  | .unary op operand _ span => .unary op operand.erase span
  | .conditional test consequent alternate _ span =>
    .conditional test.erase consequent.erase alternate.erase span
  | .call callee _ args _ span => .call callee.erase (eraseExprs args) span
  | .subscript array index _ span => .subscript array.erase index.erase span
  | .array elements _ span => .array (eraseExprs elements) span
  | .map entries _ span => .map (eraseEntries entries) span
  | .member object name _ span => .member object.erase name span
  | .methodCall object name _ args _ span => .methodCall object.erase name (eraseExprs args) span
  | .construct cls args _ span => .construct cls.name (eraseExprs args) span

/-- Checked expressions as they were written. -/
def eraseExprs : List Checked.Expr → List Shipshape.Expr
  | [] => []
  | e :: es => e.erase :: eraseExprs es

/-- The entries of a checked map as they were written. -/
def eraseEntries : List (Checked.Expr × Checked.Expr) → List (Shipshape.Expr × Shipshape.Expr)
  | [] => []
  | (k, v) :: rest => (k.erase, v.erase) :: eraseEntries rest

end

mutual

/-- **The outline of a checked statement**, with the names of its entities. -/
def Stmt.erase : Checked.Stmt → Outline.Stmt
  | .var entity _ value span => .var entity.name value.erase span
  | .function decl => .function (eraseFunction decl)
  | .classDecl decl => .classDecl (eraseClass decl)
  | .field entity _ value span => .field entity.name value.erase span
  | .assign target value span => .assign target.erase value.erase span
  | .print value span => .print value.erase span
  | .expr value => .expr value.erase
  | .ifElse branches alternate span =>
    .ifElse (eraseBranches branches) (eraseAlternate alternate) span
  | .whileLoop test body span => .whileLoop test.erase (eraseBlock body) span
  | .forLoop entity start stop body span =>
    .forLoop entity.name start.erase stop.erase (eraseBlock body) span
  | .forEach entity iterable body span => .forEach entity.name iterable.erase (eraseBlock body) span
  | .breakLoop span => .breakLoop span
  | .ret value span => .ret (value.map Expr.erase) span

/-- The outline of a checked function. -/
def eraseFunction : Function Checked.Stmt → Outline.Function Outline.Stmt
  | ⟨entity, params, _, body, span⟩ =>
    ⟨entity.name, params.map Entity.name, eraseBlock body, span⟩

/-- The outline of a checked class. -/
def eraseClass : Class Checked.Stmt → Outline.Class Outline.Stmt
  | ⟨entity, _, ctor, params, body, ctorSpan, methods, span⟩ =>
    ⟨entity.name, ctor.name, params.map Entity.name, eraseBlock body, ctorSpan,
      eraseMethods methods, span⟩

/-- The outlines of checked methods. -/
def eraseMethods : List (Function Checked.Stmt) → List (Outline.Function Outline.Stmt)
  | [] => []
  | f :: fs => eraseFunction f :: eraseMethods fs

/-- The outlines of checked branches. -/
def eraseBranches :
    List (Branch Checked.Expr Checked.Stmt) → List (Branch Shipshape.Expr Outline.Stmt)
  | [] => []
  | ⟨test, body⟩ :: rest => ⟨test.erase, eraseBlock body⟩ :: eraseBranches rest

/-- The outline of a checked alternate. -/
def eraseAlternate : Option (Block Checked.Stmt) → Option (Block Outline.Stmt)
  | none => none
  | some body => some (eraseBlock body)

/-- The outline of a checked block. -/
def eraseBlock : Block Checked.Stmt → Block Outline.Stmt
  | ⟨body, span⟩ => ⟨eraseStmts body, span⟩

/-- The outlines of checked statements. -/
def eraseStmts : List Checked.Stmt → List Outline.Stmt
  | [] => []
  | x :: xs => x.erase :: eraseStmts xs

end

/-- **The outline of a checked program.** -/
def Program.erase (t : Checked.Program) : Outline.Program := ⟨eraseStmts t.body, t.span⟩

end Checked

end Shipshape
