import Mathlib.Data.List.Count
import Shipshape.Entity
import Shipshape.Proofs.Induction
import Shipshape.Proofs.Tree.Declared

/-!
# The nodes of a tree as written, and what is around them

Where a node stands is a matter of the tree alone: nothing here looks a name up or
knows a type.

* `Shipshape.Construct`, `Shipshape.Path` – the loops, branches, functions and classes
  around a place, from the inside out;
* `Shipshape.Path.inLoop`, `Shipshape.Path.function?`, `Shipshape.Path.cls?` – what a
  break, a return and a self have to do with;
* `Shipshape.Body`, `Shipshape.Stmt.bodies` – the blocks directly below a statement,
  each with the constructs that it lies in and the names that it begins with;
* `Shipshape.Program.HasStmt`, `Shipshape.Program.HasExpr` – a program has a node,
  with the given constructs around it;
* `Shipshape.Program.HasRegion` – the names that are declared directly in one region of
  a program;
* `Shipshape.Program.Redeclares` – a program declares a name twice where that is not
  allowed.
-/

namespace Shipshape

/-! ### Expressions -/

namespace Expr

/-- The expressions directly below an expression, from left to right. -/
def parts : Expr → List Expr
  | .literal _ _ | .symbol _ _ | .self _ => []
  | .binary _ left right _ => [left, right]
  | .unary _ operand _ => [operand]
  | .conditional test consequent alternate _ => [test, consequent, alternate]
  | .call callee args _ => callee :: args
  | .subscript whole index _ => [whole, index]
  | .array elements _ => elements
  | .map entries _ => entries.flatMap fun entry => [entry.1, entry.2]
  | .member object _ _ => [object]
  | .methodCall object _ args _ => object :: args
  | .construct _ args _ => args

/-- An expression lies in another, or is the other. -/
inductive Within (e : Expr) : Expr → Prop
  /-- An expression lies in itself. -/
  | refl : Within e e
  /-- What lies in a part lies in the whole. -/
  | part {c d : Expr} : c ∈ d.parts → Within e c → Within e d

end Expr

/-- The expressions directly below a statement, in order. -/
def Stmt.exprs : Stmt → List Expr
  | .var _ _ value _ | .field _ _ value _ | .print value _ | .expr value _ => [value]
  | .function _ | .classDecl _ | .breakLoop _ => []
  | .assign target value _ => [target, value]
  | .ifElse branches _ _ => branches.map Branch.test
  | .whileLoop test _ _ => [test]
  | .forLoop _ start stop _ _ => [start, stop]
  | .forEach _ _ iterable _ _ => [iterable]
  | .ret value _ => value.toList

/-! ### Paths -/

/-- Something that a place of a program can lie in. -/
inductive Construct where
  /-- The body of a loop. -/
  | loop
  /-- A branch of a choice, or its alternate. -/
  | branch
  /-- The body of a function or a method. -/
  | function (decl : FnDecl Stmt)
  /-- The body of the constructor of a class. -/
  | ctor (decl : ClassDecl Stmt)
  /-- A class. -/
  | cls (decl : ClassDecl Stmt)

/-- What a return inside has to fit, as it is written. A constructor writes nothing. -/
def Construct.result? : Construct → Option TypeExpr
  | .function decl => decl.result
  | .loop | .branch | .ctor _ | .cls _ => none

/-- **What a place lies in**, from the inside out. -/
abbrev Path := List Construct

namespace Path

/-- **Whether a loop is around a place**, inside the innermost function, method or
constructor. -/
def inLoop : Path → Bool
  | [] => false
  | .loop :: _ => true
  | .branch :: path | .cls _ :: path => inLoop path
  | .function _ :: _ | .ctor _ :: _ => false

/-- **The innermost function, method or constructor** around a place. -/
def function? : Path → Option Construct
  | [] => none
  | .function decl :: _ => some (.function decl)
  | .ctor decl :: _ => some (.ctor decl)
  | .loop :: path | .branch :: path | .cls _ :: path => function? path

/-- **The innermost class** around a place. -/
def cls? : Path → Option (ClassDecl Stmt)
  | [] => none
  | .cls decl :: _ => some decl
  | .loop :: path | .branch :: path | .function _ :: path | .ctor _ :: path => cls? path

end Path

/-! ### Bodies -/

/-- A block directly below a statement. -/
structure Body where
  /-- What lies between the statement and the block, from the inside out. -/
  around : Path
  /-- The names that the block begins with: parameters, or a loop variable. -/
  names : List String
  /-- The block. -/
  block : Block Stmt

/-- The names of parameters. -/
def paramNames (params : List Param) : List String := params.map Param.name

/-- The body of a function or a method. -/
def FnDecl.toBody (decl : FnDecl Stmt) (around : Path) : Body :=
  ⟨.function decl :: around, paramNames decl.params, decl.body⟩

/-- **The blocks directly below a statement.** -/
def Stmt.bodies : Stmt → List Body
  | .function decl => [decl.toBody []]
  | .classDecl decl =>
    ⟨[.ctor decl, .cls decl], paramNames decl.params, decl.body⟩ ::
      decl.methods.map fun m => m.toBody [.cls decl]
  | .ifElse branches alternate _ =>
    (branches.map fun b => ⟨[.branch], [], b.body⟩) ++
      alternate.toList.map fun b => ⟨[.branch], [], b⟩
  | .whileLoop _ body _ => [⟨[.loop], [], body⟩]
  | .forLoop name _ _ body _ | .forEach name _ _ body _ => [⟨[.loop], [name], body⟩]
  | .var _ _ _ _ | .field _ _ _ _ | .assign _ _ _ | .print _ _ | .expr _ _ | .breakLoop _
  | .ret _ _ => []

/-- Induction over statements by the blocks below them. -/
theorem Stmt.bodies_ind {motive : Stmt → Prop}
    (step : ∀ x : Stmt, (∀ b ∈ x.bodies, ∀ y ∈ b.block.body, motive y) → motive x) (x : Stmt) :
    motive x := by
  refine step x ?_
  induction x with
  | var | field | assign | print | expr | breakLoop | ret => exact List.forall_mem_nil _
  | function decl ih => exact List.forall_mem_singleton.mpr fun y hy => step y (ih y hy)
  | classDecl decl ihb ihm =>
    refine List.forall_mem_cons.mpr ⟨fun y hy => step y (ihb y hy), ?_⟩
    exact List.forall_mem_map.mpr fun f hf y hy => step y (ihm f hf y hy)
  | ifElse branches alternate span ihb iha =>
    refine List.forall_mem_append.mpr ⟨?_, ?_⟩
    · exact List.forall_mem_map.mpr fun b hb y hy => step y (ihb b hb y hy)
    · refine List.forall_mem_map.mpr fun b hb y hy => step y (iha b ?_ y hy)
      exact Option.mem_toList.mp hb
  | whileLoop test body span ih => exact List.forall_mem_singleton.mpr fun y hy => step y (ih y hy)
  | forLoop name start stop body span ih =>
    exact List.forall_mem_singleton.mpr fun y hy => step y (ih y hy)
  | forEach name typeExpr iterable body span ih =>
    exact List.forall_mem_singleton.mpr fun y hy => step y (ih y hy)

/-- The names that statements in a row declare. -/
def declaredNames (xs : List Stmt) : List String := xs.filterMap Stmt.declared?

/-- The names of the fields that are declared in a class, first in the constructor and then
in the methods. -/
def ClassDecl.fieldNames (decl : ClassDecl Stmt) : List String :=
  (blockFieldDecls decl.body ++ decl.methods.flatMap fun m => blockFieldDecls m.body).map Prod.fst

/-! ### Programs -/

namespace Program

/-- **A program has a statement** with the given constructs around it. -/
inductive HasStmt (p : Program) : Path → Stmt → Prop
  /-- A statement at the top level. -/
  | top {x : Stmt} : x ∈ p.body → HasStmt p [] x
  /-- A statement of a block below another. -/
  | inner {path : Path} {x y : Stmt} {b : Body} : HasStmt p path x → b ∈ x.bodies →
      y ∈ b.block.body → HasStmt p (b.around ++ path) y

/-- **A program has an expression** with the given constructs around it. -/
def HasExpr (p : Program) (path : Path) (e : Expr) : Prop :=
  ∃ x, p.HasStmt path x ∧ ∃ d ∈ x.exprs, e.Within d

/-- **The names that are declared directly in one region** of a program: at the top level,
in a block together with the names that it begins with, or as the methods of a class. -/
inductive HasRegion (p : Program) : List String → Prop
  /-- The top level. -/
  | top : HasRegion p (declaredNames p.body)
  /-- A block, with the parameters or the loop variable that belong to it. -/
  | body {path : Path} {x : Stmt} {b : Body} : p.HasStmt path x → b ∈ x.bodies →
      HasRegion p (b.names ++ declaredNames b.block.body)
  /-- The methods of a class. -/
  | methods {path : Path} {decl : ClassDecl Stmt} : p.HasStmt path (.classDecl decl) →
      HasRegion p (decl.methods.map FnDecl.name)

/-- The names of the built-in types. -/
def builtInNames : List String := builtInEntities.map Prod.fst

/-- **A program declares a name twice** where that is not allowed: in one region, at the
top level where the name is that of a built-in type, or for two fields of one class. -/
inductive Redeclares (p : Program) (name : String) : Prop
  /-- Twice in a region. -/
  | region {names : List String} : p.HasRegion names → 2 ≤ names.count name → Redeclares p name
  /-- The name of a built-in type. -/
  | builtIn : name ∈ declaredNames p.body → name ∈ builtInNames → Redeclares p name
  /-- Two fields of a class. -/
  | fields {path : Path} {decl : ClassDecl Stmt} : p.HasStmt path (.classDecl decl) →
      2 ≤ decl.fieldNames.count name → Redeclares p name

end Program

end Shipshape
