import Shipshape.Checked.Tree

/-!
# What a statement declares

* `Shipshape.Stmt.declared?` – the name that a statement declares in the scope around
  it, if it declares one;
* `Shipshape.Checked.Stmt.declared?` – the entity that it stands for, once it is checked;
* `Shipshape.Stmt.fieldDecls` – the fields that a statement declares for the class around
  it, at any depth, each with its type as written.

A loop variable or a parameter is declared inside the construct that it belongs to, and
so are the members of a class. What a block inside a statement declares stays in the
block, but a field belongs to the innermost class around it.
-/

namespace Shipshape

/-- The name that a statement declares in the scope around it. -/
def Stmt.declared? : Stmt → Option String
  | .var name _ _ _ | .field _ name _ _ => some name
  | .function decl => some decl.name
  | .classDecl decl => some decl.name
  | .assign _ _ _ | .print _ _ | .expr _ _ | .ifElse _ _ _ | .whileLoop _ _ _ | .forLoop _ _ _ _ _
  | .forEach _ _ _ _ _ | .breakLoop _ | .ret _ _ => none

/-- The entity that a checked statement declares in the scope around it. -/
def Checked.Stmt.declared? : Checked.Stmt → Option Entity
  | .var entity _ _ _ | .field entity _ _ _ => some entity
  | .function decl => some decl.entity
  | .classDecl decl => some decl.entity
  | .assign _ _ _ | .print _ _ | .expr _ | .ifElse _ _ _ | .whileLoop _ _ _ | .forLoop _ _ _ _ _
  | .forEach _ _ _ _ | .breakLoop _ | .ret _ _ => none

mutual

/-- **The fields that a statement declares** for the class around it, in order. -/
def Stmt.fieldDecls : Stmt → List (String × TypeExpr)
  | .field typeExpr name _ _ => [(name, typeExpr)]
  | .function ⟨_, _, _, body, _⟩ => blockFieldDecls body
  | .ifElse branches alternate _ => branchFieldDecls branches ++ alternateFieldDecls alternate
  | .whileLoop _ body _ | .forLoop _ _ _ body _ | .forEach _ _ _ body _ => blockFieldDecls body
  | .classDecl _ | .var _ _ _ _ | .assign _ _ _ | .print _ _ | .expr _ _ | .breakLoop _
  | .ret _ _ => []

/-- The fields that the statements of a block declare. -/
def blockFieldDecls : Block Stmt → List (String × TypeExpr)
  | ⟨body, _⟩ => stmtsFieldDecls body

/-- The fields that statements in a row declare. -/
def stmtsFieldDecls : List Stmt → List (String × TypeExpr)
  | [] => []
  | x :: xs => x.fieldDecls ++ stmtsFieldDecls xs

/-- The fields that the branches of a choice declare. -/
def branchFieldDecls : List (Branch Expr Stmt) → List (String × TypeExpr)
  | [] => []
  | ⟨_, body⟩ :: rest => blockFieldDecls body ++ branchFieldDecls rest

/-- The fields that the alternate of a choice declares. -/
def alternateFieldDecls : Option (Block Stmt) → List (String × TypeExpr)
  | none => []
  | some body => blockFieldDecls body

end

/-- The fields of a block are those of its statements. -/
theorem blockFieldDecls_eq (b : Block Stmt) : blockFieldDecls b = stmtsFieldDecls b.body := by
  rw [blockFieldDecls.eq_def]

/-- The fields of branches are those of their blocks. -/
theorem branchFieldDecls_eq (bs : List (Branch Expr Stmt)) :
    branchFieldDecls bs = bs.flatMap fun b => stmtsFieldDecls b.body.body := by
  induction bs with
  | nil => rfl
  | cons b bs ih =>
    obtain ⟨test, body⟩ := b
    rw [branchFieldDecls, List.flatMap_cons, blockFieldDecls_eq, ih]

theorem Stmt.fieldDecls_function (decl : FnDecl Stmt) :
    (Stmt.function decl).fieldDecls = blockFieldDecls decl.body := by
  rw [Stmt.fieldDecls.eq_def]

end Shipshape
