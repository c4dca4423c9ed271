import Shipshape.Check.Stmt

/-!
# Checking programs

* `Shipshape.checkProgram` – checks a whole program on its own.

A program is checked from a state in which nothing but the built-in types is
known, statement by statement in the outermost scope, up to the first failure.
-/

namespace Shipshape

/-- **Checks a program**, in which at most `limit` statements and expressions may
lie inside one another. -/
def checkProgram (limit : Nat) (program : Program) : Except Failure Checked.Program :=
  match checkStmts Arena.root program.body (.initial limit) with
  | .ok body s => .ok ⟨body, program.span, s.classes⟩
  | .error failure _ => .error failure

end Shipshape
