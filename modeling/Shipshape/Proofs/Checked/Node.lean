import Shipshape.Proofs.Lexical.Env

/-!
# The nodes of a checked tree

Every statement and every expression of a checked program, at any depth, and what
surrounds it. What surrounds a node is read off the tree alone: the loop, the
function and the class whose bodies it lies in.

* `Shipshape.Checked.Expr.parts` – the expressions directly below an expression;
* `Shipshape.Checked.Stmt.exprs`, `Shipshape.Checked.Stmt.blocks` – the expressions
  and the blocks directly below a statement;
* `Shipshape.Checked.Expr.Within` – an expression lies in another, at any depth;
* `Shipshape.Checked.Program.HasStmt`, `Shipshape.Checked.Program.HasExpr` – a
  program has a node, in given surroundings.

A property of all nodes is proved from the top down, one node at a time:
`Shipshape.Checked.Expr.Throughout` and `Shipshape.Checked.Stmt.Throughout` say that
it holds of a node and throughout what lies below
(`Shipshape.Checked.Program.of_hasStmt`, `Shipshape.Checked.Program.of_hasExpr`).
-/

namespace Shipshape.Checked

/-! ### Expressions -/

namespace Expr

/-- The expressions directly below an expression, from left to right. -/
def parts : Expr → List Expr
  | .literal _ _ _ | .symbol _ _ _ _ | .self _ _ _ => []
  | .binary _ left right _ _ => [left, right]
  | .unary _ operand _ _ => [operand]
  | .conditional test consequent alternate _ _ => [test, consequent, alternate]
  | .call callee _ args _ _ => callee :: args
  | .subscript whole index _ _ => [whole, index]
  | .array elements _ _ => elements
  | .map entries _ _ => entries.flatMap fun entry => [entry.1, entry.2]
  | .member object _ _ _ => [object]
  | .methodCall object _ _ args _ _ => object :: args
  | .construct _ args _ _ => args

/-- An expression lies in another, or is the other. -/
inductive Within (e : Expr) : Expr → Prop
  /-- An expression lies in itself. -/
  | refl : Within e e
  /-- What lies in a part lies in the whole. -/
  | part {c d : Expr} : c ∈ d.parts → Within e c → Within e d

theorem Within.trans {c d e : Expr} (hcd : c.Within d) (hde : d.Within e) : c.Within e := by
  induction hde with
  | refl => exact hcd
  | part hpart _ ih => exact .part hpart ih

/-- **A property of an expression and of all that lies in it.** -/
inductive Throughout (P : Expr → Prop) : Expr → Prop
  /-- The property holds of the expression and throughout its parts. -/
  | intro {e : Expr} : P e → (∀ c ∈ e.parts, Throughout P c) → Throughout P e

theorem Throughout.self {P : Expr → Prop} {e : Expr} (h : e.Throughout P) : P e := by
  cases h with
  | intro hp _ => exact hp

theorem Throughout.parts {P : Expr → Prop} {e c : Expr} (h : e.Throughout P) (hc : c ∈ e.parts) :
    c.Throughout P := by
  cases h with
  | intro _ hparts => exact hparts c hc

/-- What holds throughout an expression holds of each that lies in it. -/
theorem Throughout.within {P : Expr → Prop} {d e : Expr} (h : d.Throughout P)
    (hwithin : e.Within d) : P e := by
  induction hwithin with
  | refl => exact h.self
  | part hc _ ih => exact ih (h.parts hc)

theorem Throughout.mono {P Q : Expr → Prop} {e : Expr} (h : e.Throughout P)
    (hpq : ∀ e, P e → Q e) : e.Throughout Q := by
  induction h with
  | intro hp _ ih => exact .intro (hpq _ hp) ih

end Expr

/-! ### Statements -/

namespace Stmt

/-- The expressions directly below a statement, in order. -/
def exprs : Stmt → List Expr
  | .var _ _ value _ | .field _ _ value _ | .print value _ | .expr value => [value]
  | .function _ | .classDecl _ | .breakLoop _ => []
  | .assign target value _ => [target, value]
  | .ifElse branches _ _ => branches.map Branch.test
  | .whileLoop test _ _ => [test]
  | .forLoop _ start stop _ _ => [start, stop]
  | .forEach _ iterable _ _ => [iterable]
  | .ret value _ => value.toList

/-- The blocks directly below a statement, each with what surrounds it. The body of
a loop is surrounded by the loop, that of a function by the function, and those of
the constructor and the methods of a class by the class as well. -/
def blocks (a : Ambient) : Stmt → List (Ambient × Block Stmt)
  | .function f => [(a.inFunction f.entity, f.body)]
  | .classDecl c =>
    ((a.inClass c.cls).inFunction c.ctor, c.body) ::
      c.methods.map fun m => ((a.inClass c.cls).inFunction m.entity, m.body)
  | .ifElse branches alternate _ =>
    (branches.map fun b => (a, b.body)) ++ alternate.toList.map fun b => (a, b)
  | .whileLoop _ body _ | .forLoop _ _ _ body _ | .forEach _ _ body _ => [(a.loop, body)]
  | .var _ _ _ _ | .field _ _ _ _ | .assign _ _ _ | .print _ _ | .expr _ | .breakLoop _
  | .ret _ _ => []

/-- **A property of a statement and of all statements that lie in it**, each in its
surroundings. -/
inductive Throughout (P : Ambient → Stmt → Prop) : Ambient → Stmt → Prop
  /-- The property holds of the statement and throughout its blocks. -/
  | intro {a : Ambient} {x : Stmt} : P a x →
      (∀ b ∈ x.blocks a, ∀ y ∈ b.2.body, Throughout P b.1 y) → Throughout P a x

theorem Throughout.mono {P Q : Ambient → Stmt → Prop} {a : Ambient} {x : Stmt}
    (h : x.Throughout P a) (hpq : ∀ a x, P a x → Q a x) : x.Throughout Q a := by
  induction h with
  | intro hp _ ih => exact .intro (hpq _ _ hp) ih

end Stmt

/-! ### Programs -/

namespace Program

/-- A program has a statement in the given surroundings. -/
inductive HasStmt (t : Program) : Ambient → Stmt → Prop
  /-- A statement at the top level. -/
  | top {x : Stmt} : x ∈ t.body → HasStmt t .top x
  /-- A statement of a block of another. -/
  | inner {a : Ambient} {x y : Stmt} {b : Ambient × Block Stmt} : HasStmt t a x →
      b ∈ x.blocks a → y ∈ b.2.body → HasStmt t b.1 y

/-- A program has an expression in the given surroundings. -/
def HasExpr (t : Program) (a : Ambient) (e : Expr) : Prop :=
  ∃ x, t.HasStmt a x ∧ ∃ d ∈ x.exprs, e.Within d

variable {t : Program} {a : Ambient}

/-- What holds throughout the statements of a program holds of each that it
has. -/
theorem of_hasStmt {P : Ambient → Stmt → Prop} (h : ∀ x ∈ t.body, x.Throughout P .top) {x : Stmt}
    (hx : t.HasStmt a x) : P a x := by
  suffices hall : x.Throughout P a by
    cases hall with
    | intro hp _ => exact hp
  induction hx with
  | top hx => exact h _ hx
  | inner _ hb hy ih =>
    cases ih with
    | intro _ hblocks => exact hblocks _ hb _ hy

/-- What holds throughout the expressions of every statement holds of each
expression that the program has. -/
theorem of_hasExpr {P : Ambient → Expr → Prop}
    (h : ∀ x, t.HasStmt a x → ∀ d ∈ x.exprs, d.Throughout (P a)) {e : Expr}
    (he : t.HasExpr a e) : P a e := by
  obtain ⟨x, hx, d, hd, hwithin⟩ := he
  exact (h x hx d hd).within hwithin

end Program

end Shipshape.Checked
