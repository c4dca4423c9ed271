import Shipshape.Tree.Stmt

/-!
# Equality of trees

Two trees are equal when they have the same shape, the same names, operators and
spans, and equal literals. Spans count, the order of siblings counts, and an
absent part differs from an empty one. Doubles compare as numbers, so a tree with
a NaN in it does not equal itself.

* `Shipshape.TypeExpr.equal`, `Shipshape.Expr.equal`, `Shipshape.Stmt.equal`,
  `Shipshape.Program.equal` – the comparison, sort by sort.
-/

namespace Shipshape

namespace TypeExpr

mutual

/-- Whether two type expressions are the same, spans included. -/
def equal : TypeExpr → TypeExpr → Bool
  | .name n s, .name m t => n == m && s == t
  | .array a, .array b => a.equal b
  | .map k v, .map l w => k.equal l && v.equal w
  | .function ps r, .function qs t => equalList ps qs && r.equal t
  | _, _ => false

/-- Whether two lists of type expressions are the same. -/
def equalList : List TypeExpr → List TypeExpr → Bool
  | [], [] => true
  | a :: as, b :: bs => a.equal b && equalList as bs
  | _, _ => false

end

/-- Whether two type expressions that may be absent are the same. -/
def equalOption : Option TypeExpr → Option TypeExpr → Bool
  | none, none => true
  | some a, some b => a.equal b
  | _, _ => false

end TypeExpr

/-- Whether two parameters are the same. -/
def Param.equal (p q : Param) : Bool :=
  p.name == q.name && p.typeExpr.equal q.typeExpr && p.span == q.span

/-- Whether two lists of parameters are the same. -/
def Param.equalList : List Param → List Param → Bool
  | [], [] => true
  | p :: ps, q :: qs => p.equal q && equalList ps qs
  | _, _ => false

namespace Expr

mutual

/-- Whether two expressions are equal. -/
def equal : Expr → Expr → Bool
  | .literal a s, .literal b t => a.equal b && s == t
  | .symbol n s, .symbol m t => n == m && s == t
  | .self s, .self t => s == t
  | .binary o l r s, .binary p l' r' t => o == p && l.equal l' && r.equal r' && s == t
  | .unary o x s, .unary p y t => o == p && x.equal y && s == t
  | .conditional c x y s, .conditional c' x' y' t =>
    c.equal c' && x.equal x' && y.equal y' && s == t
  | .call f xs s, .call g ys t => f.equal g && equalList xs ys && s == t
  | .subscript a i s, .subscript b j t => a.equal b && i.equal j && s == t
  | .array xs s, .array ys t => equalList xs ys && s == t
  | .map xs s, .map ys t => equalEntries xs ys && s == t
  | .member o n s, .member p m t => o.equal p && n == m && s == t
  | .methodCall o n xs s, .methodCall p m ys t => o.equal p && n == m && equalList xs ys && s == t
  | .construct n xs s, .construct m ys t => n == m && equalList xs ys && s == t
  | _, _ => false

/-- Whether two lists of expressions are equal. -/
def equalList : List Expr → List Expr → Bool
  | [], [] => true
  | x :: xs, y :: ys => x.equal y && equalList xs ys
  | _, _ => false

/-- Whether two lists of map entries are equal. -/
def equalEntries : List (Expr × Expr) → List (Expr × Expr) → Bool
  | [], [] => true
  | (k, v) :: xs, (l, w) :: ys => k.equal l && v.equal w && equalEntries xs ys
  | _, _ => false

end

/-- Whether two expressions that may be absent are equal. -/
def equalOption : Option Expr → Option Expr → Bool
  | none, none => true
  | some a, some b => a.equal b
  | _, _ => false

end Expr

namespace Stmt

mutual

/-- Whether two statements are equal. -/
def equal : Stmt → Stmt → Bool
  | .var n a v s, .var m b w t =>
    n == m && TypeExpr.equalOption a b && v.equal w && s == t
  | .function f, .function g => equalFunction f g
  | .classDecl c, .classDecl d => equalClass c d
  | .field a n v s, .field b m w t => a.equal b && n == m && v.equal w && s == t
  | .assign x v s, .assign y w t => x.equal y && v.equal w && s == t
  | .print v s, .print w t => v.equal w && s == t
  | .expr v s, .expr w t => v.equal w && s == t
  | .ifElse bs a s, .ifElse cs b t => equalBranches bs cs && equalAlternate a b && s == t
  | .whileLoop c b s, .whileLoop c' b' t => c.equal c' && equalBlock b b' && s == t
  | .forLoop n x y b s, .forLoop m x' y' b' t =>
    n == m && x.equal x' && y.equal y' && equalBlock b b' && s == t
  | .forEach n a x b s, .forEach m a' x' b' t =>
    n == m && TypeExpr.equalOption a a' && x.equal x' && equalBlock b b' && s == t
  | .breakLoop s, .breakLoop t => s == t
  | .ret v s, .ret w t => Expr.equalOption v w && s == t
  | _, _ => false
termination_by structural x => x

/-- Whether two function declarations are equal. -/
def equalFunction : FnDecl Stmt → FnDecl Stmt → Bool
  | ⟨n, ps, r, b, s⟩, ⟨m, qs, r', b', t⟩ =>
    n == m && Param.equalList ps qs && TypeExpr.equalOption r r' && equalBlock b b' && s == t
termination_by structural x => x

/-- Whether two class declarations are equal. -/
def equalClass : ClassDecl Stmt → ClassDecl Stmt → Bool
  | ⟨n, ps, b, cs, ms, s⟩, ⟨m, qs, b', ct, ms', t⟩ =>
    n == m && Param.equalList ps qs && equalBlock b b' && cs == ct && equalMethods ms ms' && s == t
termination_by structural x => x

/-- Whether two lists of methods are equal. -/
def equalMethods : List (FnDecl Stmt) → List (FnDecl Stmt) → Bool
  | [], [] => true
  | f :: fs, g :: gs => equalFunction f g && equalMethods fs gs
  | _, _ => false
termination_by structural x => x

/-- Whether two lists of branches are equal. -/
def equalBranches : List (Branch Expr Stmt) → List (Branch Expr Stmt) → Bool
  | [], [] => true
  | ⟨c, b⟩ :: xs, ⟨d, b'⟩ :: ys => c.equal d && equalBlock b b' && equalBranches xs ys
  | _, _ => false
termination_by structural x => x

/-- Whether two alternates are equal. -/
def equalAlternate : Option (Block Stmt) → Option (Block Stmt) → Bool
  | none, none => true
  | some a, some b => equalBlock a b
  | _, _ => false
termination_by structural x => x

/-- Whether two blocks are equal. -/
def equalBlock : Block Stmt → Block Stmt → Bool
  | ⟨xs, s⟩, ⟨ys, t⟩ => equalList xs ys && s == t
termination_by structural x => x

/-- Whether two lists of statements are equal. -/
def equalList : List Stmt → List Stmt → Bool
  | [], [] => true
  | x :: xs, y :: ys => x.equal y && equalList xs ys
  | _, _ => false
termination_by structural x => x

end

end Stmt

/-- Whether two programs are equal. -/
def Program.equal (p q : Program) : Bool :=
  Stmt.equalList p.body q.body && p.span == q.span

end Shipshape
