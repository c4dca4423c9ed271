import Shipshape.Tree.Stmt

/-!
# Where the nodes of a tree stand

Every statement and every expression of a program as written, with how deep it is
nested.

* `Shipshape.Site` – how many statements and expressions there are on the way to a
  node, the node included, and where the node stands;
* `Shipshape.Expr.sites`, `Shipshape.Stmt.sites`, `Shipshape.Program.sites` – all nodes
  of a tree;
* `Shipshape.Program.height` – how deep the deepest node is.

Only statements and expressions count. A block, a branch, a parameter or a type
expression is on no path, so what stands in the constructor or in a method of a class
is directly below the class.
-/

namespace Shipshape

/-- A node of a tree: how deep it is nested, from 1 for the outermost, and where it
stands. -/
structure Site where
  /-- How many nodes there are on the way, this one included. -/
  depth : Nat
  /-- Where the node stands. -/
  span : Span

namespace Site

/-- A node as it is seen from one node further up. -/
def below (n : Site) : Site := { n with depth := n.depth + 1 }

/-- A node at `span` together with the nodes that lie in it, as they are seen from
it. -/
def under (span : Span) (inner : List Site) : List Site := ⟨1, span⟩ :: inner.map below

end Site

/-! ### Expressions -/

mutual

/-- All nodes of an expression. -/
def Expr.sites : Expr → List Site
  | .literal _ span | .symbol _ span | .self span => Site.under span []
  | .binary _ left right span => Site.under span (left.sites ++ right.sites)
  | .unary _ operand span => Site.under span operand.sites
  | .conditional test consequent alternate span =>
    Site.under span (test.sites ++ (consequent.sites ++ alternate.sites))
  | .call callee args span => Site.under span (callee.sites ++ exprsSites args)
  | .subscript array index span => Site.under span (array.sites ++ index.sites)
  | .array elements span => Site.under span (exprsSites elements)
  | .map entries span => Site.under span (entriesSites entries)
  | .member object _ span => Site.under span object.sites
  | .methodCall object _ args span => Site.under span (object.sites ++ exprsSites args)
  | .construct _ args span => Site.under span (exprsSites args)

/-- All nodes of some expressions. -/
def exprsSites : List Expr → List Site
  | [] => []
  | e :: es => e.sites ++ exprsSites es

/-- All nodes of the entries of a map. -/
def entriesSites : List (Expr × Expr) → List Site
  | [] => []
  | (key, value) :: entries => key.sites ++ (value.sites ++ entriesSites entries)

end

/-! ### Statements -/

mutual

/-- All nodes of a statement. -/
def Stmt.sites : Stmt → List Site
  | .var _ _ value span | .field _ _ value span | .print value span | .expr value span =>
    Site.under span value.sites
  | .function ⟨_, _, _, body, span⟩ => Site.under span (blockSites body)
  | .classDecl ⟨_, _, body, _, methods, span⟩ =>
    Site.under span (blockSites body ++ methodsSites methods)
  | .assign target value span => Site.under span (value.sites ++ target.sites)
  | .ifElse branches alternate span =>
    Site.under span (branchesSites branches ++ alternateSites alternate)
  | .whileLoop test body span => Site.under span (test.sites ++ blockSites body)
  | .forLoop _ start stop body span =>
    Site.under span (start.sites ++ (stop.sites ++ blockSites body))
  | .forEach _ _ iterable body span => Site.under span (iterable.sites ++ blockSites body)
  | .breakLoop span | .ret none span => Site.under span []
  | .ret (some value) span => Site.under span value.sites

/-- All nodes of a block. -/
def blockSites : Block Stmt → List Site
  | ⟨body, _⟩ => stmtsSites body

/-- All nodes of some statements. -/
def stmtsSites : List Stmt → List Site
  | [] => []
  | x :: xs => x.sites ++ stmtsSites xs

/-- All nodes of the methods of a class. -/
def methodsSites : List (FnDecl Stmt) → List Site
  | [] => []
  | ⟨_, _, _, body, _⟩ :: rest => blockSites body ++ methodsSites rest

/-- All nodes of the branches of a choice. -/
def branchesSites : List (Branch Expr Stmt) → List Site
  | [] => []
  | ⟨test, body⟩ :: rest => test.sites ++ (blockSites body ++ branchesSites rest)

/-- All nodes of the alternate of a choice. -/
def alternateSites : Option (Block Stmt) → List Site
  | none => []
  | some body => blockSites body

end

/-! ### Programs -/

namespace Program

/-- All statements and expressions of a program. -/
def sites (p : Program) : List Site := stmtsSites p.body

/-- **How deep the deepest node of a program is nested.** -/
def height (p : Program) : Nat := p.sites.foldr (fun n deepest => max n.depth deepest) 0

/-- A height is a bound exactly when it bounds the depth of every node. -/
theorem height_le_iff {p : Program} {limit : Nat} :
    p.height ≤ limit ↔ ∀ n ∈ p.sites, n.depth ≤ limit := by
  rw [height]
  induction p.sites with
  | nil => simp
  | cons n sites ih => rw [List.foldr_cons, Nat.max_le, ih, List.forall_mem_cons]

end Program

end Shipshape
