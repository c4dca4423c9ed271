import Shipshape.Tree.Stmt

/-!
# The names that a tree looks up

* `Shipshape.TypeExpr.names`, `Shipshape.Expr.names`, `Shipshape.Stmt.names` – the names that
  occur in a tree at any depth, be it as a symbol, in a type that is written, or as the class of
  a new object.

A name that is declared counts only where it is used. So these are the names that a check may
look up, and some that are declared inside the tree itself.
-/

namespace Shipshape

mutual

/-- The names in a type as written. -/
def TypeExpr.names : TypeExpr → List String
  | .name name _ => [name]
  | .array element => element.names
  | .map key value => key.names ++ value.names
  | .function params result => typeExprsNames params ++ result.names

/-- The names in types as written. -/
def typeExprsNames : List TypeExpr → List String
  | [] => []
  | a :: as => a.names ++ typeExprsNames as

end

/-- The names in a type that need not be written. -/
def optionNames (typeExpr : Option TypeExpr) : List String := (typeExpr.map TypeExpr.names).getD []

/-- The names in the types of parameters. -/
def paramTypeNames (params : List Param) : List String := typeExprsNames (params.map Param.typeExpr)

mutual

/-- The names in an expression. -/
def Expr.names : Expr → List String
  | .literal _ _ | .self _ => []
  | .symbol name _ => [name]
  | .binary _ left right _ => left.names ++ right.names
  | .unary _ operand _ => operand.names
  | .conditional test consequent alternate _ => test.names ++ consequent.names ++ alternate.names
  | .call callee args _ => callee.names ++ exprsNames args
  | .subscript whole index _ => whole.names ++ index.names
  | .array elements _ => exprsNames elements
  | .map entries _ => entriesNames entries
  | .member object _ _ => object.names
  | .methodCall object _ args _ => object.names ++ exprsNames args
  | .construct className args _ => className :: exprsNames args

/-- The names in expressions. -/
def exprsNames : List Expr → List String
  | [] => []
  | e :: es => e.names ++ exprsNames es

/-- The names in the entries of a map. -/
def entriesNames : List (Expr × Expr) → List String
  | [] => []
  | (k, v) :: rest => k.names ++ v.names ++ entriesNames rest

end

mutual

/-- **The names in a statement.** -/
def Stmt.names : Stmt → List String
  | .var _ typeExpr value _ => value.names ++ optionNames typeExpr
  | .function decl => functionNames decl
  | .classDecl ⟨_, params, body, _, methods, _⟩ =>
    paramTypeNames params ++ blockNames body ++ methodsNames methods
  | .field typeExpr _ value _ => value.names ++ typeExpr.names
  | .assign target value _ => target.names ++ value.names
  | .print value _ | .expr value _ => value.names
  | .ifElse branches alternate _ => branchesNames branches ++ alternateNames alternate
  | .whileLoop test body _ => test.names ++ blockNames body
  | .forLoop _ start stop body _ => start.names ++ stop.names ++ blockNames body
  | .forEach _ typeExpr iterable body _ =>
    iterable.names ++ optionNames typeExpr ++ blockNames body
  | .breakLoop _ => []
  | .ret value _ => (value.map Expr.names).getD []

/-- The names in a function or a method. -/
def functionNames : FnDecl Stmt → List String
  | ⟨_, params, result, body, _⟩ => optionNames result ++ paramTypeNames params ++ blockNames body

/-- The names in methods. -/
def methodsNames : List (FnDecl Stmt) → List String
  | [] => []
  | f :: fs => functionNames f ++ methodsNames fs

/-- The names in the branches of a choice. -/
def branchesNames : List (Branch Expr Stmt) → List String
  | [] => []
  | ⟨test, body⟩ :: rest => test.names ++ blockNames body ++ branchesNames rest

/-- The names in the alternate of a choice. -/
def alternateNames : Option (Block Stmt) → List String
  | none => []
  | some body => blockNames body

/-- The names in a block. -/
def blockNames : Block Stmt → List String
  | ⟨body, _⟩ => stmtsNames body

/-- The names in statements. -/
def stmtsNames : List Stmt → List String
  | [] => []
  | x :: xs => x.names ++ stmtsNames xs

end

end Shipshape
