import Shipshape.Check.TypeExpr
import Shipshape.Check.Expr

/-!
# Checking statements

* `Shipshape.checkStmt`, `Shipshape.checkBlock` – check a statement, or the
  statements of a block one after the other, in a scope;
* `Shipshape.checkFunction`, `Shipshape.checkClass` – check a declaration that
  holds blocks.

A declaration is visible to the statements after it. A function is also visible
in its own body: its name is declared before the body is checked, but after the
types that it writes were read and its parameters declared. A class is visible
after its declaration only; inside it, self is what refers to it, and its members
are known as far as they have been declared.
-/

namespace Shipshape

/-- Declares parameters of the given types in a scope. -/
def declareParams (id : ScopeId) : List Param → List Ty → Check (List Entity)
  | param :: params, ty :: tys => do
    let entity ← Check.newEntity (.param param.name ty)
    Check.declare id param.name entity param.span
    let entities ← declareParams id params tys
    return entity :: entities
  | _, _ => return []

/-- Adds a method to the class that it belongs to, if it belongs to one. -/
def declareMethod (owner : Option ClassRef) (name : String) (signature : Signature) (span : Span) :
    Check Unit :=
  match owner with
  | none => return ()
  | some cls => do
    let free ← Check.addMethod cls name signature
    if free then return () else Check.refuse (.duplicateDeclaration name) span

/-- The type of a variable with a checked value: the one that is written, or else
that of the value. -/
def variableType (id : ScopeId) (typeExpr : Option TypeExpr) (value : Checked.Expr) :
    Check Ty :=
  match typeExpr with
  | some typeExpr => do
    let declared ← convert id typeExpr
    Check.ofRule (Rule.assignable value declared)
    return declared
  | none => Check.ofRule (Rule.inferred value)

/-- The type of a loop variable over a checked iterable: the one that is written,
or else that of its elements. -/
def loopVariableType (id : ScopeId) (typeExpr : Option TypeExpr) (iterable : Checked.Expr) :
    Check Ty := do
  let element ← Check.ofRule (Rule.iterated iterable)
  match typeExpr with
  | some typeExpr => do
    let declared ← convert id typeExpr
    Check.ofRule (Rule.declaredElement iterable element declared)
  | none => Check.ofRule (Rule.inferredElement iterable element)

/-- Checks the value of a return, if it has one, against the function around it. -/
def checkReturn (id : ScopeId) (function : Entity) (value : Option Expr) (span : Span) :
    Check (Option Checked.Expr) :=
  match value with
  | none => do
    Check.ofRule (Rule.returns function false span)
    return none
  | some value => do
    Check.ofRule (Rule.returns function true span)
    let value ← checkExpr id value
    Check.ofRule (Rule.assignable value function.resultType)
    return some value

mutual

/-- **Checks a statement** in a scope, one level deeper. -/
def checkStmt (id : ScopeId) : Stmt → Check Checked.Stmt
  | .var name typeExpr value span => Check.nested span do
    let value ← checkExpr id value
    let ty ← variableType id typeExpr value
    let entity ← Check.newEntity (.var name ty)
    Check.declare id name entity span
    return .var entity ty value span
  | .function decl => Check.nested decl.span do
    let decl ← checkFunction none id decl
    return .function decl
  | .classDecl decl => Check.nested decl.span do
    let decl ← checkClass id decl
    return .classDecl decl
  | .field typeExpr name value span => Check.nested span do
    let scope ← Check.scope id
    let cls ← Check.require scope.cls .selfOutsideClass span
    let value ← checkExpr id value
    let ty ← convert id typeExpr
    Check.ofRule (Rule.assignable value ty)
    let free ← Check.addField cls name ty
    if free then
      let entity ← Check.newEntity (.field name ty)
      Check.declare id name entity span
      return .field entity ty value span
    else Check.refuse (.duplicateDeclaration name) span
  | .assign target value span => Check.nested span do
    let value ← checkExpr id value
    let target ← checkExpr id target
    Check.ofRule (Rule.assignable value target.ty)
    return .assign target value span
  | .print value span => Check.nested span do
    let value ← checkExpr id value
    return .print value span
  | .expr value span => Check.nested span do
    let value ← checkExpr id value
    return .expr value
  | .ifElse branches alternate span => Check.nested span do
    let branches ← checkBranches id branches
    let alternate ← checkAlternate id alternate
    return .ifElse branches alternate span
  | .whileLoop test body span => Check.nested span do
    let test ← checkExpr id test
    Check.ofRule (Rule.boolean test)
    let body ← Check.withChild id { inLoop := some true } fun inner => checkBlock inner body
    return .whileLoop test body span
  | .forLoop name start stop body span => Check.nested span do
    let start ← checkExpr id start
    Check.ofRule (Rule.integer start)
    let stop ← checkExpr id stop
    Check.ofRule (Rule.integer stop)
    let (entity, body) ← Check.withChild id { inLoop := some true } fun inner => do
      let entity ← Check.newEntity (.var name .int)
      Check.declare inner name entity span
      let body ← checkBlock inner body
      return (entity, body)
    return .forLoop entity start stop body span
  | .forEach name typeExpr iterable body span => Check.nested span do
    let iterable ← checkExpr id iterable
    let ty ← loopVariableType id typeExpr iterable
    let (entity, body) ← Check.withChild id { inLoop := some true } fun inner => do
      let entity ← Check.newEntity (.var name ty)
      Check.declare inner name entity span
      let body ← checkBlock inner body
      return (entity, body)
    return .forEach entity iterable body span
  | .breakLoop span => Check.nested span do
    let scope ← Check.scope id
    if scope.inLoop then return .breakLoop span else Check.refuse .breakOutsideLoop span
  | .ret value span => Check.nested span do
    let scope ← Check.scope id
    let function ← Check.require scope.function .returnOutsideFunction span
    let value ← checkReturn id function value span
    return .ret value span

/-- Checks a function, or a method of the class `owner`. -/
def checkFunction (owner : Option ClassRef) (id : ScopeId) :
    FnDecl Stmt → Check (Checked.Function Checked.Stmt)
  | ⟨name, params, result, body, span⟩ => do
    let result ← convertResult id result
    let tys ← convertParams id params
    let signature : Signature := ⟨tys, result⟩
    let entity ← Check.newEntity (.function name signature)
    Check.withChild id { inLoop := some false, function := some entity } fun inner => do
      let params ← declareParams inner params tys
      declareMethod owner name signature span
      Check.declare id name entity span
      let body ← checkBlock inner body
      return ⟨entity, params, result, body, span⟩

/-- Checks a class: first its constructor, then its methods in order. -/
def checkClass (id : ScopeId) : ClassDecl Stmt → Check (Checked.Class Checked.Stmt)
  | ⟨name, params, body, ctorSpan, methods, span⟩ => do
    let cls ← Check.newClass name
    let (ctor, params, body, methods) ← Check.withChild id { cls := some cls } fun inside => do
      let tys ← convertParams inside params
      let signature : Signature := ⟨tys, .none⟩
      Check.setCtor cls signature
      let ctor ← Check.newEntity (.function name signature)
      let (params, body) ←
        Check.withChild inside { inLoop := some false, function := some ctor } fun inner => do
          let params ← declareParams inner params tys
          let body ← checkBlock inner body
          return (params, body)
      let methods ← checkMethods cls inside methods
      return (ctor, params, body, methods)
    let entity ← Check.newEntity (.classType cls)
    Check.declare id name entity span
    return ⟨entity, cls, ctor, params, body, ctorSpan, methods, span⟩

/-- Checks the methods of a class in order. -/
def checkMethods (cls : ClassRef) (id : ScopeId) :
    List (FnDecl Stmt) → Check (List (Checked.Function Checked.Stmt))
  | [] => return []
  | decl :: decls => do
    let decl ← checkFunction (some cls) id decl
    let decls ← checkMethods cls id decls
    return decl :: decls

/-- Checks the branches of a choice in order, each in a scope of its own. -/
def checkBranches (id : ScopeId) :
    List (Branch Expr Stmt) → Check (List (Branch Checked.Expr Checked.Stmt))
  | [] => return []
  | ⟨test, body⟩ :: branches => do
    let test ← checkExpr id test
    Check.ofRule (Rule.boolean test)
    let body ← Check.withChild id {} fun inner => checkBlock inner body
    let branches ← checkBranches id branches
    return ⟨test, body⟩ :: branches

/-- Checks the alternate of a choice, if it has one, in a scope of its own. -/
def checkAlternate (id : ScopeId) : Option (Block Stmt) → Check (Option (Block Checked.Stmt))
  | none => return none
  | some body => do
    let body ← Check.withChild id {} fun inner => checkBlock inner body
    return some body

/-- **Checks the statements of a block** directly in a scope. -/
def checkBlock (id : ScopeId) : Block Stmt → Check (Block Checked.Stmt)
  | ⟨body, span⟩ => do
    let body ← checkStmts id body
    return ⟨body, span⟩

/-- Checks statements in order. -/
def checkStmts (id : ScopeId) : List Stmt → Check (List Checked.Stmt)
  | [] => return []
  | stmt :: stmts => do
    let stmt ← checkStmt id stmt
    let stmts ← checkStmts id stmts
    return stmt :: stmts

end

end Shipshape
