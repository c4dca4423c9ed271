import Shipshape.Proofs.Lexical.Env

/-!
# Checking by lexical scoping

A second checker, which is the reading that scopes are meant to have. It passes
environments down the tree as values, so that nothing a region declares can be
seen outside it, and what it threads from one statement to the next is only what
outlives a region.

* `Shipshape.Lexical.Store` – the classes and the supply of identities;
* `Shipshape.Lexical.expr` – checks an expression, which changes nothing;
* `Shipshape.Lexical.stmt` – checks a statement, which hands back the binding that
  it adds to the frame at hand, if it adds one;
* `Shipshape.Lexical.program` – checks a program.

The rules for types are those of `Shipshape.Rule`, which look at no scope.
-/

namespace Shipshape.Lexical

/-! ### Expressions -/

/-- Passes arguments to what the call at `span` calls. -/
def passed (signature : Signature) (span : Span) (args : Except Diagnostic (List Checked.Expr)) :
    Except Diagnostic (List Checked.Expr) := do
  let args ← args
  Rule.arguments signature args span
  return args

mutual

/-- **Checks an expression** in an environment, given the classes as they are. -/
def expr (env : Env) (classes : ClassTable) : Expr → Except Diagnostic Checked.Expr
  | .literal value span => do
    let _ ← env.descend span
    return .literal value value.ty span
  | .symbol name span => do
    let env ← env.descend span
    let entity ← env.resolve name span
    let ty ← require entity.valueType? (.notAValue name) span
    return .symbol name entity ty span
  | .self span => do
    let env ← env.descend span
    let cls ← require env.ambient.cls .selfOutsideClass span
    return .self cls (.object cls) span
  | .binary op left right span => do
    let env ← env.descend span
    let left ← expr env classes left
    let right ← expr env classes right
    let ty ← Rule.binary op left right
    return .binary op left right ty span
  | .unary op operand span => do
    let env ← env.descend span
    let operand ← expr env classes operand
    let ty ← Rule.unary op operand
    return .unary op operand ty span
  | .conditional test consequent alternate span => do
    let env ← env.descend span
    let test ← expr env classes test
    Rule.boolean test
    let consequent ← expr env classes consequent
    let alternate ← expr env classes alternate
    let ty ← Rule.join consequent.ty alternate
    return .conditional test consequent alternate ty span
  | .call callee args span => do
    let env ← env.descend span
    let callee ← expr env classes callee
    let signature ← Rule.callee callee
    let args ← passed signature span (exprs env classes args)
    return .call callee signature args signature.result span
  | .subscript array index span => do
    let env ← env.descend span
    let array ← expr env classes array
    let index ← expr env classes index
    let ty ← Rule.subscript array index
    return .subscript array index ty span
  | .array elements span => do
    let env ← env.descend span
    let elements ← exprs env classes elements
    let ty ← Rule.elements .any elements
    return .array elements (.array ty) span
  | .map items span => do
    let env ← env.descend span
    let (items, key, value) ← entries env classes .any .any items
    return .map items (.map key value) span
  | .member object name span => do
    let env ← env.descend span
    let object ← expr env classes object
    let cls ← Rule.object object
    let ty ← require ((classes.info cls).field? name) (.unknownMember cls.name name) span
    return .member object name ty span
  | .methodCall object name args span => do
    let env ← env.descend span
    let object ← expr env classes object
    let cls ← Rule.object object
    let signature ← require ((classes.info cls).method? name) (.unknownMember cls.name name) span
    let args ← passed signature span (exprs env classes args)
    return .methodCall object name signature args signature.result span
  | .construct className args span => do
    let env ← env.descend span
    let entity ← env.resolve className span
    let cls ← require entity.class? (.notAClass className) span
    let args ← passed (classes.info cls).ctor span (exprs env classes args)
    return .construct cls args (.object cls) span

/-- Checks expressions from left to right. -/
def exprs (env : Env) (classes : ClassTable) : List Expr → Except Diagnostic (List Checked.Expr)
  | [] => return []
  | e :: es => do
    let e ← expr env classes e
    let es ← exprs env classes es
    return e :: es

/-- Checks the entries of a map, given the types that the keys and the values
before them share. -/
def entries (env : Env) (classes : ClassTable) (key value : Ty) :
    List (Expr × Expr) → Except Diagnostic (List (Checked.Expr × Checked.Expr) × Ty × Ty)
  | [] => return ([], key, value)
  | (k, v) :: rest => do
    let k ← expr env classes k
    let v ← expr env classes v
    let key ← Rule.join key k
    let value ← Rule.join value v
    let (rest, key, value) ← entries env classes key value rest
    return ((k, v) :: rest, key, value)

end

/-- The type of a variable with a checked value: the one that is written, or else
that of the value. -/
def variableType (env : Env) (typeExpr : Option TypeExpr) (value : Checked.Expr) :
    Except Diagnostic Ty :=
  match typeExpr with
  | some typeExpr => do
    let declared ← env.convert typeExpr
    Rule.assignable value declared
    return declared
  | none => Rule.inferred value

/-- The type of a loop variable over a checked iterable: the one that is written,
or else that of its elements. -/
def loopVariableType (env : Env) (typeExpr : Option TypeExpr) (iterable : Checked.Expr) :
    Except Diagnostic Ty := do
  let element ← Rule.iterated iterable
  match typeExpr with
  | some typeExpr => do
    let declared ← env.convert typeExpr
    Rule.declaredElement iterable element declared
  | none => Rule.inferredElement iterable element

/-- The value of a return, if it has one, against the function around it. -/
def returned (env : Env) (classes : ClassTable) (function : Entity) (value : Option Expr)
    (span : Span) : Except Diagnostic (Option Checked.Expr) :=
  match value with
  | none => do
    Rule.returns function false span
    return none
  | some value => do
    Rule.returns function true span
    let value ← expr env classes value
    Rule.assignable value function.resultType
    return some value

/-! ### Statements -/

/-- What outlives the regions of a program. -/
structure Store where
  /-- What is known about the classes. -/
  classes : ClassTable
  /-- The number of the next entity. -/
  nextEntity : Nat
deriving Inhabited, Repr

/-- A computation that threads a store and may fail. -/
abbrev Lex := EStateM Diagnostic Store

namespace Lex

variable {α : Type}

/-- What needs no store. -/
def ofRule (result : Except Diagnostic α) : Lex α := fun σ =>
  match result with
  | .ok a => .ok a σ
  | .error diagnostic => .error diagnostic σ

/-- What reads the classes. -/
def reading (result : ClassTable → Except Diagnostic α) : Lex α := fun σ =>
  ofRule (result σ.classes) σ

/-- Makes an entity. -/
def newEntity (binding : Binding) : Lex Entity := fun σ =>
  .ok ⟨σ.nextEntity, binding⟩ { σ with nextEntity := σ.nextEntity + 1 }

/-- Makes a class without members. -/
def newClass (name : String) : Lex ClassRef := fun σ =>
  .ok (σ.classes.add name).2 { σ with classes := (σ.classes.add name).1 }

/-- Sets the constructor of a class. -/
def setCtor (cls : ClassRef) (signature : Signature) : Lex Unit := fun σ =>
  .ok () { σ with classes := σ.classes.setCtor cls signature }

/-- Adds a field, declared at `span`, to a class. -/
def addField (cls : ClassRef) (name : String) (ty : Ty) (span : Span) : Lex Unit := fun σ =>
  match σ.classes.addField? cls name ty with
  | some classes => .ok () { σ with classes }
  | none => .error (.located (.duplicateDeclaration name) span) σ

/-- Adds a method, declared at `span`, to the class that it belongs to, if it
belongs to one. -/
def addMethod (owner : Option ClassRef) (name : String) (signature : Signature) (span : Span) :
    Lex Unit := fun σ =>
  match owner with
  | none => .ok () σ
  | some cls =>
    match σ.classes.addMethod? cls name signature with
    | some classes => .ok () { σ with classes }
    | none => .error (.located (.duplicateDeclaration name) span) σ

end Lex

/-- Declares parameters of the given types one after the other. The frame that
comes back has them all. -/
def params (frame : Frame) : List Param → List Ty → Lex (Frame × List Entity)
  | param :: rest, ty :: tys => do
    let entity ← Lex.newEntity (.param param.name ty)
    let binding ← Lex.ofRule (frame.declare param.name entity param.span)
    let (frame, entities) ← params (frame.extend [binding]) rest tys
    return (frame, entity :: entities)
  | _, _ => return (frame, [])

/-! A region with names of its own is checked by a function of the environment that
it sees. -/

/-- The body of a loop, which sees the loop variable. -/
def loopBody (env : Env) (name : String) (ty : Ty) (body : Env → Lex (Block Checked.Stmt)) :
    Lex (Entity × Block Checked.Stmt) := do
  let entity ← Lex.newEntity (.var name ty)
  let body ← body (env.push ⟨[(name, entity)], env.ambient.loop⟩)
  return (entity, body)

/-- The part of a function, or of a method of the class `owner`, that follows its
signature. The body sees the parameters and, further out, the function itself. -/
def functionBody (owner : Option ClassRef) (env : Env) (name : String) (parameters : List Param)
    (signature : Signature) (entity : Entity) (span : Span)
    (body : Env → Lex (Block Checked.Stmt)) :
    Lex (Checked.Function Checked.Stmt × (String × Entity)) := do
  let (frame, entities) ←
    params (.empty (env.ambient.inFunction entity)) parameters signature.params
  Lex.addMethod owner name signature span
  let binding ← Lex.ofRule (env.frame.declare name entity span)
  let body ← body ((env.extend [binding]).push frame)
  return (⟨entity, entities, signature.result, body, span⟩, binding)

/-- The body of a constructor, which sees the parameters. -/
def ctorBody (env : Env) (ctor : Entity) (parameters : List Param) (tys : List Ty)
    (body : Env → Lex (Block Checked.Stmt)) : Lex (List Entity × Block Checked.Stmt) := do
  let (frame, entities) ← params (.empty (env.ambient.inFunction ctor)) parameters tys
  let body ← body (env.push frame)
  return (entities, body)

/-- The inside of a class: first the constructor, then the methods. -/
def classBody (env : Env) (cls : ClassRef) (name : String) (parameters : List Param)
    (body : Env → Lex (Block Checked.Stmt))
    (methods : Env → Lex (List (Checked.Function Checked.Stmt))) :
    Lex (Entity × List Entity × Block Checked.Stmt × List (Checked.Function Checked.Stmt)) := do
  let inside := env.push (.empty (env.ambient.inClass cls))
  let tys ← Lex.ofRule (inside.convertParams parameters)
  Lex.setCtor cls ⟨tys, .none⟩
  let ctor ← Lex.newEntity (.function name ⟨tys, .none⟩)
  let (entities, body) ← ctorBody inside ctor parameters tys body
  let methods ← methods inside
  return (ctor, entities, body, methods)

mutual

/-- **Checks a statement** in an environment, and hands back the binding that it
adds to the frame at hand, if it adds one. -/
def stmt (env : Env) : Stmt → Lex (Checked.Stmt × Option (String × Entity))
  | .var name typeExpr value span => do
    let env ← Lex.ofRule (env.descend span)
    let value ← Lex.reading fun classes => expr env classes value
    let ty ← Lex.ofRule (variableType env typeExpr value)
    let entity ← Lex.newEntity (.var name ty)
    let binding ← Lex.ofRule (env.frame.declare name entity span)
    return (.var entity ty value span, some binding)
  | .function decl => do
    let env ← Lex.ofRule (env.descend decl.span)
    let (decl, binding) ← function none env decl
    return (.function decl, some binding)
  | .classDecl decl => do
    let env ← Lex.ofRule (env.descend decl.span)
    let (decl, binding) ← classDecl env decl
    return (.classDecl decl, some binding)
  | .field typeExpr name value span => do
    let env ← Lex.ofRule (env.descend span)
    let cls ← Lex.ofRule (require env.ambient.cls .selfOutsideClass span)
    let value ← Lex.reading fun classes => expr env classes value
    let ty ← Lex.ofRule (env.convert typeExpr)
    Lex.ofRule (Rule.assignable value ty)
    Lex.addField cls name ty span
    let entity ← Lex.newEntity (.field name ty)
    let binding ← Lex.ofRule (env.frame.declare name entity span)
    return (.field entity ty value span, some binding)
  | .assign target value span => do
    let env ← Lex.ofRule (env.descend span)
    let value ← Lex.reading fun classes => expr env classes value
    let target ← Lex.reading fun classes => expr env classes target
    Lex.ofRule (Rule.assignable value target.ty)
    return (.assign target value span, none)
  | .print value span => do
    let env ← Lex.ofRule (env.descend span)
    let value ← Lex.reading fun classes => expr env classes value
    return (.print value span, none)
  | .expr value span => do
    let env ← Lex.ofRule (env.descend span)
    let value ← Lex.reading fun classes => expr env classes value
    return (.expr value, none)
  | .ifElse choices otherwise span => do
    let env ← Lex.ofRule (env.descend span)
    let choices ← branches env choices
    let otherwise ← alternate env otherwise
    return (.ifElse choices otherwise span, none)
  | .whileLoop test body span => do
    let env ← Lex.ofRule (env.descend span)
    let test ← Lex.reading fun classes => expr env classes test
    Lex.ofRule (Rule.boolean test)
    let body ← block (env.push (.empty env.ambient.loop)) body
    return (.whileLoop test body span, none)
  | .forLoop name start stop body span => do
    let env ← Lex.ofRule (env.descend span)
    let start ← Lex.reading fun classes => expr env classes start
    Lex.ofRule (Rule.integer start)
    let stop ← Lex.reading fun classes => expr env classes stop
    Lex.ofRule (Rule.integer stop)
    let (entity, body) ← loopBody env name .int fun inner => block inner body
    return (.forLoop entity start stop body span, none)
  | .forEach name typeExpr iterable body span => do
    let env ← Lex.ofRule (env.descend span)
    let iterable ← Lex.reading fun classes => expr env classes iterable
    let ty ← Lex.ofRule (loopVariableType env typeExpr iterable)
    let (entity, body) ← loopBody env name ty fun inner => block inner body
    return (.forEach entity iterable body span, none)
  | .breakLoop span => do
    let env ← Lex.ofRule (env.descend span)
    Lex.ofRule (if env.ambient.inLoop then .ok () else .error (.located .breakOutsideLoop span))
    return (.breakLoop span, none)
  | .ret value span => do
    let env ← Lex.ofRule (env.descend span)
    let function ← Lex.ofRule (require env.ambient.function .returnOutsideFunction span)
    let value ← Lex.reading fun classes => returned env classes function value span
    return (.ret value span, none)

/-- Checks a function, or a method of the class `owner`. The types that it writes
are read outside it, and its body sees its name. -/
def function (owner : Option ClassRef) (env : Env) :
    FnDecl Stmt → Lex (Checked.Function Checked.Stmt × (String × Entity))
  | ⟨name, parameters, result, body, span⟩ => do
    let result ← Lex.ofRule (env.convertResult result)
    let tys ← Lex.ofRule (env.convertParams parameters)
    let entity ← Lex.newEntity (.function name ⟨tys, result⟩)
    functionBody owner env name parameters ⟨tys, result⟩ entity span fun inner => block inner body

/-- Checks a class: first its constructor, then its methods in order. -/
def classDecl (env : Env) :
    ClassDecl Stmt → Lex (Checked.Class Checked.Stmt × (String × Entity))
  | ⟨name, parameters, body, ctorSpan, decls, span⟩ => do
    let cls ← Lex.newClass name
    let (ctor, entities, body, decls) ←
      classBody env cls name parameters (fun inner => block inner body)
        fun inside => methods cls inside decls
    let entity ← Lex.newEntity (.classType cls)
    let binding ← Lex.ofRule (env.frame.declare name entity span)
    return (⟨entity, cls, ctor, entities, body, ctorSpan, decls, span⟩, binding)

/-- Checks the methods of a class in order, each seeing the names of those before
it. -/
def methods (cls : ClassRef) (env : Env) :
    List (FnDecl Stmt) → Lex (List (Checked.Function Checked.Stmt))
  | [] => return []
  | decl :: decls => do
    let (decl, binding) ← function (some cls) env decl
    let decls ← methods cls (env.extend [binding]) decls
    return decl :: decls

/-- Checks the branches of a choice in order, each in a frame of its own. -/
def branches (env : Env) :
    List (Branch Expr Stmt) → Lex (List (Branch Checked.Expr Checked.Stmt))
  | [] => return []
  | ⟨test, body⟩ :: rest => do
    let test ← Lex.reading fun classes => expr env classes test
    Lex.ofRule (Rule.boolean test)
    let body ← block (env.push (.empty env.ambient)) body
    let rest ← branches env rest
    return ⟨test, body⟩ :: rest

/-- Checks the alternate of a choice, if it has one, in a frame of its own. -/
def alternate (env : Env) : Option (Block Stmt) → Lex (Option (Block Checked.Stmt))
  | none => return none
  | some body => do
    let body ← block (env.push (.empty env.ambient)) body
    return some body

/-- **Checks the statements of a block** in an environment of its own. -/
def block (env : Env) : Block Stmt → Lex (Block Checked.Stmt)
  | ⟨body, span⟩ => do
    let body ← stmts env body
    return ⟨body, span⟩

/-- Checks statements in order, each seeing the names of those before it. -/
def stmts (env : Env) : List Stmt → Lex (List Checked.Stmt)
  | [] => return []
  | x :: xs => do
    let (x, binding) ← stmt env x
    let xs ← stmts (env.extend binding.toList) xs
    return x :: xs

end

/-- **Checks a program** by lexical scoping. -/
def program (limit : Nat) (p : Program) : Except Diagnostic Checked.Program :=
  match stmts (.root limit) p.body ⟨.empty, builtInEntities.length⟩ with
  | .ok body σ => .ok ⟨body, p.span, σ.classes⟩
  | .error diagnostic _ => .error diagnostic

end Shipshape.Lexical
