import Shipshape.Check.Rule

/-!
# Respelled trees

What a check should not look at: how names are spelled, where things stand, and which value a
constant has.

* `Shipshape.Respelling` – other names, other positions and other constants, such that
  different names stay different, the built-in names stay, and constants keep their types;
* `Shipshape.Program.respell`, `Shipshape.Checked.Program.respell` – a program and a checked
  program in which everything is respelled;
* `Shipshape.Ty.respell`, `Shipshape.Entity.respell`, `Shipshape.ClassTable.respell` – the same
  for what a check finds: classes, and with them types and entities, have other names but the
  same numbers.

A respelling of names alone is `Shipshape.Respelling.renaming`. The other extreme is
`Shipshape.Respelling.blank`, which keeps names and blanks all else: it moves everything to one
position and sets every constant to one value of its type. Two programs that differ only in
spans and in the values of constants are the same once they are blanked.
-/

namespace Shipshape

/-- **A respelling**: other names, other positions and other constants. -/
structure Respelling where
  /-- What becomes of a name. -/
  name : String → String
  /-- What becomes of a position. -/
  position : Position → Position
  /-- What becomes of a constant. -/
  literal : Literal → Literal
  /-- Different names stay different. -/
  name_injective : Function.Injective name
  /-- The built-in names stay. -/
  name_builtIn : ∀ kind ∈ Scalar.builtIns, name kind.name = kind.name
  /-- Constants keep their types. -/
  literal_ty : ∀ value, (literal value).ty = value.ty

/-- A respelling of names alone. -/
def Respelling.renaming (r : String → String) (hinjective : Function.Injective r)
    (hbuiltIn : ∀ kind ∈ Scalar.builtIns, r kind.name = kind.name) : Respelling where
  name := r
  position := id
  literal := id
  name_injective := hinjective
  name_builtIn := hbuiltIn
  literal_ty _ := rfl

/-- One constant of each type. -/
def Literal.blank : Literal → Literal
  | .int _ => .int 0
  | .double _ => .double ⟨0⟩
  | .string _ => .string ""
  | .bool _ => .bool false

/-- The respelling that keeps names and nothing else. -/
def Respelling.blank : Respelling where
  name := id
  position _ := .null
  literal := Literal.blank
  name_injective _ _ h := h
  name_builtIn _ _ := rfl
  literal_ty value := by cases value <;> rfl

/-! ### What is written -/

section Written

variable (f : Respelling)

/-- The span between other positions. -/
def Span.respell (span : Span) : Span := ⟨f.position span.start, f.position span.stop⟩

mutual

/-- The type expression in which everything is respelled. -/
def TypeExpr.respell : TypeExpr → TypeExpr
  | .name name span => .name (f.name name) (span.respell f)
  | .array element => .array element.respell
  | .map key value => .map key.respell value.respell
  | .function params result => .function (respellTypeExprs params) result.respell

/-- The type expressions in which everything is respelled. -/
def respellTypeExprs : List TypeExpr → List TypeExpr
  | [] => []
  | a :: as => a.respell :: respellTypeExprs as

end

/-- The parameter in which everything is respelled. -/
def Param.respell (p : Param) : Param := ⟨f.name p.name, p.typeExpr.respell f, p.span.respell f⟩

mutual

/-- The expression in which everything is respelled. -/
def Expr.respell : Expr → Expr
  | .literal value span => .literal (f.literal value) (span.respell f)
  | .symbol name span => .symbol (f.name name) (span.respell f)
  | .self span => .self (span.respell f)
  | .binary op left right span => .binary op left.respell right.respell (span.respell f)
  | .unary op operand span => .unary op operand.respell (span.respell f)
  | .conditional test consequent alternate span =>
    .conditional test.respell consequent.respell alternate.respell (span.respell f)
  | .call callee args span => .call callee.respell (respellExprs args) (span.respell f)
  | .subscript array index span => .subscript array.respell index.respell (span.respell f)
  | .array elements span => .array (respellExprs elements) (span.respell f)
  | .map entries span => .map (respellEntries entries) (span.respell f)
  | .member object name span => .member object.respell (f.name name) (span.respell f)
  | .methodCall object name args span =>
    .methodCall object.respell (f.name name) (respellExprs args) (span.respell f)
  | .construct className args span =>
    .construct (f.name className) (respellExprs args) (span.respell f)

/-- The expressions in which everything is respelled. -/
def respellExprs : List Expr → List Expr
  | [] => []
  | e :: es => e.respell :: respellExprs es

/-- The entries of a map in which everything is respelled. -/
def respellEntries : List (Expr × Expr) → List (Expr × Expr)
  | [] => []
  | (k, v) :: rest => (k.respell, v.respell) :: respellEntries rest

end

mutual

/-- **The statement in which everything is respelled.** -/
def Stmt.respell : Stmt → Stmt
  | .var name typeExpr value span =>
    .var (f.name name) (typeExpr.map (TypeExpr.respell f)) (value.respell f) (span.respell f)
  | .function decl => .function (respellFunction decl)
  | .classDecl decl => .classDecl (respellClass decl)
  | .field typeExpr name value span =>
    .field (typeExpr.respell f) (f.name name) (value.respell f) (span.respell f)
  | .assign target value span => .assign (target.respell f) (value.respell f) (span.respell f)
  | .print value span => .print (value.respell f) (span.respell f)
  | .expr value span => .expr (value.respell f) (span.respell f)
  | .ifElse branches alternate span =>
    .ifElse (respellBranches branches) (respellAlternate alternate) (span.respell f)
  | .whileLoop test body span =>
    .whileLoop (test.respell f) (respellBlock body) (span.respell f)
  | .forLoop name start stop body span =>
    .forLoop (f.name name) (start.respell f) (stop.respell f) (respellBlock body) (span.respell f)
  | .forEach name typeExpr iterable body span =>
    .forEach (f.name name) (typeExpr.map (TypeExpr.respell f)) (iterable.respell f)
      (respellBlock body) (span.respell f)
  | .breakLoop span => .breakLoop (span.respell f)
  | .ret value span => .ret (value.map (Expr.respell f)) (span.respell f)

/-- The function in which everything is respelled. -/
def respellFunction : FnDecl Stmt → FnDecl Stmt
  | ⟨name, params, result, body, span⟩ =>
    ⟨f.name name, params.map (Param.respell f), result.map (TypeExpr.respell f), respellBlock body,
      span.respell f⟩

/-- The class in which everything is respelled. -/
def respellClass : ClassDecl Stmt → ClassDecl Stmt
  | ⟨name, params, body, ctorSpan, methods, span⟩ =>
    ⟨f.name name, params.map (Param.respell f), respellBlock body, ctorSpan.respell f,
      respellMethods methods, span.respell f⟩

/-- The methods in which everything is respelled. -/
def respellMethods : List (FnDecl Stmt) → List (FnDecl Stmt)
  | [] => []
  | m :: ms => respellFunction m :: respellMethods ms

/-- The branches in which everything is respelled. -/
def respellBranches : List (Branch Expr Stmt) → List (Branch Expr Stmt)
  | [] => []
  | ⟨test, body⟩ :: rest => ⟨test.respell f, respellBlock body⟩ :: respellBranches rest

/-- The alternate in which everything is respelled. -/
def respellAlternate : Option (Block Stmt) → Option (Block Stmt)
  | none => none
  | some body => some (respellBlock body)

/-- The block in which everything is respelled. -/
def respellBlock : Block Stmt → Block Stmt
  | ⟨body, span⟩ => ⟨respellStmts body, span.respell f⟩

/-- The statements in which everything is respelled. -/
def respellStmts : List Stmt → List Stmt
  | [] => []
  | x :: xs => x.respell :: respellStmts xs

end

/-- **The program in which everything is respelled.** -/
def Program.respell (p : Program) : Program := ⟨respellStmts f p.body, p.span.respell f⟩

end Written

/-! ### What is found -/

section Found

variable (f : Respelling)

/-- The class by another name, with the same number. -/
def ClassRef.respell (c : ClassRef) : ClassRef := ⟨c.id, f.name c.name⟩

mutual

/-- The type in which classes have other names. -/
def Ty.respell : Ty → Ty
  | .scalar kind => .scalar kind
  | .array element => .array element.respell
  | .map key value => .map key.respell value.respell
  | .function params result => .function (respellTys params) result.respell
  | .object cls => .object (cls.respell f)

/-- The types in which classes have other names. -/
def respellTys : List Ty → List Ty
  | [] => []
  | a :: as => a.respell :: respellTys as

end

@[simp] theorem Ty.respell_scalar (kind : Scalar) :
    (Ty.scalar kind).respell f = .scalar kind := rfl

@[simp] theorem Ty.respell_array (element : Ty) :
    (Ty.array element).respell f = .array (element.respell f) := rfl

@[simp] theorem Ty.respell_map (key value : Ty) :
    (Ty.map key value).respell f = .map (key.respell f) (value.respell f) := rfl

@[simp] theorem Ty.respell_function (params : List Ty) (result : Ty) :
    (Ty.function params result).respell f = .function (respellTys f params) (result.respell f) :=
  rfl

@[simp] theorem Ty.respell_object (cls : ClassRef) :
    (Ty.object cls).respell f = .object (cls.respell f) := rfl

@[simp] theorem respellTys_nil : respellTys f [] = [] := rfl

@[simp] theorem respellTys_cons (a : Ty) (as : List Ty) :
    respellTys f (a :: as) = a.respell f :: respellTys f as := rfl

theorem respellTys_eq_map (tys : List Ty) : respellTys f tys = tys.map (Ty.respell f) := by
  induction tys with
  | nil => rfl
  | cons a as ih => rw [respellTys_cons, List.map_cons, ih]

/-- The signature in which classes have other names. -/
def Signature.respell (s : Signature) : Signature := ⟨respellTys f s.params, s.result.respell f⟩

@[simp] theorem Signature.toTy_respell (s : Signature) :
    (s.respell f).toTy = s.toTy.respell f := rfl

/-- A type is one of functions, whatever the names of classes. -/
theorem Ty.signature?_respell (ty : Ty) :
    (ty.respell f).signature? = ty.signature?.map (Signature.respell f) := by
  cases ty <;> rfl

/-- The binding by another name. A type without a declaration has no name to be changed. -/
def Binding.respell : Binding → Binding
  | .var name ty => .var (f.name name) (ty.respell f)
  | .param name ty => .param (f.name name) (ty.respell f)
  | .field name ty => .field (f.name name) (ty.respell f)
  | .function name signature => .function (f.name name) (signature.respell f)
  | .classType cls => .classType (cls.respell f)
  | .typeName ty => .typeName (ty.respell f)

/-- The entity by another name, with the same number. -/
def Entity.respell (e : Entity) : Entity := ⟨e.id, e.binding.respell f⟩

/-- The class by other names. -/
def ClassInfo.respell (c : ClassInfo) : ClassInfo where
  name := f.name c.name
  ctor := c.ctor.respell f
  fields := c.fields.map (Prod.map f.name (Ty.respell f))
  methodTypes := c.methodTypes.map (Prod.map f.name (Ty.respell f))

/-- The classes by other names. -/
def ClassTable.respell (t : ClassTable) : ClassTable := ⟨t.infos.map (ClassInfo.respell f)⟩

end Found

/-! ### What was checked -/

namespace Checked

variable (f : Respelling)

mutual

/-- The checked expression in which everything is respelled. -/
def Expr.respell : Expr → Expr
  | .literal value ty span => .literal (f.literal value) (ty.respell f) (span.respell f)
  | .symbol name entity ty span =>
    .symbol (f.name name) (entity.respell f) (ty.respell f) (span.respell f)
  | .self cls ty span => .self (cls.respell f) (ty.respell f) (span.respell f)
  | .binary op left right ty span =>
    .binary op left.respell right.respell (ty.respell f) (span.respell f)
  | .unary op operand ty span => .unary op operand.respell (ty.respell f) (span.respell f)
  | .conditional test consequent alternate ty span =>
    .conditional test.respell consequent.respell alternate.respell (ty.respell f) (span.respell f)
  | .call callee signature args ty span =>
    .call callee.respell (signature.respell f) (respellExprs args) (ty.respell f) (span.respell f)
  | .subscript array index ty span =>
    .subscript array.respell index.respell (ty.respell f) (span.respell f)
  | .array elements ty span => .array (respellExprs elements) (ty.respell f) (span.respell f)
  | .map entries ty span => .map (respellEntries entries) (ty.respell f) (span.respell f)
  | .member object name ty span =>
    .member object.respell (f.name name) (ty.respell f) (span.respell f)
  | .methodCall object name signature args ty span =>
    .methodCall object.respell (f.name name) (signature.respell f) (respellExprs args)
      (ty.respell f) (span.respell f)
  | .construct cls args ty span =>
    .construct (cls.respell f) (respellExprs args) (ty.respell f) (span.respell f)

/-- The checked expressions in which everything is respelled. -/
def respellExprs : List Expr → List Expr
  | [] => []
  | e :: es => e.respell :: respellExprs es

/-- The entries of a checked map in which everything is respelled. -/
def respellEntries : List (Expr × Expr) → List (Expr × Expr)
  | [] => []
  | (k, v) :: rest => (k.respell, v.respell) :: respellEntries rest

end

@[simp] theorem Expr.ty_respell (e : Expr) : (e.respell f).ty = e.ty.respell f := by
  cases e <;> simp [Expr.respell, Expr.ty]

@[simp] theorem Expr.span_respell (e : Expr) : (e.respell f).span = e.span.respell f := by
  cases e <;> simp [Expr.respell, Expr.span]

@[simp] theorem length_respellExprs (es : List Expr) : (respellExprs f es).length = es.length := by
  induction es with
  | nil => rw [respellExprs]
  | cons e es ih => rw [respellExprs, List.length_cons, List.length_cons, ih]

mutual

/-- **The checked statement in which everything is respelled.** -/
def Stmt.respell : Stmt → Stmt
  | .var entity ty value span =>
    .var (entity.respell f) (ty.respell f) (value.respell f) (span.respell f)
  | .function decl => .function (respellFunction decl)
  | .classDecl decl => .classDecl (respellClass decl)
  | .field entity ty value span =>
    .field (entity.respell f) (ty.respell f) (value.respell f) (span.respell f)
  | .assign target value span => .assign (target.respell f) (value.respell f) (span.respell f)
  | .print value span => .print (value.respell f) (span.respell f)
  | .expr value => .expr (value.respell f)
  | .ifElse branches alternate span =>
    .ifElse (respellBranches branches) (respellAlternate alternate) (span.respell f)
  | .whileLoop test body span =>
    .whileLoop (test.respell f) (respellBlock body) (span.respell f)
  | .forLoop entity start stop body span =>
    .forLoop (entity.respell f) (start.respell f) (stop.respell f) (respellBlock body)
      (span.respell f)
  | .forEach entity iterable body span =>
    .forEach (entity.respell f) (iterable.respell f) (respellBlock body) (span.respell f)
  | .breakLoop span => .breakLoop (span.respell f)
  | .ret value span => .ret (value.map (Expr.respell f)) (span.respell f)

/-- The checked function in which everything is respelled. -/
def respellFunction : Function Stmt → Function Stmt
  | ⟨entity, params, result, body, span⟩ =>
    ⟨entity.respell f, params.map (Entity.respell f), result.respell f, respellBlock body,
      span.respell f⟩

/-- The checked class in which everything is respelled. -/
def respellClass : Class Stmt → Class Stmt
  | ⟨entity, cls, ctor, params, body, ctorSpan, methods, span⟩ =>
    ⟨entity.respell f, cls.respell f, ctor.respell f, params.map (Entity.respell f),
      respellBlock body, ctorSpan.respell f, respellMethods methods, span.respell f⟩

/-- The checked methods in which everything is respelled. -/
def respellMethods : List (Function Stmt) → List (Function Stmt)
  | [] => []
  | m :: ms => respellFunction m :: respellMethods ms

/-- The checked branches in which everything is respelled. -/
def respellBranches : List (Branch Expr Stmt) → List (Branch Expr Stmt)
  | [] => []
  | ⟨test, body⟩ :: rest => ⟨test.respell f, respellBlock body⟩ :: respellBranches rest

/-- The checked alternate in which everything is respelled. -/
def respellAlternate : Option (Block Stmt) → Option (Block Stmt)
  | none => none
  | some body => some (respellBlock body)

/-- The checked block in which everything is respelled. -/
def respellBlock : Block Stmt → Block Stmt
  | ⟨body, span⟩ => ⟨respellStmts body, span.respell f⟩

/-- The checked statements in which everything is respelled. -/
def respellStmts : List Stmt → List Stmt
  | [] => []
  | x :: xs => x.respell :: respellStmts xs

end

/-- **The checked program in which everything is respelled.** -/
def Program.respell (t : Program) : Program :=
  ⟨respellStmts f t.body, t.span.respell f, t.classes.respell f⟩

end Checked

end Shipshape
