import Shipshape.Check.Rule

/-!
# Checked trees with other numbers

Two checks of one statement may number the entities that they make differently. Here is what
it means that the checked trees are the same otherwise.

* `Shipshape.Entity.relabel` – an entity with another number;
* `Shipshape.Checked.Expr.relabel`, `Shipshape.Checked.Stmt.relabel` – a checked tree in which
  every entity has another number.

The type and the span of an expression stay, and a rule looks at nothing else. So a rule does
not tell an expression from the same with other numbers (`Shipshape.Rule.binary_relabel` and
the like).
-/

namespace Shipshape

/-! ### Entities -/

/-- The entity with another number. -/
def Entity.relabel (r : Nat → Nat) (e : Entity) : Entity := ⟨r e.id, e.binding⟩

/-- A name with its entity, which has another number. -/
def relabelBinding (r : Nat → Nat) (b : String × Entity) : String × Entity := (b.1, b.2.relabel r)

namespace Checked

/-! ### Expressions -/

mutual

/-- The expression in which every entity has another number. -/
def Expr.relabel (r : Nat → Nat) : Expr → Expr
  | .literal value ty span => .literal value ty span
  | .symbol name entity ty span => .symbol name (entity.relabel r) ty span
  | .self cls ty span => .self cls ty span
  | .binary op left right ty span => .binary op (left.relabel r) (right.relabel r) ty span
  | .unary op operand ty span => .unary op (operand.relabel r) ty span
  | .conditional test consequent alternate ty span =>
    .conditional (test.relabel r) (consequent.relabel r) (alternate.relabel r) ty span
  | .call callee signature args ty span =>
    .call (callee.relabel r) signature (relabelExprs r args) ty span
  | .subscript whole index ty span => .subscript (whole.relabel r) (index.relabel r) ty span
  | .array elements ty span => .array (relabelExprs r elements) ty span
  | .map entries ty span => .map (relabelEntries r entries) ty span
  | .member object name ty span => .member (object.relabel r) name ty span
  | .methodCall object name signature args ty span =>
    .methodCall (object.relabel r) name signature (relabelExprs r args) ty span
  | .construct cls args ty span => .construct cls (relabelExprs r args) ty span

/-- The expressions in which every entity has another number. -/
def relabelExprs (r : Nat → Nat) : List Expr → List Expr
  | [] => []
  | e :: es => e.relabel r :: relabelExprs r es

/-- The entries of a map in which every entity has another number. -/
def relabelEntries (r : Nat → Nat) : List (Expr × Expr) → List (Expr × Expr)
  | [] => []
  | (k, v) :: rest => (k.relabel r, v.relabel r) :: relabelEntries r rest

end

variable (r : Nat → Nat)

@[simp] theorem Expr.ty_relabel (e : Expr) : (e.relabel r).ty = e.ty := by
  cases e <;> simp [Expr.relabel, Expr.ty]

@[simp] theorem Expr.span_relabel (e : Expr) : (e.relabel r).span = e.span := by
  cases e <;> simp [Expr.relabel, Expr.span]

@[simp] theorem length_relabelExprs (es : List Expr) : (relabelExprs r es).length = es.length := by
  induction es with
  | nil => rw [relabelExprs]
  | cons e es ih => rw [relabelExprs, List.length_cons, List.length_cons, ih]

/-! ### Statements -/

mutual

/-- **The statement in which every entity has another number.** -/
def Stmt.relabel (r : Nat → Nat) : Stmt → Stmt
  | .var entity ty value span => .var (entity.relabel r) ty (value.relabel r) span
  | .function decl => .function (relabelFunction r decl)
  | .classDecl decl => .classDecl (relabelClass r decl)
  | .field entity ty value span => .field (entity.relabel r) ty (value.relabel r) span
  | .assign target value span => .assign (target.relabel r) (value.relabel r) span
  | .print value span => .print (value.relabel r) span
  | .expr value => .expr (value.relabel r)
  | .ifElse branches alternate span =>
    .ifElse (relabelBranches r branches) (relabelAlternate r alternate) span
  | .whileLoop test body span => .whileLoop (test.relabel r) (relabelBlock r body) span
  | .forLoop entity start stop body span =>
    .forLoop (entity.relabel r) (start.relabel r) (stop.relabel r) (relabelBlock r body) span
  | .forEach entity iterable body span =>
    .forEach (entity.relabel r) (iterable.relabel r) (relabelBlock r body) span
  | .breakLoop span => .breakLoop span
  | .ret value span => .ret (value.map (Expr.relabel r)) span

/-- The function in which every entity has another number. -/
def relabelFunction (r : Nat → Nat) : Function Stmt → Function Stmt
  | ⟨entity, params, result, body, span⟩ =>
    ⟨entity.relabel r, params.map (Entity.relabel r), result, relabelBlock r body, span⟩

/-- The class in which every entity has another number. -/
def relabelClass (r : Nat → Nat) : Class Stmt → Class Stmt
  | ⟨entity, cls, ctor, params, body, ctorSpan, methods, span⟩ =>
    ⟨entity.relabel r, cls, ctor.relabel r, params.map (Entity.relabel r), relabelBlock r body,
      ctorSpan, relabelMethods r methods, span⟩

/-- The methods in which every entity has another number. -/
def relabelMethods (r : Nat → Nat) : List (Function Stmt) → List (Function Stmt)
  | [] => []
  | f :: fs => relabelFunction r f :: relabelMethods r fs

/-- The branches in which every entity has another number. -/
def relabelBranches (r : Nat → Nat) : List (Branch Expr Stmt) → List (Branch Expr Stmt)
  | [] => []
  | ⟨test, body⟩ :: rest => ⟨test.relabel r, relabelBlock r body⟩ :: relabelBranches r rest

/-- The alternate in which every entity has another number. -/
def relabelAlternate (r : Nat → Nat) : Option (Block Stmt) → Option (Block Stmt)
  | none => none
  | some body => some (relabelBlock r body)

/-- The block in which every entity has another number. -/
def relabelBlock (r : Nat → Nat) : Block Stmt → Block Stmt
  | ⟨body, span⟩ => ⟨relabelStmts r body, span⟩

/-- The statements in which every entity has another number. -/
def relabelStmts (r : Nat → Nat) : List Stmt → List Stmt
  | [] => []
  | x :: xs => x.relabel r :: relabelStmts r xs

end

end Checked

/-! ### Rules -/

namespace Rule

open Checked (relabelExprs)

variable (r : Nat → Nat)

@[simp] theorem boolean_relabel (e : Checked.Expr) : boolean (e.relabel r) = boolean e := by
  simp [boolean]

@[simp] theorem integer_relabel (e : Checked.Expr) : integer (e.relabel r) = integer e := by
  simp [integer]

@[simp] theorem number_relabel (e : Checked.Expr) : number (e.relabel r) = number e := by
  simp [number]

@[simp] theorem summand_relabel (e : Checked.Expr) : summand (e.relabel r) = summand e := by
  simp [summand]

@[simp] theorem assignable_relabel (value : Checked.Expr) (target : Ty) :
    assignable (value.relabel r) target = assignable value target := by
  simp [assignable]

@[simp] theorem join_relabel (ty : Ty) (e : Checked.Expr) : join ty (e.relabel r) = join ty e := by
  simp [join]

@[simp] theorem elements_relabel (ty : Ty) (es : List Checked.Expr) :
    elements ty (relabelExprs r es) = elements ty es := by
  induction es generalizing ty with
  | nil => rw [relabelExprs]
  | cons e es ih =>
    rw [relabelExprs, elements, elements, join_relabel]
    cases join ty e with
    | ok shared => exact ih shared
    | error d => rfl

@[simp] theorem binary_relabel (op : BinaryOp) (left right : Checked.Expr) :
    binary op (left.relabel r) (right.relabel r) = binary op left right := by
  cases op <;> simp [binary]

@[simp] theorem unary_relabel (op : UnaryOp) (operand : Checked.Expr) :
    unary op (operand.relabel r) = unary op operand := by
  cases op <;> simp [unary]

@[simp] theorem callee_relabel (e : Checked.Expr) : callee (e.relabel r) = callee e := by
  simp [callee]

@[simp] theorem object_relabel (e : Checked.Expr) : object (e.relabel r) = object e := by
  simp [object]

@[simp] theorem subscript_relabel (array index : Checked.Expr) :
    subscript (array.relabel r) (index.relabel r) = subscript array index := by
  simp [subscript]

theorem argumentTypes_relabel (index : Nat) (params : List Ty) (args : List Checked.Expr) :
    argumentTypes index params (relabelExprs r args) = argumentTypes index params args := by
  induction args generalizing index params with
  | nil => rw [relabelExprs]
  | cons arg args ih =>
    rw [relabelExprs]
    cases params with
    | nil => simp [argumentTypes]
    | cons param params => simp [argumentTypes, ih]

@[simp] theorem arguments_relabel (signature : Signature) (args : List Checked.Expr)
    (span : Span) :
    arguments signature (relabelExprs r args) span = arguments signature args span := by
  simp [arguments, argumentTypes_relabel]

@[simp] theorem inferred_relabel (value : Checked.Expr) :
    inferred (value.relabel r) = inferred value := by
  simp [inferred]

@[simp] theorem iterated_relabel (iterable : Checked.Expr) :
    iterated (iterable.relabel r) = iterated iterable := by
  simp [iterated]

@[simp] theorem inferredElement_relabel (iterable : Checked.Expr) (element : Ty) :
    inferredElement (iterable.relabel r) element = inferredElement iterable element := by
  simp [inferredElement]

@[simp] theorem declaredElement_relabel (iterable : Checked.Expr) (element declared : Ty) :
    declaredElement (iterable.relabel r) element declared =
      declaredElement iterable element declared := by
  simp [declaredElement]

end Rule

end Shipshape
