import Mathlib.Data.List.Forall2
import Shipshape.Proofs.Checked.Node
import Shipshape.Proofs.Class.Growth

/-!
# Local typing

What it takes for one node of a checked tree to be well typed. A rule looks at the
types that the children of the node carry, at what is known about the classes, and
at what surrounds the node; it needs no scope and no name has to be looked up.

* `Shipshape.BinaryOp.Typed`, `Shipshape.UnaryOp.Typed` – operators, by the types of
  their operands and of their result;
* `Shipshape.Signature.Accepts` – arguments fit parameters;
* `Shipshape.Checked.Expr.WellTyped` – expressions, one rule for each kind;
* `Shipshape.Checked.Stmt.WellTyped` – statements, one rule for each kind.

A node that is well typed stays so while the classes grow
(`Shipshape.Checked.Expr.WellTyped.mono`, `Shipshape.Checked.Stmt.WellTyped.mono`).
-/

namespace Shipshape

/-! ### Types of the parts -/

/-- An operator has a result of the type `ty` between operands of the types `left`
and `right`. Arithmetic and order need a number on the left, or a text under `+`;
the right operand then has the same type, or one that is not yet known. -/
def BinaryOp.Typed (op : BinaryOp) (left right ty : Ty) : Prop :=
  match op with
  | .add => (left.isNumeric ∨ left = .string) ∧ (right = left ∨ right = .any) ∧ ty = left
  | .sub | .mul | .div | .pow | .rem =>
    left.isNumeric ∧ (right = left ∨ right = .any) ∧ ty = left
  | .lt | .le | .gt | .ge => left.isNumeric ∧ (right = left ∨ right = .any) ∧ ty = .bool
  | .eq | .ne => (∃ shared, left.common right = some shared) ∧ ty = .bool
  | .and | .or => left = .bool ∧ right = .bool ∧ ty = .bool

/-- An operator has a result of the type `ty` before an operand of the type
`operand`. -/
def UnaryOp.Typed (op : UnaryOp) (operand ty : Ty) : Prop :=
  match op with
  | .negate => operand.isNumeric ∧ ty = operand
  | .not => operand = .bool ∧ ty = .bool

/-- The type that values share, if they do: the first with the second, what these
share with the third, and so on. No values at all share `any`. -/
def Ty.sharedBy (tys : List Ty) : Option Ty := tys.foldlM Ty.common .any

/-- Arguments fit the parameters of a signature, one by one and in number. -/
def Signature.Accepts (signature : Signature) (args : List Checked.Expr) : Prop :=
  List.Forall₂ (fun arg param => arg.ty.assignableTo param = true) args signature.params

/-- The entities are parameters of the given types. -/
def Entity.AreParams (entities : List Entity) (tys : List Ty) : Prop :=
  List.Forall₂ (fun entity ty => ∃ name, entity.binding = .param name ty) entities tys

namespace Checked

/-! ### Expressions -/

/-- **The local typing rule of an expression**, given what is known about the classes
and what surrounds the expression. -/
def Expr.WellTyped (classes : ClassTable) (a : Ambient) : Expr → Prop
  | .literal value ty _ => ty = value.ty
  | .symbol name entity ty _ => entity.valueType? = some ty ∧ entity.name = name
  | .self cls ty _ => a.cls = some cls ∧ ty = .object cls
  | .binary op left right ty _ => op.Typed left.ty right.ty ty
  | .unary op operand ty _ => op.Typed operand.ty ty
  | .conditional test consequent alternate ty _ =>
    test.ty = .bool ∧ consequent.ty.common alternate.ty = some ty
  | .call callee signature args ty _ =>
    callee.ty = signature.toTy ∧ signature.Accepts args ∧ ty = signature.result
  | .subscript whole index ty _ => whole.ty = .array ty ∧ index.ty = .int
  | .array elements ty _ =>
    ∃ element, Ty.sharedBy (elements.map Expr.ty) = some element ∧ ty = .array element
  | .map entries ty _ =>
    ∃ key value, Ty.sharedBy (entries.map fun entry => entry.1.ty) = some key ∧
      Ty.sharedBy (entries.map fun entry => entry.2.ty) = some value ∧ ty = .map key value
  | .member object name ty _ =>
    ∃ cls, object.ty = .object cls ∧ (classes.info cls).field? name = some ty
  | .methodCall object name signature args ty _ =>
    ∃ cls, object.ty = .object cls ∧ (classes.info cls).method? name = some signature ∧
      signature.Accepts args ∧ ty = signature.result
  | .construct cls args ty _ =>
    cls.id < classes.size ∧ (classes.info cls).ctor.Accepts args ∧ ty = .object cls

/-! ### Declarations -/

/-- **The local typing rule of a function**: its entity has its signature, and the
parameters are as the signature says. -/
def Function.WellTyped (f : Function Stmt) : Prop :=
  ∃ name tys, f.entity.binding = .function name ⟨tys, f.result⟩ ∧ Entity.AreParams f.params tys

/-- **The local typing rule of a class**: the class has the constructor and the
methods that are declared here. -/
structure Class.WellTyped (classes : ClassTable) (c : Class Stmt) : Prop where
  /-- The class was made. -/
  declared : c.cls.id < classes.size
  /-- The name stands for the class. -/
  entity : c.entity.binding = .classType c.cls
  /-- The constructor returns nothing. -/
  result : (classes.info c.cls).ctor.result = .none
  /-- The constructor has the signature that the class knows. -/
  ctor : c.ctor.binding = .function c.cls.name (classes.info c.cls).ctor
  /-- The parameters of the constructor. -/
  params : Entity.AreParams c.params (classes.info c.cls).ctor.params
  /-- Each method is a function with the signature that the class knows. -/
  methods : ∀ m ∈ c.methods, m.WellTyped ∧ ∃ name signature,
    m.entity.binding = .function name signature ∧
      (classes.info c.cls).method? name = some signature

/-! ### Statements -/

/-- The value of a return, or its absence, is right for the function `f`. -/
def Stmt.Returns (f : Entity) : Option Expr → Prop
  | none => f.resultType = .none
  | some value => f.resultType ≠ .none ∧ value.ty.assignableTo f.resultType = true

/-- **The local typing rule of a statement**, given what is known about the classes
and what surrounds the statement. -/
def Stmt.WellTyped (classes : ClassTable) (a : Ambient) : Stmt → Prop
  | .var entity ty value _ =>
    (∃ name, entity.binding = .var name ty) ∧ value.ty.assignableTo ty = true
  | .function f => f.WellTyped
  | .classDecl c => c.WellTyped classes
  | .field entity ty value _ =>
    value.ty.assignableTo ty = true ∧ ∃ name cls, entity.binding = .field name ty ∧
      a.cls = some cls ∧ (classes.info cls).field? name = some ty
  | .assign target value _ => value.ty.assignableTo target.ty = true
  | .print _ _ | .expr _ => True
  | .ifElse branches _ _ => ∀ b ∈ branches, b.test.ty = .bool
  | .whileLoop test _ _ => test.ty = .bool
  | .forLoop entity start stop _ _ =>
    (∃ name, entity.binding = .var name .int) ∧ start.ty = .int ∧ stop.ty = .int
  | .forEach entity iterable _ _ =>
    ∃ name ty element, entity.binding = .var name ty ∧
      (iterable.ty = .array element ∨ ∃ key, iterable.ty = .map key element) ∧
      element.assignableTo ty = true
  | .breakLoop _ => a.inLoop = true
  | .ret value _ => ∃ f, a.function = some f ∧ Stmt.Returns f value

/-! ### Growth -/

variable {t u : ClassTable} {a : Ambient}

/-- **An expression stays well typed** while the classes grow. -/
theorem Expr.WellTyped.mono {e : Expr} (h : e.WellTyped t a) (hext : t.Extends u) :
    e.WellTyped u a := by
  cases e with
  | member object name ty span =>
    obtain ⟨cls, hobject, hfield⟩ := h
    exact ⟨cls, hobject, hext.field? hfield⟩
  | methodCall object name signature args ty span =>
    obtain ⟨cls, hobject, hmethod, hargs, hty⟩ := h
    exact ⟨cls, hobject, hext.method? hmethod, hargs, hty⟩
  | construct cls args ty span =>
    obtain ⟨hcls, hargs, hty⟩ := h
    refine ⟨hext.lt_size hcls, ?_, hty⟩
    rw [hext.ctor hcls]
    exact hargs
  | _ => exact h

theorem Class.WellTyped.mono {c : Class Stmt} (h : c.WellTyped t) (hext : t.Extends u) :
    c.WellTyped u := by
  have hctor : (u.info c.cls).ctor = (t.info c.cls).ctor := hext.ctor h.declared
  refine ⟨hext.lt_size h.declared, h.entity, ?_, ?_, ?_, fun m hm => ?_⟩
  · rw [hctor]
    exact h.result
  · rw [hctor]
    exact h.ctor
  · rw [hctor]
    exact h.params
  · obtain ⟨hm, name, signature, hbinding, hmethod⟩ := h.methods m hm
    exact ⟨hm, name, signature, hbinding, hext.method? hmethod⟩

/-- **A statement stays well typed** while the classes grow. -/
theorem Stmt.WellTyped.mono {x : Stmt} (h : x.WellTyped t a) (hext : t.Extends u) :
    x.WellTyped u a := by
  cases x with
  | classDecl c => exact Class.WellTyped.mono h hext
  | field entity ty value span =>
    obtain ⟨hvalue, name, cls, hbinding, hcls, hfield⟩ := h
    exact ⟨hvalue, name, cls, hbinding, hcls, hext.field? hfield⟩
  | _ => exact h

end Checked

end Shipshape
