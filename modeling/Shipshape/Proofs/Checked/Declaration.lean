import Shipshape.Proofs.Checked.Typing

/-!
# What a checked tree declares

* `Shipshape.Checked.Stmt.entities` – the entities that a statement declares;
* `Shipshape.Checked.Stmt.fields` – the fields that a statement declares for the
  class around it, at any depth;
* `Shipshape.Checked.Class.fields` – the fields that a class declares;
* `Shipshape.Checked.Class.Written` – what is known about a class is what its
  declaration writes.

A field belongs to the innermost class around its declaration, however many blocks
and functions lie in between. So the fields of a statement come from all blocks in
it, but those of a class inside belong to that class.
-/

namespace Shipshape.Checked

/-- The entities that a statement declares, those of its blocks left out. -/
def Stmt.entities : Stmt → List Entity
  | .var entity _ _ _ | .field entity _ _ _ | .forLoop entity _ _ _ _ | .forEach entity _ _ _ =>
    [entity]
  | .function f => f.entity :: f.params
  | .classDecl c =>
    c.entity :: c.ctor :: c.params ++ c.methods.flatMap fun m => m.entity :: m.params
  | .assign _ _ _ | .print _ _ | .expr _ | .ifElse _ _ _ | .whileLoop _ _ _ | .breakLoop _
  | .ret _ _ => []

mutual

/-- **The fields that a statement declares** for the class around it, in order. -/
def Stmt.fields : Stmt → List (String × Ty)
  | .field entity ty _ _ => [(entity.name, ty)]
  | .function ⟨_, _, _, body, _⟩ => blockFields body
  | .ifElse branches alternate _ => branchFields branches ++ alternateFields alternate
  | .whileLoop _ body _ | .forLoop _ _ _ body _ | .forEach _ _ body _ => blockFields body
  | .classDecl _ | .var _ _ _ _ | .assign _ _ _ | .print _ _ | .expr _ | .breakLoop _
  | .ret _ _ => []

/-- The fields that the statements of a block declare. -/
def blockFields : Block Stmt → List (String × Ty)
  | ⟨body, _⟩ => stmtsFields body

/-- The fields that statements in a row declare. -/
def stmtsFields : List Stmt → List (String × Ty)
  | [] => []
  | x :: xs => x.fields ++ stmtsFields xs

/-- The fields that the branches of a choice declare. -/
def branchFields : List (Branch Expr Stmt) → List (String × Ty)
  | [] => []
  | ⟨_, body⟩ :: rest => blockFields body ++ branchFields rest

/-- The fields that the alternate of a choice declares. -/
def alternateFields : Option (Block Stmt) → List (String × Ty)
  | none => []
  | some body => blockFields body

end

theorem stmtsFields_append (xs ys : List Stmt) :
    stmtsFields (xs ++ ys) = stmtsFields xs ++ stmtsFields ys := by
  induction xs with
  | nil => rfl
  | cons x xs ih => rw [List.cons_append, stmtsFields, stmtsFields, ih, List.append_assoc]

theorem blockFields_eq (b : Block Stmt) : blockFields b = stmtsFields b.body := by
  rw [blockFields.eq_def]

theorem branchFields_eq (bs : List (Branch Expr Stmt)) :
    branchFields bs = stmtsFields (bs.flatMap fun b => b.body.body) := by
  induction bs with
  | nil => rfl
  | cons b bs ih =>
    obtain ⟨test, body⟩ := b
    rw [branchFields, List.flatMap_cons, stmtsFields_append, ← ih, blockFields_eq]

theorem alternateFields_eq (b : Option (Block Stmt)) :
    alternateFields b = stmtsFields (b.toList.flatMap Block.body) := by
  cases b with
  | none => rfl
  | some b => rw [alternateFields, blockFields_eq, Option.toList_some, List.flatMap_singleton]

theorem fields_function (f : Function Stmt) : (Stmt.function f).fields = blockFields f.body := by
  rw [Stmt.fields.eq_def]

/-- **The fields that a class declares**: first those of the constructor, then those
of the methods in order. -/
def Class.fields (c : Class Stmt) : List (String × Ty) :=
  blockFields c.body ++ c.methods.flatMap fun m => blockFields m.body

/-- A method has the name and the signature of its entity. -/
def Function.IsMethod (m : String × Signature) (f : Function Stmt) : Prop :=
  f.entity.binding = .function m.1 m.2

/-- A method stands in a class under the name of its entity and with the type of a function of
its signature. -/
def Function.IsMember (m : String × Ty) (f : Function Stmt) : Prop :=
  ∃ signature : Signature, f.IsMethod (m.1, signature) ∧ m.2 = signature.toTy

theorem Function.isMember_of_isMethod {ms : List (String × Signature)} {fs : List (Function Stmt)}
    (h : List.Forall₂ Function.IsMethod ms fs) :
    List.Forall₂ Function.IsMember (ms.map fun m => (m.1, m.2.toTy)) fs :=
  List.forall₂_map_left_iff.mpr (h.imp fun m _ hm => ⟨m.2, hm, rfl⟩)

/-- **What is known about a class is what its declaration writes.** -/
structure Class.Written (c : Class Stmt) (info : ClassInfo) : Prop where
  /-- The name. -/
  name : info.name = c.cls.name
  /-- The types of the parameters of the constructor. -/
  params : Entity.AreParams c.params info.ctor.params
  /-- A constructor returns nothing. -/
  result : info.ctor.result = .none
  /-- The methods, in order. -/
  methods : List.Forall₂ Function.IsMember info.methodTypes c.methods
  /-- The fields, in order. -/
  fields : info.fields = c.fields
  /-- No name is given to two fields or to two methods. -/
  distinct : info.Distinct

end Shipshape.Checked
