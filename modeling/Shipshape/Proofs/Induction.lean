import Shipshape.Checked.Tree

/-!
# Induction over trees

The trees hold their children in lists, options and small records. The principles
here hide that: each has a single motive, and the hypothesis for the children in a
list is that the motive holds of every member.

* `Shipshape.Ty.ind`, `Shipshape.TypeExpr.ind` – types and type expressions;
* `Shipshape.Expr.ind` – expressions;
* `Shipshape.Stmt.ind`, `Shipshape.Checked.Stmt.ind` – statements, as written and once
  they are checked. The hypothesis for a block is about the statements directly in it;
  that of a class covers the constructor and every method.

They are what `induction` uses on these types.
-/

namespace Shipshape

/-- Induction over types. -/
@[induction_eliminator]
theorem Ty.ind {motive : Ty → Prop}
    (scalar : ∀ kind, motive (.scalar kind))
    (array : ∀ element, motive element → motive (.array element))
    (map : ∀ key value, motive key → motive value → motive (.map key value))
    (function : ∀ params result, (∀ p ∈ params, motive p) → motive result →
      motive (.function params result))
    (object : ∀ cls, motive (.object cls)) (t : Ty) : motive t :=
  @Ty.rec motive (fun ts => ∀ t ∈ ts, motive t) scalar array map function object
    (List.forall_mem_nil _) (fun _ _ hd tl => List.forall_mem_cons.mpr ⟨hd, tl⟩) t

/-- Induction over type expressions. -/
@[induction_eliminator]
theorem TypeExpr.ind {motive : TypeExpr → Prop}
    (name : ∀ name span, motive (.name name span))
    (array : ∀ element, motive element → motive (.array element))
    (map : ∀ key value, motive key → motive value → motive (.map key value))
    (function : ∀ params result, (∀ p ∈ params, motive p) → motive result →
      motive (.function params result)) (a : TypeExpr) : motive a :=
  @TypeExpr.rec motive (fun ts => ∀ t ∈ ts, motive t) name array map function
    (List.forall_mem_nil _) (fun _ _ hd tl => List.forall_mem_cons.mpr ⟨hd, tl⟩) a

/-- Induction over expressions. -/
@[induction_eliminator]
theorem Expr.ind {motive : Expr → Prop}
    (literal : ∀ value span, motive (.literal value span))
    (symbol : ∀ name span, motive (.symbol name span))
    (self : ∀ span, motive (.self span))
    (binary : ∀ op left right span, motive left → motive right →
      motive (.binary op left right span))
    (unary : ∀ op operand span, motive operand → motive (.unary op operand span))
    (conditional : ∀ test consequent alternate span, motive test → motive consequent →
      motive alternate → motive (.conditional test consequent alternate span))
    (call : ∀ callee args span, motive callee → (∀ e ∈ args, motive e) →
      motive (.call callee args span))
    (subscript : ∀ array index span, motive array → motive index →
      motive (.subscript array index span))
    (array : ∀ elements span, (∀ e ∈ elements, motive e) → motive (.array elements span))
    (map : ∀ entries span, (∀ p ∈ entries, motive p.1 ∧ motive p.2) → motive (.map entries span))
    (member : ∀ object name span, motive object → motive (.member object name span))
    (methodCall : ∀ object name args span, motive object → (∀ e ∈ args, motive e) →
      motive (.methodCall object name args span))
    (construct : ∀ className args span, (∀ e ∈ args, motive e) →
      motive (.construct className args span)) (e : Expr) : motive e :=
  @Expr.rec motive (fun es => ∀ e ∈ es, motive e) (fun ps => ∀ p ∈ ps, motive p.1 ∧ motive p.2)
    (fun p => motive p.1 ∧ motive p.2) literal symbol self binary unary conditional call subscript
    array map member methodCall construct
    (List.forall_mem_nil _) (fun _ _ hd tl => List.forall_mem_cons.mpr ⟨hd, tl⟩)
    (List.forall_mem_nil _) (fun _ _ hd tl => List.forall_mem_cons.mpr ⟨hd, tl⟩)
    (fun _ _ hk hv => ⟨hk, hv⟩) e

/-- Induction over statements. -/
@[induction_eliminator]
theorem Stmt.ind {motive : Stmt → Prop}
    (var : ∀ name typeExpr value span, motive (.var name typeExpr value span))
    (function : ∀ decl, (∀ x ∈ decl.body.body, motive x) → motive (.function decl))
    (classDecl : ∀ decl, (∀ x ∈ decl.body.body, motive x) →
      (∀ f ∈ decl.methods, ∀ x ∈ f.body.body, motive x) → motive (.classDecl decl))
    (field : ∀ typeExpr name value span, motive (.field typeExpr name value span))
    (assign : ∀ target value span, motive (.assign target value span))
    (print : ∀ value span, motive (.print value span))
    (expr : ∀ value span, motive (.expr value span))
    (ifElse : ∀ branches alternate span, (∀ b ∈ branches, ∀ x ∈ b.body.body, motive x) →
      (∀ b ∈ alternate, ∀ x ∈ b.body, motive x) → motive (.ifElse branches alternate span))
    (whileLoop : ∀ test body span, (∀ x ∈ body.body, motive x) →
      motive (.whileLoop test body span))
    (forLoop : ∀ name start stop body span, (∀ x ∈ body.body, motive x) →
      motive (.forLoop name start stop body span))
    (forEach : ∀ name typeExpr iterable body span, (∀ x ∈ body.body, motive x) →
      motive (.forEach name typeExpr iterable body span))
    (breakLoop : ∀ span, motive (.breakLoop span))
    (ret : ∀ value span, motive (.ret value span)) (x : Stmt) : motive x :=
  @Stmt.rec motive (fun f => ∀ x ∈ f.body.body, motive x)
    (fun c => (∀ x ∈ c.body.body, motive x) ∧ ∀ f ∈ c.methods, ∀ x ∈ f.body.body, motive x)
    (fun bs => ∀ b ∈ bs, ∀ x ∈ b.body.body, motive x) (fun a => ∀ b ∈ a, ∀ x ∈ b.body, motive x)
    (fun b => ∀ x ∈ b.body, motive x) (fun fs => ∀ f ∈ fs, ∀ x ∈ f.body.body, motive x)
    (fun b => ∀ x ∈ b.body.body, motive x) (fun xs => ∀ x ∈ xs, motive x)
    var function (fun decl h => classDecl decl h.1 h.2) field assign print expr ifElse whileLoop
    forLoop forEach breakLoop ret
    (fun _ _ _ _ _ h => h) (fun _ _ _ _ _ _ h hs => ⟨h, hs⟩)
    (List.forall_mem_nil _) (fun _ _ hd tl => List.forall_mem_cons.mpr ⟨hd, tl⟩)
    (fun _ h => nomatch h) (fun _ h _ hb => Option.some.inj hb ▸ h) (fun _ _ h => h)
    (List.forall_mem_nil _) (fun _ _ hd tl => List.forall_mem_cons.mpr ⟨hd, tl⟩) (fun _ _ h => h)
    (List.forall_mem_nil _) (fun _ _ hd tl => List.forall_mem_cons.mpr ⟨hd, tl⟩) x

/-- Induction over checked statements. -/
@[induction_eliminator]
theorem Checked.Stmt.ind {motive : Checked.Stmt → Prop}
    (var : ∀ entity ty value span, motive (.var entity ty value span))
    (function : ∀ decl, (∀ x ∈ decl.body.body, motive x) → motive (.function decl))
    (classDecl : ∀ decl, (∀ x ∈ decl.body.body, motive x) →
      (∀ f ∈ decl.methods, ∀ x ∈ f.body.body, motive x) → motive (.classDecl decl))
    (field : ∀ entity ty value span, motive (.field entity ty value span))
    (assign : ∀ target value span, motive (.assign target value span))
    (print : ∀ value span, motive (.print value span))
    (expr : ∀ value, motive (.expr value))
    (ifElse : ∀ branches alternate span, (∀ b ∈ branches, ∀ x ∈ b.body.body, motive x) →
      (∀ b ∈ alternate, ∀ x ∈ b.body, motive x) → motive (.ifElse branches alternate span))
    (whileLoop : ∀ test body span, (∀ x ∈ body.body, motive x) →
      motive (.whileLoop test body span))
    (forLoop : ∀ entity start stop body span, (∀ x ∈ body.body, motive x) →
      motive (.forLoop entity start stop body span))
    (forEach : ∀ entity iterable body span, (∀ x ∈ body.body, motive x) →
      motive (.forEach entity iterable body span))
    (breakLoop : ∀ span, motive (.breakLoop span))
    (ret : ∀ value span, motive (.ret value span)) (x : Checked.Stmt) : motive x :=
  @Checked.Stmt.rec motive (fun f => ∀ x ∈ f.body.body, motive x)
    (fun c => (∀ x ∈ c.body.body, motive x) ∧ ∀ f ∈ c.methods, ∀ x ∈ f.body.body, motive x)
    (fun bs => ∀ b ∈ bs, ∀ x ∈ b.body.body, motive x) (fun a => ∀ b ∈ a, ∀ x ∈ b.body, motive x)
    (fun b => ∀ x ∈ b.body, motive x) (fun fs => ∀ f ∈ fs, ∀ x ∈ f.body.body, motive x)
    (fun b => ∀ x ∈ b.body.body, motive x) (fun xs => ∀ x ∈ xs, motive x)
    var function (fun decl h => classDecl decl h.1 h.2) field assign print expr ifElse whileLoop
    forLoop forEach breakLoop ret
    (fun _ _ _ _ _ h => h) (fun _ _ _ _ _ _ _ _ h hs => ⟨h, hs⟩)
    (List.forall_mem_nil _) (fun _ _ hd tl => List.forall_mem_cons.mpr ⟨hd, tl⟩)
    (fun _ h => nomatch h) (fun _ h _ hb => Option.some.inj hb ▸ h) (fun _ _ h => h)
    (List.forall_mem_nil _) (fun _ _ hd tl => List.forall_mem_cons.mpr ⟨hd, tl⟩) (fun _ _ h => h)
    (List.forall_mem_nil _) (fun _ _ hd tl => List.forall_mem_cons.mpr ⟨hd, tl⟩) x

end Shipshape
