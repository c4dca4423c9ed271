import Shipshape.Proofs.Lexical.Expr
import Shipshape.Proofs.Nesting.Computation

/-!
# Expressions change nothing

The check of an expression only looks at the state, and so does that of a type expression. What it
does to the depth on its way it undoes, whether it succeeds or fails.

* `Shipshape.Check.Keeps` – a computation that leaves the state as it is;
* `Shipshape.checkExpr_keeps`, `Shipshape.convert_keeps` – the check of an expression or of a type
  expression does, in whatever state and scope;
* `Shipshape.State.Checks` – an expression is accepted, in a state that stays as it is.

Nothing is asked of the scopes here. Where the scope at hand is missing, the check fails, and the
state stays as it is all the same.
-/

namespace Shipshape

variable {α β : Type} {s t : State} {id : ScopeId}

namespace Check

/-- **A computation that leaves the state as it is**, whether it succeeds or fails. -/
def Keeps (m : Check α) : Prop := ∀ s, after m s = s

namespace Keeps

/-- After a success the state is the old one. -/
theorem eq_of_ok {m : Check α} (h : Keeps m) {a : α} (hrun : m s = .ok a t) : t = s := by
  have hafter := h s
  rw [after, hrun] at hafter
  exact hafter

theorem pure (a : α) : Keeps (pure a) := fun _ => rfl

theorem bind {m : Check α} {f : α → Check β} (hm : Keeps m) (hf : ∀ a, Keeps (f a)) :
    Keeps (m >>= f) := by
  intro s
  have hfirst := hm s
  rw [after] at hfirst
  rw [after_bind]
  cases hrun : m s with
  | ok a t =>
    rw [hrun] at hfirst
    exact (hf a t).trans hfirst
  | error failure t =>
    rw [hrun] at hfirst
    exact hfirst

/-- One level deeper and back again. -/
theorem nested {m : Check α} (span : Span) (h : Keeps m) : Keeps (nested span m) := by
  intro s
  have hm := h s.deeper
  rw [after] at hm
  rw [after, Check.nested]
  by_cases hroom : s.depth < s.limit
  · rw [if_pos hroom]
    cases hrun : m s.deeper with
    | ok a t =>
      rw [hrun] at hm
      rw [show m { s with depth := s.depth + 1 } = .ok a t from hrun, show t = s.deeper from hm]
      rfl
    | error failure t =>
      rw [hrun] at hm
      rw [show m { s with depth := s.depth + 1 } = .error failure t from hrun,
        show t = s.deeper from hm]
      rfl
  · rw [if_neg hroom]

theorem ofRule (result : Except Diagnostic α) : Keeps (ofRule result) := by
  intro s
  cases result <;> rfl

theorem require (value : Option α) (cause : Cause) (span : Span) :
    Keeps (require value cause span) := by
  intro s
  cases value <;> rfl

theorem scope (id : ScopeId) : Keeps (scope id) := by
  intro s
  rw [after, Check.scope]
  cases s.arena.get id <;> rfl

theorem resolve (id : ScopeId) (name : String) (span : Span) : Keeps (resolve id name span) := by
  intro s
  rw [after, Check.resolve]
  cases s.arena.resolve id name span <;> rfl

theorem classInfo (cls : ClassRef) : Keeps (classInfo cls) := fun _ => rfl

end Keeps

end Check

open Check (Keeps)

/-! ### Expressions -/

theorem checkExprs_keeps {es : List Expr} (hes : ∀ e ∈ es, Keeps (checkExpr id e)) :
    Keeps (checkExprs id es) := by
  induction es with
  | nil =>
    rw [checkExprs]
    exact .pure _
  | cons e es ih =>
    obtain ⟨he, hes⟩ := List.forall_mem_cons.mp hes
    rw [checkExprs]
    exact .bind he fun _ => .bind (ih hes) fun _ => .pure _

theorem passArguments_keeps {es : List Expr} (hes : ∀ e ∈ es, Keeps (checkExpr id e))
    (signature : Signature) (span : Span) :
    Keeps (passArguments signature span (checkExprs id es)) :=
  .bind (checkExprs_keeps hes) fun _ => .bind (.ofRule _) fun _ => .pure _

theorem checkEntries_keeps {entries : List (Expr × Expr)}
    (hentries : ∀ entry ∈ entries, Keeps (checkExpr id entry.1) ∧ Keeps (checkExpr id entry.2))
    (key value : Ty) : Keeps (checkEntries id key value entries) := by
  induction entries generalizing key value with
  | nil =>
    rw [checkEntries]
    exact .pure _
  | cons entry entries ih =>
    obtain ⟨k, v⟩ := entry
    obtain ⟨⟨hk, hv⟩, hentries⟩ := List.forall_mem_cons.mp hentries
    rw [checkEntries]
    exact .bind hk fun _ => .bind hv fun _ => .bind (.ofRule _) fun key' =>
      .bind (.ofRule _) fun value' => .bind (ih hentries key' value') fun _ => .pure _

/-- **The check of an expression leaves the state as it is.** -/
theorem checkExpr_keeps (id : ScopeId) (e : Expr) : Keeps (checkExpr id e) := by
  induction e with
  | literal value span =>
    rw [checkExpr]
    exact .nested span (.pure _)
  | symbol name span =>
    rw [checkExpr]
    exact .nested span (.bind (.resolve id name span) fun _ =>
      .bind (.require _ _ _) fun _ => .pure _)
  | self span =>
    rw [checkExpr]
    exact .nested span (.bind (.scope id) fun _ => .bind (.require _ _ _) fun _ => .pure _)
  | binary op left right span ihleft ihright =>
    rw [checkExpr]
    exact .nested span (.bind ihleft fun _ => .bind ihright fun _ => .bind (.ofRule _) fun _ =>
      .pure _)
  | unary op operand span ih =>
    rw [checkExpr]
    exact .nested span (.bind ih fun _ => .bind (.ofRule _) fun _ => .pure _)
  | conditional test consequent alternate span ihtest ihconsequent ihalternate =>
    rw [checkExpr]
    exact .nested span (.bind ihtest fun _ => .bind (.ofRule _) fun _ =>
      .bind ihconsequent fun _ => .bind ihalternate fun _ => .bind (.ofRule _) fun _ => .pure _)
  | call callee args span ihcallee ihargs =>
    rw [checkExpr]
    exact .nested span (.bind ihcallee fun _ => .bind (.ofRule _) fun signature =>
      .bind (passArguments_keeps ihargs signature span) fun _ => .pure _)
  | subscript array index span iharray ihindex =>
    rw [checkExpr]
    exact .nested span (.bind iharray fun _ => .bind ihindex fun _ => .bind (.ofRule _) fun _ =>
      .pure _)
  | array elements span ih =>
    rw [checkExpr]
    exact .nested span (.bind (checkExprs_keeps ih) fun _ => .bind (.ofRule _) fun _ => .pure _)
  | map entries span ih =>
    rw [checkExpr]
    exact .nested span (.bind (checkEntries_keeps ih .any .any) fun _ => .pure _)
  | member object name span ih =>
    rw [checkExpr]
    exact .nested span (.bind ih fun _ => .bind (.ofRule _) fun cls => .bind (.classInfo cls)
      fun _ => .bind (.require _ _ _) fun _ => .pure _)
  | methodCall object name args span ihobject ihargs =>
    rw [checkExpr]
    exact .nested span (.bind ihobject fun _ => .bind (.ofRule _) fun cls => .bind (.classInfo cls)
      fun _ => .bind (.require _ _ _) fun signature =>
        .bind (passArguments_keeps ihargs signature span) fun _ => .pure _)
  | construct className args span ihargs =>
    rw [checkExpr]
    exact .nested span (.bind (.resolve id className span) fun _ =>
      .bind (.require _ _ _) fun cls => .bind (.classInfo cls) fun info =>
        .bind (passArguments_keeps ihargs info.ctor span) fun _ => .pure _)

/-- The expression is accepted in the scope, and becomes `e'`. -/
def State.Checks (s : State) (id : ScopeId) (e : Expr) (e' : Checked.Expr) : Prop :=
  checkExpr id e s = .ok e' s

theorem State.checks_of_ok {e : Expr} {e' : Checked.Expr} (h : checkExpr id e s = .ok e' t) :
    s.Checks id e e' ∧ t = s := by
  obtain rfl := (checkExpr_keeps id e).eq_of_ok h
  exact ⟨h, rfl⟩

/-! ### Type expressions -/

theorem convertList_keeps {as : List TypeExpr} (has : ∀ a ∈ as, Keeps (convert id a)) :
    Keeps (convertList id as) := by
  induction as with
  | nil =>
    rw [convertList]
    exact .pure _
  | cons a as ih =>
    obtain ⟨ha, has⟩ := List.forall_mem_cons.mp has
    rw [convertList]
    exact .bind ha fun _ => .bind (ih has) fun _ => .pure _

/-- **The check of a type expression leaves the state as it is.** -/
theorem convert_keeps (id : ScopeId) (a : TypeExpr) : Keeps (convert id a) := by
  induction a with
  | name name span =>
    rw [convert]
    exact .bind (.resolve id name span) fun _ => .require _ _ _
  | array element ih =>
    rw [convert]
    exact .bind ih fun _ => .pure _
  | map key value ihkey ihvalue =>
    rw [convert]
    exact .bind ihkey fun _ => .bind ihvalue fun _ => .pure _
  | function params result ihparams ihresult =>
    rw [convert]
    exact .bind (convertList_keeps ihparams) fun _ => .bind ihresult fun _ => .pure _

end Shipshape
