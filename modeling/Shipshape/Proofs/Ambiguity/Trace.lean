import Shipshape.Proofs.Run.Arises
import Shipshape.Proofs.Run.Trace

/-!
# Where a complaint about ambiguity comes from

The check of a program says that a type is ambiguous only about a declaration whose type is
inferred. Of all that a statement asks, nothing else says so.

* `Shipshape.Stmt.inferredFrom?` – the expression that a statement infers a type from;
* `Shipshape.Stmt.Asks.ambiguous` – what a statement asks is answered with ambiguity only if the
  type of its own declaration is ambiguous;
* `Shipshape.checkProgram_ambiguous` – so where a program is refused for ambiguity, the check comes
  to a statement whose own declaration is what is complained about.
-/

namespace Shipshape

variable {s t : State} {id : ScopeId}

/-! ### What says nothing about ambiguity -/

theorem Rule.allows_clear (e : Checked.Expr) : Allows (fun d => d.cause.isAmbiguity = false) e :=
  fun _ h => Cause.isAmbiguity_of_isOperand h

/-- **An expression is not complained about for ambiguity.** -/
theorem checkExpr_clear (id : ScopeId) (e : Expr) :
    (checkExpr id e).Only fun d => d.cause.isAmbiguity = false :=
  (checkExpr_answers (fun _ _ _ h => h) id).mono (fun _ hd => hd) fun _ _ => trivial

/-! ### One statement -/

/-- **The expression that a statement infers a type from**: the value of a variable or the
iterable of a loop for which no type is written. -/
def Stmt.inferredFrom? : Stmt → Option Expr
  | .var _ none value _ => some value
  | .forEach _ none iterable _ _ => some iterable
  | .var _ (some _) _ _ | .forEach _ (some _) _ _ _ | .function _ | .classDecl _ | .field _ _ _ _
  | .assign _ _ _ | .print _ _ | .expr _ _ | .ifElse _ _ _ | .whileLoop _ _ _
  | .forLoop _ _ _ _ _ | .breakLoop _ | .ret _ _ => none

/-- **The type of what a statement declares is ambiguous**, and the diagnostic says so: the
statement infers it from an expression whose type is open. -/
def Stmt.Ambiguous (x : Stmt) (id : ScopeId) (s : State) (d : Diagnostic) : Prop :=
  ∃ e e' t, x.inferredFrom? = some e ∧ checkExpr id e s = .ok e' t ∧
    e'.ty.containsAny = true ∧ d = Rule.ambiguous e'.ty e'.span

/-- A variable without a written type. -/
theorem Rule.inferred_ambiguous (value : Checked.Expr) :
    Only (inferred value) fun d =>
      value.ty.containsAny = true ∧ d = ambiguous value.ty value.span := by
  rw [inferred]
  split
  · next hopen => exact .error ⟨hopen, rfl⟩
  · exact .ok _

/-- A loop variable without a written type: if that of the elements is open, then so is that of
all that is run over, and the latter is what is looked at. -/
theorem Rule.inferredElement_ambiguous {iterable : Checked.Expr} {element : Ty}
    (h : iterated iterable = .ok element) :
    Only (inferredElement iterable element) fun d =>
      iterable.ty.containsAny = true ∧ d = ambiguous iterable.ty iterable.span := by
  rw [inferredElement]
  split
  · next hopen =>
    refine .error ⟨?_, rfl⟩
    rcases iterated_eq_ok_iff.mp h with hty | ⟨key, hty⟩
    · rw [hty, Ty.containsAny, hopen]
    · rw [hty, Ty.containsAny, hopen, Bool.or_true]
  · exact .ok _

/-- **What a statement asks is answered with ambiguity** only if the type of its own declaration is
ambiguous. -/
theorem Stmt.Asks.ambiguous {x : Stmt} {q : Query} (h : x.Asks id s q t) :
    q.Traces id t fun d => d.cause.isAmbiguity = true → x.Ambiguous id s d := by
  have hclear {d : Diagnostic} (hd : d.cause.isAmbiguity = false) :
      d.cause.isAmbiguity = true → x.Ambiguous id s d := by
    intro hambiguous
    rw [hd] at hambiguous
    cases hambiguous
  cases h with
  | var | field | assigned | target | print | expr | branch | whileLoop | start | stop | iterable
  | ret => exact fun d u hrun => hclear ((checkExpr_clear id _).refused hrun)
  | declared | fieldType | assign | returned =>
    exact fun d hd => hclear (Rule.assignable_only (Rule.allows_clear _) _ d hd)
  | declaredElement =>
    exact fun d hd => hclear (Rule.declaredElement_only (Rule.allows_clear _) _ _ d hd)
  | inferred name span hvalue =>
    exact fun d hd _ => ⟨_, _, _, rfl, hvalue, Rule.inferred_ambiguous _ d hd⟩
  | inferredElement name body span hiterable helement =>
    exact fun d hd _ => ⟨_, _, _, rfl, hiterable, Rule.inferredElement_ambiguous helement d hd⟩

/-! ### All statements -/

variable {limit : Nat} {p : Program} {xs : List Stmt}

/-- **The statements that a check comes to** are statements of the program. -/
theorem Program.Comes.hasStmt (h : p.Comes limit id xs s) : ∃ path, ∀ x ∈ xs, p.HasStmt path x := by
  induction h with
  | start => exact ⟨[], fun x hx => .top hx⟩
  | next _ _ ih =>
    obtain ⟨path, hxs⟩ := ih
    exact ⟨path, fun x hx => hxs x (List.mem_cons_of_mem _ hx)⟩
  | enter _ _ hway _ ih =>
    obtain ⟨path, hxs⟩ := ih
    obtain ⟨b, hb, rfl⟩ := hway.exists_body
    exact ⟨_, fun y hy => .inner (hxs _ List.mem_cons_self) hb hy⟩

/-- **The check of a program comes to a statement whose type is ambiguous**, and the diagnostic
says so. -/
def Program.ComesToAmbiguity (p : Program) (limit : Nat) (d : Diagnostic) : Prop :=
  ∃ id x xs s, p.Comes limit id (x :: xs) s ∧ s.depth < s.limit ∧ x.Ambiguous id s.deeper d

/-- **A complaint about ambiguity is about a declaration that the check comes to.** -/
theorem checkProgram_ambiguous {d : Diagnostic} (h : checkProgram limit p = .error (.refused d))
    (hambiguous : d.cause.isAmbiguity = true) : p.ComesToAmbiguity limit d := by
  refine checkProgram_traces (P := fun d => d.cause.isAmbiguity = true → p.ComesToAmbiguity limit d)
    (fun span cause _ hcause h => ?_) (fun hcomes hroom q t hasks => ?_) h hambiguous
  · have hfalse : cause.isAmbiguity = true := h
    rw [hcause] at hfalse
    cases hfalse
  · exact hasks.ambiguous.mono fun d hd hambiguous => ⟨_, _, _, _, hcomes, hroom, hd hambiguous⟩

end Shipshape
