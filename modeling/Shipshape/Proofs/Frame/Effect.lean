import Shipshape.Proofs.Frame.Stmt
import Shipshape.Proofs.Nesting.Tree

/-!
# The effect of a check on the scopes and classes around it

A checker may be used again after a statement, and in any of its scopes. What it then finds is
described here, for a state that need not come from a check: its scopes have to be well-formed,
and the scope at hand may lie below others that have nothing to do with it.

* `Shipshape.checkStmt_stack_discipline` – a statement that succeeds leaves no scope
  behind, and adds at most one name to the scope at hand; an expression changes nothing;
* `Shipshape.checkStmt_function_error` – where a function fails.

The class at hand may have gained fields, and no other class has changed.
-/

namespace Shipshape

variable {s t : State} {id : ScopeId}

/-! ### Success -/

/-- **A statement that succeeds** leaves as many scopes as there were, all of them
unchanged but the one at hand, which gains the name that the statement declares, if it
declares one. Of the classes that were there, only the class at hand may have gained
members, which are fields. **An expression** changes nothing, whether it succeeds or
fails. -/
theorem checkStmt_stack_discipline (hs : s.arena.WellFormed) (hid : id < s.arena.size) :
    (∀ x y t, checkStmt id x s = .ok y t →
      t.arena.size = s.arena.size ∧
      (∀ i, i ≠ id → t.arena.scopes[i]? = s.arena.scopes[i]?) ∧
      (∃ scope, s.arena.scopes[id]? = some scope ∧
        (x.declared? = none → t.arena.scopes[id]? = some scope) ∧
        ∀ name, x.declared? = some name → ∃ entity, y.declared? = some entity ∧
          scope.lookup name = none ∧ t.arena.scopes[id]? = some (scope.bind name entity)) ∧
      ∃ fields, s.classes.Gains (s.arena.cls? id) fields [] t.classes) ∧
    ∀ e, Check.after (checkExpr id e) s = s := by
  have hlive : s.arena.Live id := ⟨hs, hid⟩
  refine ⟨fun x y t hrun => ?_, fun e => ?_⟩
  · obtain ⟨hbinds, fields, hgains, -⟩ := (checkStmt_ends x hlive).ok y t hrun
    have hscope : s.arena.scopes[id]? = some s.arena.scopes[id] := List.getElem?_eq_getElem hid
    obtain ⟨names, harena⟩ := hbinds.exists_names
    refine ⟨?_, fun i hi => ?_, ⟨_, hscope, fun hnone => ?_, fun name hname => ?_⟩, fields, hgains⟩
    · rw [harena, Arena.size_extend]
    · rw [harena, Arena.getElem?_extend_of_ne _ _ hi]
    · rw [Stmt.Binds, hnone] at hbinds
      rw [hbinds, hscope]
    · rw [Stmt.Binds, hname] at hbinds
      obtain ⟨entity, hentity, hfree, hextend⟩ := hbinds
      refine ⟨entity, hentity, hfree _ hscope, ?_⟩
      rw [hextend, Arena.getElem?_extend_self hscope]
      rfl
  · obtain ⟨env, henv⟩ := hlive.exists_mirrors
    have hreads : checkExpr id e s = Check.ofRule (Lexical.expr env s.classes e) s :=
      checkExpr_reads e henv
    rw [Check.after, hreads]
    cases Lexical.expr env s.classes e <;> rfl

/-- Three scopes: the outermost one, one in a class, and one in a loop that has nothing to
do with it. -/
def harbour : State where
  arena := (Arena.initial.push (Scope.root.child 0 { cls := some ⟨0, "Ship"⟩ })).push
    (Scope.root.child 0 { inLoop := some true })
  classes := ⟨[.new "Ship"]⟩
  nextEntity := builtInEntities.length
  depth := 0
  limit := defaultLimit

theorem harbour_wellFormed : harbour.arena.WellFormed :=
  (Arena.wellFormed_initial.push rfl (by decide)).push rfl (by decide)

/-- A function that declares a field, and then a variable with the given value. -/
def loading (value : Expr) : Stmt :=
  .function ⟨"load", [], none, ⟨[.field (.named "int") "cargo" (.literal (.int 0) .null) .null,
    .var "crate" none value .null], .null⟩, .null⟩

/-- In the scope of the class the function succeeds, and only its name is declared there. -/
theorem harbour_loading : harbour.arena.WellFormed ∧ 1 < harbour.arena.size ∧
    ∃ y t, checkStmt 1 (loading (.literal (.int 1) .null)) harbour = .ok y t ∧
      t.arena.size = harbour.arena.size ∧
      (∀ i, i ≠ 1 → t.arena.scopes[i]? = harbour.arena.scopes[i]?) ∧
      (∃ scope entity, harbour.arena.scopes[1]? = some scope ∧ y.declared? = some entity ∧
        scope.lookup "load" = none ∧ t.arena.scopes[1]? = some (scope.bind "load" entity)) ∧
      ∃ fields, harbour.classes.Gains (some ⟨0, "Ship"⟩) fields [] t.classes := by
  refine ⟨harbour_wellFormed, by decide, ?_⟩
  have haccepted : (match checkStmt 1 (loading (.literal (.int 1) .null)) harbour with
      | .ok _ _ => true
      | .error _ _ => false) = true := by decide +kernel
  split at haccepted
  · next y t hrun =>
    obtain ⟨hsize, hothers, ⟨scope, hscope, -, hbinds⟩, hgains⟩ :=
      (checkStmt_stack_discipline harbour_wellFormed (by decide)).1 _ y t hrun
    obtain ⟨entity, hentity, hfree, hbound⟩ := hbinds "load" rfl
    exact ⟨y, t, hrun, hsize, hothers, ⟨scope, entity, hscope, hentity, hfree, hbound⟩, hgains⟩
  · cases haccepted

/-! ### Computations that fail -/

namespace Check

variable {α β : Type} {failure : Failure}

/-- What holds however a computation ends holds of the state after it. -/
theorem Ends.after {m : Check α} {P : Arena → ClassTable → Prop}
    (h : Ends m s (fun _ => P) fun _ => P) : P (after m s).arena (after m s).classes := by
  rw [Check.after]
  cases hrun : m s with
  | ok a t => exact h.ok a t hrun
  | error failure t => exact h.error failure t hrun

/-- After a success the rest goes on with its value, in the state after it. -/
theorem bind_eq_of_left {m : Check α} {a : α} {u : State} (h : m s = .ok a u) (f : α → Check β) :
    (m >>= f) s = f a u := by
  simp [Bind.bind, EStateM.bind, h]

/-- One computation after another succeeds if both of them do. -/
theorem bind_eq_ok {m : Check α} {f : α → Check β} {b : β} (h : (m >>= f) s = .ok b t) :
    ∃ a u, m s = .ok a u ∧ f a u = .ok b t := by
  simp only [Bind.bind, EStateM.bind] at h
  cases hm : m s with
  | ok a u =>
    rw [hm] at h
    exact ⟨a, u, rfl, h⟩
  | error e u =>
    rw [hm] at h
    cases h

/-- One computation after another fails where one of them does. -/
theorem bind_eq_error {m : Check α} {f : α → Check β} (h : (m >>= f) s = .error failure t) :
    m s = .error failure t ∨ ∃ a u, m s = .ok a u ∧ f a u = .error failure t := by
  simp only [Bind.bind, EStateM.bind] at h
  cases hm : m s with
  | ok a u =>
    rw [hm] at h
    exact .inr ⟨a, u, rfl, h⟩
  | error e u =>
    rw [hm] at h
    cases h
    exact .inl rfl

theorem bind_eq_error_of_left {m : Check α} (h : m s = .error failure t) (f : α → Check β) :
    (m >>= f) s = .error failure t := by
  simp [Bind.bind, EStateM.bind, h]

/-- A computation one level deeper fails at the limit, or where it fails by itself. -/
theorem nested_eq_error {m : Check α} {span : Span} (h : nested span m s = .error failure t) :
    (∀ n : Check α, nested span n s = .error failure t) ∧ t = s ∨
    ∃ u, m s.deeper = .error failure u ∧ t.arena = u.arena ∧
      ∀ n : Check α, n s.deeper = .error failure u → nested span n s = .error failure t := by
  by_cases hlt : s.depth < s.limit
  · rw [nested, if_pos hlt] at h
    cases hm : m { s with depth := s.depth + 1 } with
    | ok a u =>
      rw [hm] at h
      cases h
    | error e u =>
      rw [hm] at h
      cases h
      refine .inr ⟨u, hm, rfl, fun n hn => ?_⟩
      rw [nested, if_pos hlt, show n { s with depth := s.depth + 1 } = _ from hn]
  · rw [nested, if_neg hlt] at h
    cases h
    refine .inl ⟨fun n => ?_, rfl⟩
    rw [nested, if_neg hlt]

end Check

/-- **Where a function fails.** Either its body is not reached, and the failure is the same
whatever the body; or the failure is that of the body, and the name of the function has
been declared. -/
theorem checkStmt_function_error {decl : FnDecl Stmt} (h : s.arena.Live id) {failure : Failure}
    (hrun : checkStmt id (.function decl) s = .error failure t) :
    (s.arena.Grows id [] t.arena ∧
      ∀ body, checkStmt id (.function { decl with body }) s = .error failure t) ∨
    ∃ entity inner u v, u.arena = (s.arena.extend id [(decl.name, entity)]).push inner ∧
      checkBlock s.arena.size decl.body u = .error failure v ∧ v.arena = t.arena ∧
      s.arena.Free id decl.name ∧ s.arena.Grows id [(decl.name, entity)] t.arena := by
  obtain ⟨name, params, result, body, span⟩ := decl
  have hhead : Check.Ends (functionHead none id name params result span) s.deeper _ _ :=
    functionHead_ends (s := s.deeper) h (by simp) name params result span
  rw [checkStmt] at hrun
  rcases Check.nested_eq_error hrun with ⟨hany, rfl⟩ | ⟨u, hrun, harena, hany⟩
  · refine .inl ⟨.refl h.wellFormed id, fun body => ?_⟩
    rw [checkStmt]
    exact hany _
  rw [checkFunction_eq] at hrun
  rcases Check.bind_eq_error hrun with hrun | ⟨f, v, -, hpure⟩
  · rcases Check.bind_eq_error hrun with hrun | ⟨r, v, hr, hrun⟩
    · -- The failure comes before the body.
      obtain ⟨methods, -, hleaves⟩ := hhead.error _ _ hrun
      refine .inl ⟨harena ▸ hleaves.scopes, fun body => ?_⟩
      rw [checkStmt, checkFunction_eq]
      exact hany _ (Check.bind_eq_error_of_left (Check.bind_eq_error_of_left hrun _) _)
    · obtain ⟨hscopes, methods, -, hadds⟩ := hhead.ok _ _ hr
      rcases Check.bind_eq_error hrun with hbody | ⟨b, w, -, hclose⟩
      · -- The failure is that of the body, which is checked in the scope just opened.
        have hblock : Check.Ends (checkBlock r.1 body) v _ _ :=
          checkBlock_ends (fun x _ => checkStmt_ends x) (hscopes.live h)
        obtain ⟨names, hleaves⟩ := hblock.error _ _ hbody
        have hgrows := (hscopes.body_leaves h hadds hleaves).scopes
        rw [hscopes.inner] at hbody
        obtain ⟨inner, -, -, hinner⟩ := hscopes.scopes
        exact .inr ⟨r.2.1, inner, v, u, hinner, hbody, harena.symm, hscopes.free, harena ▸ hgrows⟩
      · cases hclose
  · cases hpure

end Shipshape
