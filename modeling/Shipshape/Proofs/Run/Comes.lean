import Shipshape.Proofs.Frame.Effect
import Shipshape.Proofs.Tree.Walk

/-!
# Where a check comes to

A check goes through statements in order, and on its way into the blocks of a statement. It comes
to a place when all that stands before was accepted, whether or not the rest is.

* `Shipshape.Stmt.Way` – what the check of a statement does before it comes to a block of
  the statement;
* `Shipshape.Check.Comes` – the check of some statements comes to others, in a scope and in a
  state;
* `Shipshape.Program.Comes` – the check of a program does;
* `Shipshape.State.Arises` – a state in which the check comes to a statement, or to an
  expression of one;
* `Shipshape.Program.Comes.checkProgram_eq_error` – if the statements that the check comes to
  are refused, then so is the program, for the same reason.

The way to a block is spelled out once more here, apart from the check itself, because the
check of a statement goes past its blocks in one computation. `Shipshape.Stmt.Way.leads`
says that the two are the same: the check of a statement goes the way to the block first.
-/

namespace Shipshape

/-! ### The way to a block -/

/-- **The part of a loop before its body**: the scope of the body is open and has the loop
variable. -/
def loopHead (id : ScopeId) (name : String) (ty : Ty) (span : Span) : Check ScopeId := do
  let inner ← Check.openScope id { inLoop := some true }
  let entity ← Check.newEntity (.var name ty)
  Check.declare inner name entity span
  return inner

/-- **The part of a class before its constructor**: the class is made, its scope is open, and
what its constructor takes is known. -/
def classHead (id : ScopeId) (name : String) (params : List Param) :
    Check (ClassRef × ScopeId × List Ty × Entity) := do
  let cls ← Check.newClass name
  let inside ← Check.openScope id { cls := some cls }
  let tys ← convertParams inside params
  Check.setCtor cls ⟨tys, .none⟩
  let ctor ← Check.newEntity (.function name ⟨tys, .none⟩)
  return (cls, inside, tys, ctor)

/-- **The part of a constructor before its body**: the scope of the body is open and has the
parameters. -/
def ctorHead (inside : ScopeId) (params : List Param) (tys : List Ty) (ctor : Entity) :
    Check ScopeId := do
  let inner ← Check.openScope inside { inLoop := some false, function := some ctor }
  let _ ← declareParams inner params tys
  return inner

/-- The constructor of a class, in its own scope inside that of the class. -/
def checkCtor (inside : ScopeId) (params : List Param) (tys : List Ty) (ctor : Entity)
    (body : Block Stmt) : Check (List Entity × Block Checked.Stmt) :=
  Check.withChild inside { inLoop := some false, function := some ctor } fun inner => do
    let params ← declareParams inner params tys
    let body ← checkBlock inner body
    return (params, body)

/-- A class is checked up to its constructor, then its constructor and its methods are, and
then it is declared. -/
theorem checkClass_eq (id : ScopeId) (name : String) (params : List Param) (body : Block Stmt)
    (ctorSpan : Span) (methods : List (FnDecl Stmt)) (span : Span) :
    checkClass id ⟨name, params, body, ctorSpan, methods, span⟩ =
      (classHead id name params >>= fun r => do
        let c ← checkCtor r.2.1 params r.2.2.1 r.2.2.2 body
        let methods ← checkMethods r.1 r.2.1 methods
        Check.closeScope r.2.1
        let entity ← Check.newEntity (.classType r.1)
        Check.declare id name entity span
        return ⟨entity, r.1, r.2.2.2, c.1, c.2, ctorSpan, methods, span⟩) := by
  simp only [checkClass, classHead, checkCtor, Check.withChild, bind_assoc, pure_bind]

/-- **The way to a block of a statement.** When the statement is checked in the scope `id`, and
the check has gone one level deeper for it, `m` is what it does before it comes to the
statements `xs` of the block: `m` ends when their scope is open, and gives the number of the
scope. -/
inductive Stmt.Way (id : ScopeId) : Stmt → Check ScopeId → List Stmt → Prop
  /-- The body of a function. -/
  | function (name : String) (params : List Param) (result : Option TypeExpr) (body : Block Stmt)
      (span : Span) :
      Way id (.function ⟨name, params, result, body, span⟩)
        (do
          let (inner, _) ← functionHead none id name params result span
          return inner)
        body.body
  /-- The body of a constructor. -/
  | ctor (name : String) (params : List Param) (body : Block Stmt) (ctorSpan : Span)
      (methods : List (FnDecl Stmt)) (span : Span) :
      Way id (.classDecl ⟨name, params, body, ctorSpan, methods, span⟩)
        (do
          let (_, inside, tys, ctor) ← classHead id name params
          ctorHead inside params tys ctor)
        body.body
  /-- The body of a method, after the constructor and the methods before it. -/
  | method (name : String) (params : List Param) (body : Block Stmt) (ctorSpan : Span)
      (before : List (FnDecl Stmt)) (f : FnDecl Stmt) (after : List (FnDecl Stmt)) (span : Span) :
      Way id (.classDecl ⟨name, params, body, ctorSpan, before ++ f :: after, span⟩)
        (do
          let (cls, inside, tys, ctor) ← classHead id name params
          let _ ← checkCtor inside params tys ctor body
          let _ ← checkMethods cls inside before
          let (inner, _) ← functionHead (some cls) inside f.name f.params f.result f.span
          return inner)
        f.body.body
  /-- The body of a branch, after the branches before it and its own test. -/
  | branch (before : List (Branch Expr Stmt)) (test : Expr) (body : Block Stmt)
      (after : List (Branch Expr Stmt)) (alternate : Option (Block Stmt)) (span : Span) :
      Way id (.ifElse (before ++ ⟨test, body⟩ :: after) alternate span)
        (do
          let _ ← checkBranches id before
          let test ← checkExpr id test
          Check.ofRule (Rule.boolean test)
          Check.openScope id {})
        body.body
  /-- The alternate of a choice, after all its branches. -/
  | alternate (branches : List (Branch Expr Stmt)) (body : Block Stmt) (span : Span) :
      Way id (.ifElse branches (some body) span)
        (do
          let _ ← checkBranches id branches
          Check.openScope id {})
        body.body
  /-- The body of a loop that tests a condition. -/
  | whileLoop (test : Expr) (body : Block Stmt) (span : Span) :
      Way id (.whileLoop test body span)
        (do
          let test ← checkExpr id test
          Check.ofRule (Rule.boolean test)
          Check.openScope id { inLoop := some true })
        body.body
  /-- The body of a loop that counts. -/
  | forLoop (name : String) (start stop : Expr) (body : Block Stmt) (span : Span) :
      Way id (.forLoop name start stop body span)
        (do
          let start ← checkExpr id start
          Check.ofRule (Rule.integer start)
          let stop ← checkExpr id stop
          Check.ofRule (Rule.integer stop)
          loopHead id name .int span)
        body.body
  /-- The body of a loop over elements. -/
  | forEach (name : String) (typeExpr : Option TypeExpr) (iterable : Expr) (body : Block Stmt)
      (span : Span) :
      Way id (.forEach name typeExpr iterable body span)
        (do
          let iterable ← checkExpr id iterable
          let ty ← loopVariableType id typeExpr iterable
          loopHead id name ty span)
        body.body

/-- The way to a block of a statement ends at a block of the statement. -/
theorem Stmt.Way.exists_body {id : ScopeId} {x : Stmt} {m : Check ScopeId} {ys : List Stmt}
    (h : x.Way id m ys) : ∃ b ∈ x.bodies, ys = b.block.body := by
  cases h with
  | function name params result body span => exact ⟨_, List.mem_cons_self, rfl⟩
  | ctor name params body ctorSpan methods span => exact ⟨_, List.mem_cons_self, rfl⟩
  | method name params body ctorSpan before f after span =>
    refine ⟨_, List.mem_cons_of_mem _ (List.mem_map_of_mem ?_), rfl⟩
    exact List.mem_append_right _ List.mem_cons_self
  | branch before test body after alternate span =>
    have hmem : ⟨test, body⟩ ∈ before ++ ⟨test, body⟩ :: after :=
      List.mem_append_right _ List.mem_cons_self
    exact ⟨_, List.mem_append_left _ (List.mem_map_of_mem hmem), rfl⟩
  | alternate branches body span =>
    exact ⟨_, List.mem_append_right _ (List.mem_map_of_mem List.mem_cons_self), rfl⟩
  | whileLoop test body span => exact ⟨_, List.mem_cons_self, rfl⟩
  | forLoop name start stop body span => exact ⟨_, List.mem_cons_self, rfl⟩
  | forEach name typeExpr iterable body span => exact ⟨_, List.mem_cons_self, rfl⟩

/-! ### Where a check comes to -/

/-- **The check of statements comes to others**: when the statements `xs₀` are checked in the scope
`id₀`, from the state `s₀`, it comes in the state `s` to the point where the statements `xs` are
next, in the scope `id`. -/
inductive Check.Comes (id₀ : ScopeId) (xs₀ : List Stmt) (s₀ : State) :
    ScopeId → List Stmt → State → Prop
  /-- It starts with all of the statements. -/
  | start : Comes id₀ xs₀ s₀ id₀ xs₀ s₀
  /-- A statement is accepted, and those after it are next. -/
  | next {id : ScopeId} {x : Stmt} {xs : List Stmt} {s t : State} {y : Checked.Stmt} :
      Comes id₀ xs₀ s₀ id (x :: xs) s → checkStmt id x s = .ok y t → Comes id₀ xs₀ s₀ id xs t
  /-- A block of the next statement is entered. -/
  | enter {id inner : ScopeId} {x : Stmt} {xs ys : List Stmt} {s t : State} {m : Check ScopeId} :
      Comes id₀ xs₀ s₀ id (x :: xs) s → s.depth < s.limit → x.Way id m ys →
      m s.deeper = .ok inner t → Comes id₀ xs₀ s₀ inner ys t

/-- **The check of a program comes to statements**, under the limit. -/
abbrev Program.Comes (limit : Nat) (p : Program) : ScopeId → List Stmt → State → Prop :=
  Check.Comes Arena.root p.body (.initial limit)

/-- A way that succeeds with the number of a scope ends in the state after it. -/
theorem Check.run_eq_ok {m : Check ScopeId} {s : State} {inner : ScopeId}
    (h : (match m s with
      | .ok new _ => new == inner
      | .error _ _ => false) = true) : m s = .ok inner (Check.after m s) := by
  rw [Check.after]
  cases hm : m s with
  | ok new t =>
    rw [hm] at h
    rw [eq_of_beq h]
  | error failure t =>
    rw [hm] at h
    cases h

/-- A computation that succeeds ends in the state after it. -/
theorem Check.exists_run_eq_ok {α : Type} {m : Check α} {s : State}
    (h : (match m s with
      | .ok _ _ => true
      | .error _ _ => false) = true) : ∃ a, m s = .ok a (Check.after m s) := by
  rw [Check.after]
  cases hm : m s with
  | ok a t => exact ⟨a, rfl⟩
  | error failure t =>
    rw [hm] at h
    cases h

/-- A computation that fails ends in the state after it. -/
theorem Check.exists_run_eq_error {α : Type} {m : Check α} {s : State}
    (h : (match m s with
      | .ok _ _ => true
      | .error _ _ => false) = false) : ∃ failure, m s = .error failure (Check.after m s) := by
  rw [Check.after]
  cases hm : m s with
  | ok a t =>
    rw [hm] at h
    cases h
  | error failure t => exact ⟨failure, rfl⟩

/-- **A state arises in the check of a program**, where it comes to a statement or to an
expression of it. -/
inductive State.Arises (limit : Nat) (p : Program) : State → Prop
  /-- The check comes to statements. -/
  | stmts {id : ScopeId} {xs : List Stmt} {s : State} :
      p.Comes limit id xs s → Arises limit p s
  /-- The check comes to a branch of a choice, after the branches before it. -/
  | branch {id : ScopeId} {before after : List (Branch Expr Stmt)}
      {alternate : Option (Block Stmt)} {span : Span} {xs : List Stmt} {s t : State}
      {bs : List (Branch Checked.Expr Checked.Stmt)} :
      p.Comes limit id (.ifElse (before ++ after) alternate span :: xs) s → s.depth < s.limit →
      checkBranches id before s.deeper = .ok bs t → Arises limit p t
  /-- The check goes one level deeper, for a statement or for an expression in it. -/
  | deeper {s : State} : Arises limit p s → s.depth < s.limit → Arises limit p s.deeper

/-! ### The way is that of the check -/

namespace Check

variable {α β : Type} {m : Check ScopeId} {xs : List Stmt}

/-- **A computation goes through `m` and then through the statements `xs`**: when `m` has opened
their scope and they are refused there, the computation fails for their reason. -/
def Leads (m : Check ScopeId) (xs : List Stmt) (act : Check α) : Prop :=
  ∀ s inner t failure u, m s = .ok inner t → checkStmts inner xs t = .error failure u →
    ∃ v, act s = .error failure v

namespace Leads

theorem bind {act : Check α} (h : Leads m xs act) (f : α → Check β) :
    Leads m xs (act >>= f) := by
  intro s inner t failure u hm hxs
  obtain ⟨v, hact⟩ := h s inner t failure u hm hxs
  exact ⟨v, bind_eq_error_of_left hact f⟩

theorem after (n : Check α) {m : α → Check ScopeId} {f : α → Check β}
    (h : ∀ a, Leads (m a) xs (f a)) : Leads (n >>= m) xs (n >>= f) := by
  intro s inner t failure u hm hxs
  simp only [Bind.bind, EStateM.bind] at hm ⊢
  cases hn : n s with
  | ok a v =>
    simp only [hn] at hm ⊢
    exact h a v inner t failure u hm hxs
  | error e v => simp [hn] at hm

theorem block (inner : ScopeId) (span : Span) :
    Leads (pure inner) xs (checkBlock inner ⟨xs, span⟩) := by
  intro s _ _ failure u hm hxs
  cases hm
  rw [checkBlock]
  exact ⟨u, bind_eq_error_of_left hxs _⟩

theorem withChild (id : ScopeId) (changes : Overrides) {m : ScopeId → Check ScopeId}
    {act : ScopeId → Check α} (h : ∀ inner, Leads (m inner) xs (act inner)) :
    Leads (openScope id changes >>= m) xs (Check.withChild id changes act) :=
  .after _ fun inner => (h inner).bind _

/-- A block in a scope of its own. -/
theorem inner (id : ScopeId) (changes : Overrides) (span : Span) :
    Leads (openScope id changes) xs
      (Check.withChild id changes fun inner => checkBlock inner ⟨xs, span⟩) := by
  rw [← bind_pure (openScope id changes)]
  exact .withChild id changes fun inner => .block inner span

end Leads

end Check

open Check (Leads)

/-! The parts of a statement, one by one. -/

theorem checkFunction_leads (owner : Option ClassRef) (id : ScopeId) (f : FnDecl Stmt) :
    Leads (do
        let (inner, _) ← functionHead owner id f.name f.params f.result f.span
        return inner) f.body.body (checkFunction owner id f) := by
  obtain ⟨name, params, result, ⟨body, bodySpan⟩, span⟩ := f
  rw [checkFunction_eq]
  exact .after _ fun r => .bind (.block r.1 bodySpan) _

theorem checkMethods_leads (cls : ClassRef) (id : ScopeId) (before : List (FnDecl Stmt))
    (f : FnDecl Stmt) (after : List (FnDecl Stmt)) :
    Leads (do
        let _ ← checkMethods cls id before
        let (inner, _) ← functionHead (some cls) id f.name f.params f.result f.span
        return inner) f.body.body (checkMethods cls id (before ++ f :: after)) := by
  induction before with
  | nil =>
    rw [checkMethods, List.nil_append, checkMethods, pure_bind]
    exact (checkFunction_leads (some cls) id f).bind _
  | cons g before ih =>
    rw [checkMethods, List.cons_append, checkMethods]
    simp only [bind_assoc, pure_bind]
    exact .after _ fun _ => ih.bind _

theorem checkBranches_leads (id : ScopeId) (before : List (Branch Expr Stmt)) (test : Expr)
    (body : Block Stmt) (after : List (Branch Expr Stmt)) :
    Leads (do
        let _ ← checkBranches id before
        let test ← checkExpr id test
        Check.ofRule (Rule.boolean test)
        Check.openScope id {}) body.body (checkBranches id (before ++ ⟨test, body⟩ :: after)) := by
  obtain ⟨xs, span⟩ := body
  induction before with
  | nil =>
    rw [checkBranches, List.nil_append, checkBranches, pure_bind]
    exact .after _ fun _ => .after _ fun _ => .bind (.inner id {} span) _
  | cons b before ih =>
    obtain ⟨other, block⟩ := b
    rw [checkBranches, List.cons_append, checkBranches]
    simp only [bind_assoc, pure_bind]
    exact .after _ fun _ => .after _ fun _ => .after _ fun _ => ih.bind _

/-- A statement is checked one level deeper than where it stands. -/
theorem Stmt.Way.leads {id : ScopeId} {x : Stmt} {m : Check ScopeId} {xs : List Stmt}
    (hx : x.Way id m xs) :
    ∃ act, checkStmt id x = Check.nested x.span act ∧ Leads m xs act := by
  cases hx with
  | function name params result body span =>
    rw [checkStmt]
    exact ⟨_, rfl, (checkFunction_leads none id ⟨name, params, result, body, span⟩).bind _⟩
  | ctor name params body ctorSpan methods span =>
    obtain ⟨xs, bodySpan⟩ := body
    rw [checkStmt, checkClass]
    refine ⟨_, rfl, .bind ?_ _⟩
    simp only [classHead, ctorHead, bind_assoc, pure_bind]
    refine .after _ fun cls => .bind (.withChild id _ fun inside => ?_) _
    refine .after _ fun tys => .after _ fun _ => .after _ fun ctor => .bind ?_ _
    exact .withChild inside _ fun inner => .after _ fun _ => .bind (.block inner bodySpan) _
  | method name params body ctorSpan before f after span =>
    rw [checkStmt, checkClass]
    refine ⟨_, rfl, .bind ?_ _⟩
    simp only [classHead, checkCtor, bind_assoc, pure_bind]
    refine .after _ fun cls => .bind (.withChild id _ fun inside => ?_) _
    refine .after _ fun tys => .after _ fun _ => .after _ fun ctor => .after _ fun _ => ?_
    exact (checkMethods_leads cls inside before f after).bind _
  | branch before test body after alternate span =>
    rw [checkStmt]
    exact ⟨_, rfl, (checkBranches_leads id before test body after).bind _⟩
  | alternate branches body span =>
    obtain ⟨xs, bodySpan⟩ := body
    rw [checkStmt, checkAlternate]
    exact ⟨_, rfl, .after _ fun _ => .bind (.bind (.inner id {} bodySpan) _) _⟩
  | whileLoop test body span =>
    obtain ⟨xs, bodySpan⟩ := body
    rw [checkStmt]
    exact ⟨_, rfl, .after _ fun _ => .after _ fun _ => .bind (.inner id _ bodySpan) _⟩
  | forLoop name start stop body span =>
    obtain ⟨xs, bodySpan⟩ := body
    rw [checkStmt]
    refine ⟨_, rfl, .after _ fun _ => .after _ fun _ => .after _ fun _ => .after _ fun _ => ?_⟩
    exact .bind (.withChild id _ fun inner => .after _ fun _ => .after _ fun _ =>
      .bind (.block inner bodySpan) _) _
  | forEach name typeExpr iterable body span =>
    obtain ⟨xs, bodySpan⟩ := body
    rw [checkStmt]
    refine ⟨_, rfl, .after _ fun _ => .after _ fun _ => ?_⟩
    exact .bind (.withChild id _ fun inner => .after _ fun _ => .after _ fun _ =>
      .bind (.block inner bodySpan) _) _

variable {s : State} {id : ScopeId} {limit : Nat} {p : Program} {xs : List Stmt}

theorem Check.nested_eq_error_of_lt {α : Type} {act : Check α} {failure : Failure} {t : State}
    (hlt : s.depth < s.limit) (h : act s.deeper = .error failure t) (span : Span) :
    ∃ u, Check.nested span act s = .error failure u := by
  have h : act { s with depth := s.depth + 1 } = .error failure t := h
  rw [Check.nested, if_pos hlt, h]
  exact ⟨_, rfl⟩

/-- **What is refused where the check of a program comes to is refused in the program.** -/
theorem Program.Comes.checkProgram_eq_error (h : p.Comes limit id xs s) {failure : Failure}
    {t : State} (hxs : checkStmts id xs s = .error failure t) :
    checkProgram limit p = .error failure := by
  suffices hbody : ∃ u, checkStmts Arena.root p.body (.initial limit) = .error failure u by
    obtain ⟨u, hbody⟩ := hbody
    rw [checkProgram, hbody]
  induction h generalizing t with
  | start => exact ⟨t, hxs⟩
  | @next id x xs s u y _ hrun ih =>
    have hrest : checkStmts id (x :: xs) s = .error failure t := by
      simp [checkStmts, Bind.bind, EStateM.bind, hrun, hxs]
    exact ih hrest
  | @enter id inner x xs ys s u m _ hlt hway hrun ih =>
    obtain ⟨act, hact, hleads⟩ := hway.leads
    obtain ⟨v, hv⟩ := hleads _ _ _ _ _ hrun hxs
    obtain ⟨w, hw⟩ := Check.nested_eq_error_of_lt hlt hv x.span
    rw [← hact] at hw
    have hrest : checkStmts id (x :: xs) s = .error failure w := by
      rw [checkStmts]
      exact Check.bind_eq_error_of_left hw _
    exact ih hrest

end Shipshape
