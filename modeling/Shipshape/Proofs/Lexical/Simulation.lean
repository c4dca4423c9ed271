import Shipshape.Check.Program
import Shipshape.Proofs.Lexical.Expr

/-!
# Statements are checked lexically

The checker with numbered scopes and the lexical checker give the same answer.

* `Shipshape.Lexical.Agree` – two results agree: both are failures with one
  diagnostic, or both are successes and their values and states are related;
* `Shipshape.State.advance` – the state after a statement that succeeds: some more
  names in its scope, the classes and the supply of identities as they are by
  then, and all else as before;
* `Shipshape.checkStmt_agree` – the simulation, statement by statement.

What makes it work is that a successful check leaves no scope of its own behind: a
computation in a new scope ends with that scope last, whatever was declared in it
or in the scope around it, and closing it gives back the state before, advanced
(`Shipshape.withChild_agree`).
-/

namespace Shipshape

open Lexical (Frame Env Mirrors Store)
open Check (Reads)

/-! ### States -/

namespace State

/-- What a state holds that outlives regions. -/
def store (s : State) : Store := ⟨s.classes, s.nextEntity⟩

/-- The state with the store of later. -/
def withStore (s : State) (σ : Store) : State :=
  { s with classes := σ.classes, nextEntity := σ.nextEntity }

/-- The state with some more names in a scope and with the store of later. -/
def advance (s : State) (id : ScopeId) (names : List (String × Entity)) (σ : Store) : State :=
  { s with arena := s.arena.extend id names, classes := σ.classes, nextEntity := σ.nextEntity }

/-- The state with one more scope. -/
def push (s : State) (scope : Scope) : State := { s with arena := s.arena.push scope }

/-- The state after an entity was made. -/
def fresh (s : State) : State := { s with nextEntity := s.nextEntity + 1 }

theorem advance_advance (s : State) (id : ScopeId) (names more : List (String × Entity))
    (σ τ : Store) :
    (s.advance id names σ).advance id more τ = s.advance id (more ++ names) τ := by
  simp only [advance, Arena.extend_extend]

theorem advance_nil_store (s : State) (id : ScopeId) : s.advance id [] s.store = s := by
  simp only [advance, store, Arena.extend_nil]

/-- A declaration in the scope around one that was just opened. -/
theorem push_advance_of_lt (s : State) {id : ScopeId} (outside : List (String × Entity))
    (scope : Scope) (names : List (String × Entity)) (σ τ : Store) (h : id < s.arena.size) :
    ((s.advance id outside σ).push scope).advance id names τ =
      (s.advance id (names ++ outside) τ).push scope := by
  have h' : id < (s.arena.extend id outside).size := by simpa using h
  simp only [advance, push, Arena.extend_push_of_lt scope names h', Arena.extend_extend]

/-- A declaration in a scope that was just opened leaves the scopes before it
alone. -/
theorem push_advance_size (s : State) (id : ScopeId) (outside : List (String × Entity))
    (scope : Scope) (names : List (String × Entity)) (σ τ : Store) :
    ((s.advance id outside σ).push scope).advance s.arena.size names τ =
      (s.advance id outside τ).push (scope.extend names) := by
  have h := Arena.extend_push_size (s.arena.extend id outside) scope names
  rw [Arena.size_extend] at h
  simp only [advance, push, h]

end State

/-- What is seen after declarations in a scope. -/
theorem Lexical.Mirrors.advance {s : State} {id : ScopeId} {env : Env} (h : Mirrors s id env)
    (names : List (String × Entity)) (σ : Store) :
    Mirrors (s.advance id names σ) id (env.extend names) :=
  ⟨h.sees.extend names, h.level, h.limit⟩

/-- What is seen from a scope that was just opened, when the names `outside` have
been declared in the scope around it. -/
theorem Lexical.Mirrors.push {s : State} {id : ScopeId} {env : Env} (h : Mirrors s id env)
    {scope : Scope} (hs : scope.parent = some id) (outside : List (String × Entity)) (σ : Store) :
    Mirrors ((s.advance id outside σ).push scope) s.arena.size
      ((env.extend outside).push scope.frame) := by
  have hsees := (h.sees.extend outside).push hs
  rw [Arena.size_extend] at hsees
  exact ⟨hsees, h.level, h.limit⟩

namespace Lexical

/-! ### Agreement of results -/

/-- **Two results agree**: both fail with one diagnostic, or both succeed with
values and states in the relation `R`. -/
inductive Agree {α β : Type} (R : α → State → β → Store → Prop) :
    EStateM.Result Failure State α → EStateM.Result Diagnostic Store β → Prop
  /-- Two successes. -/
  | ok {a : α} {t : State} {b : β} {σ : Store} : R a t b σ → Agree R (.ok a t) (.ok b σ)
  /-- Two failures. -/
  | error {d : Diagnostic} {t : State} {σ : Store} : Agree R (.error (.refused d) t) (.error d σ)

namespace Agree

variable {α β γ δ : Type} {R : α → State → β → Store → Prop} {Q : γ → State → δ → Store → Prop}
variable {s : State} {id : ScopeId} {env : Env}

/-- The two ways of agreeing. -/
theorem cases {x : EStateM.Result Failure State α} {y : EStateM.Result Diagnostic Store β}
    (h : Agree R x y) :
    (∃ a t b σ, x = .ok a t ∧ y = .ok b σ ∧ R a t b σ) ∨
      ∃ d t σ, x = .error (.refused d) t ∧ y = .error d σ := by
  cases h with
  | ok h => exact .inl ⟨_, _, _, _, rfl, rfl, h⟩
  | error => exact .inr ⟨_, _, _, rfl, rfl⟩

/-- Agreement goes through sequencing. -/
theorem bind {m : Check α} {l : Lex β} {f : α → Check γ} {g : β → Lex δ} {σ : Store}
    (hm : Agree R (m s) (l σ)) (hf : ∀ a t b τ, R a t b τ → Agree Q (f a t) (g b τ)) :
    Agree Q ((m >>= f) s) ((l >>= g) σ) := by
  simp only [Bind.bind, EStateM.bind]
  rcases hm.cases with ⟨a, t, b, τ, hx, hy, h⟩ | ⟨d, t, τ, hx, hy⟩
  · rw [hx, hy]
    exact hf a t b τ h
  · rw [hx, hy]
    exact .error

/-- What only reads the state may come first. -/
theorem reads {m : Check α} {x : Except Diagnostic α} {f : α → Check γ} {g : α → Lex δ}
    (hm : Reads m s x) (hf : ∀ a, Agree Q (f a s) (g a s.store)) :
    Agree Q ((m >>= f) s) ((Lex.ofRule x >>= g) s.store) := by
  have hm : m s = Check.ofRule x s := hm
  simp only [Bind.bind, EStateM.bind, hm]
  cases x with
  | ok a => exact hf a
  | error d => exact .error

/-- An entity may be made first. -/
theorem newEntity {binding : Binding} {f : Entity → Check γ} {g : Entity → Lex δ}
    (hf : ∀ entity, Agree Q (f entity s.fresh) (g entity s.fresh.store)) :
    Agree Q ((Check.newEntity binding >>= f) s) ((Lex.newEntity binding >>= g) s.store) :=
  hf ⟨s.nextEntity, binding⟩

/-- A class may be made first. -/
theorem newClass {name : String} {f : ClassRef → Check γ} {g : ClassRef → Lex δ}
    (hf : ∀ cls, Agree Q (f cls { s with classes := (s.classes.add name).1 })
      (g cls ({ s with classes := (s.classes.add name).1 } : State).store)) :
    Agree Q ((Check.newClass name >>= f) s) ((Lex.newClass name >>= g) s.store) :=
  hf (s.classes.add name).2

/-- The constructor of a class may be set first. -/
theorem setCtor {cls : ClassRef} {signature : Signature} {f : Unit → Check γ} {g : Unit → Lex δ}
    (hf : Agree Q (f () { s with classes := s.classes.setCtor cls signature })
      (g () ({ s with classes := s.classes.setCtor cls signature } : State).store)) :
    Agree Q ((Check.setCtor cls signature >>= f) s) ((Lex.setCtor cls signature >>= g) s.store) :=
  hf

/-- A name may be declared first. -/
theorem declare {frame : Frame} {frames : List Frame} (h : s.arena.Sees id (frame :: frames))
    {name : String} {entity : Entity} {span : Span} {f : Unit → Check γ}
    {g : String × Entity → Lex δ}
    (hf : ∀ binding, Agree Q (f () (s.advance id [binding] s.store)) (g binding s.store)) :
    Agree Q ((Check.declare id name entity span >>= f) s)
      ((Lex.ofRule (frame.declare name entity span) >>= g) s.store) := by
  simp only [Bind.bind, EStateM.bind, Check.declare, Arena.declare_eq h]
  cases frame.declare name entity span with
  | ok binding => exact hf binding
  | error d => exact .error

/-- A field may be added first. -/
theorem addField {cls : ClassRef} {name : String} {ty : Ty} {span : Span} {m : Check γ}
    {g : Unit → Lex δ}
    (hf : ∀ classes, Agree Q (m { s with classes }) (g () ({ s with classes } : State).store)) :
    Agree Q ((Check.addField cls name ty >>= fun free =>
        if free then m else Check.refuse (.duplicateDeclaration name) span) s)
      ((Lex.addField cls name ty span >>= g) s.store) := by
  simp only [Bind.bind, EStateM.bind, Check.addField, Lex.addField, State.store]
  cases s.classes.addField? cls name ty with
  | none => exact .error
  | some classes => exact hf classes

/-- What surrounds the scope may be looked at first. -/
theorem scope (h : Mirrors s id env) {f : Scope → Check γ}
    {r : EStateM.Result Diagnostic Store δ}
    (hf : ∀ scope : Scope, scope.frame = env.frame → Agree Q (f scope s) r) :
    Agree Q ((Check.scope id >>= f) s) r := by
  obtain ⟨scope, hs, hframe⟩ := h.sees.get
  simp only [Bind.bind, EStateM.bind, Check.scope, hs]
  exact hf scope hframe

/-- In a frame without names a declaration always succeeds. -/
theorem declare_empty {ambient : Ambient} {frames : List Frame}
    (h : s.arena.Sees id (.empty ambient :: frames)) {name : String} {entity : Entity} {span : Span}
    {f : Unit → Check γ} {r : EStateM.Result Diagnostic Store δ}
    (hf : Agree Q (f () (s.advance id [(name, entity)] s.store)) r) :
    Agree Q ((Check.declare id name entity span >>= f) s) r := by
  simp only [Bind.bind, EStateM.bind, Check.declare, Arena.declare_eq h]
  exact hf

/-- One level deeper may be gone first. -/
theorem nested {span : Span} {act : Check α} {g : Env → Lex β}
    {names : β → List (String × Entity)} {P : α → β → Prop} (h : Mirrors s id env)
    (hact : ∀ env', Mirrors s.deeper id env' →
      Agree (fun a t b σ => P a b ∧ t = s.deeper.advance id (names b) σ)
        (act s.deeper) (g env' s.deeper.store)) :
    Agree (fun a t b σ => P a b ∧ t = s.advance id (names b) σ) (Check.nested span act s)
      ((Lex.ofRule (env.descend span) >>= g) s.store) := by
  rw [h.descend span, Check.nested]
  by_cases hlt : s.depth < s.limit
  · have hact := hact { env with level := env.level + 1 } h.deeper
    rw [if_pos hlt, if_pos hlt]
    show Agree _ _ (g { env with level := env.level + 1 } s.store)
    simp only [State.deeper] at hact
    rcases hact.cases with ⟨a, t, b, τ, hx, hy, hp, rfl⟩ | ⟨d, t, τ, hx, hy⟩
    · rw [hx, show g _ s.store = _ from hy]
      exact .ok ⟨hp, rfl⟩
    · rw [hx, show g _ s.store = _ from hy]
      exact .error
  · rw [if_neg hlt, if_neg hlt]
    exact .error

end Agree

end Lexical

open Lexical (Agree)

variable {s : State} {id : ScopeId} {env : Env}

/-- What surrounds a region that changes something about its surroundings. -/
def Overrides.ambient (changes : Overrides) (a : Ambient) : Ambient :=
  ⟨changes.inLoop.getD a.inLoop, changes.function.or a.function, changes.cls.or a.cls⟩

/-- **A computation in a new scope.** It ends with the new scope last; what was
declared outside meanwhile, namely `outside`, stays when the scope is closed. -/
theorem withChild_agree {α β : Type} {changes : Overrides} {act : ScopeId → Check α}
    {l : Lexical.Lex β}
    {outside : β → List (String × Entity)} {P : α → β → Prop} (h : Mirrors s id env)
    (hact : ∀ scope : Scope, scope.parent = some id →
      scope.frame = .empty (changes.ambient env.ambient) →
      Agree (fun a t b σ => P a b ∧ ∃ last, t = (s.advance id (outside b) σ).push last)
        (act s.arena.size ((s.advance id [] s.store).push scope)) (l s.store)) :
    Agree (fun a t b σ => P a b ∧ t = s.advance id (outside b) σ)
      (Check.withChild id changes act s) (l s.store) := by
  obtain ⟨scope, hframe, hchild⟩ := Arena.child_eq h.sees changes
  have hopen : Check.openScope id changes s =
      .ok s.arena.size (s.push (scope.child id changes)) := by
    simp only [Check.openScope, hchild, State.push]
  have hact := hact (scope.child id changes) rfl
    (congrArg (fun f : Frame => Frame.empty (changes.ambient f.ambient)) hframe)
  rw [State.advance_nil_store] at hact
  simp only [Check.withChild, Bind.bind, EStateM.bind, hopen]
  rcases hact.cases with ⟨a, t, b, τ, hx, hy, hp, last, rfl⟩ | ⟨d, t, τ, hx, hy⟩
  · rw [hx, hy]
    refine .ok ⟨hp, ?_⟩
    -- Only the last scope goes, so the names declared outside meanwhile stay.
    have hpos : 0 < s.arena.size := Nat.zero_lt_of_lt h.sees.lt_size
    have hleave := Arena.leave_push (s.arena.extend id (outside b)) last (by simpa using hpos)
    rw [Arena.size_extend] at hleave
    simp only [State.advance, State.push, hleave]
  · rw [hx, hy]
    exact .error

/-! ### Parts of statements -/

theorem variableType_reads (h : Mirrors s id env) (typeExpr : Option TypeExpr)
    (value : Checked.Expr) :
    Reads (variableType id typeExpr value) s (Lexical.variableType env typeExpr value) := by
  cases typeExpr with
  | none => exact .of_rule ..
  | some a => exact .bind (convert_reads h a) fun ty => .bind (.of_rule ..) fun _ => .pure ..

theorem loopVariableType_reads (h : Mirrors s id env) (typeExpr : Option TypeExpr)
    (iterable : Checked.Expr) :
    Reads (loopVariableType id typeExpr iterable) s
      (Lexical.loopVariableType env typeExpr iterable) := by
  refine .bind (.of_rule ..) fun element => ?_
  cases typeExpr with
  | none => exact .of_rule ..
  | some a => exact .bind (convert_reads h a) fun ty => .of_rule ..

theorem checkReturn_reads (h : Mirrors s id env) (function : Entity) (value : Option Expr)
    (span : Span) :
    Reads (checkReturn id function value span) s
      (Lexical.returned env s.classes function value span) := by
  cases value with
  | none => exact .bind (.of_rule ..) fun _ => .pure ..
  | some e =>
    refine .bind (.of_rule ..) fun _ => .bind (checkExpr_reads e h) fun e' => ?_
    exact .bind (.of_rule ..) fun _ => .pure ..

/-- Parameters are declared in the frame of their scope. -/
theorem declareParams_agree {frame : Frame} {frames : List Frame} (params : List Param)
    (tys : List Ty) (h : s.arena.Sees id (frame :: frames)) :
    Agree (fun entities t r σ => entities = r.2 ∧ ∃ names, r.1 = frame.extend names ∧
        t = s.advance id names σ)
      (declareParams id params tys s) (Lexical.params frame params tys s.store) := by
  induction params generalizing s frame tys with
  | nil =>
    rw [declareParams.eq_def, Lexical.params.eq_def]
    exact .ok ⟨rfl, [], rfl, (s.advance_nil_store id).symm⟩
  | cons param params ih =>
    cases tys with
    | nil => exact .ok ⟨rfl, [], rfl, (s.advance_nil_store id).symm⟩
    | cons ty tys =>
      rw [declareParams, Lexical.params]
      refine .newEntity fun entity => .declare (s := s.fresh) h fun binding => ?_
      refine .bind (ih tys (h.extend [binding])) fun entities t r σ hr => ?_
      obtain ⟨rfl, names, hnames, rfl⟩ := hr
      refine .ok ⟨rfl, names ++ [binding], ?_, State.advance_advance ..⟩
      rw [hnames]
      simp [Frame.extend]

/-- A method is added to its class. -/
theorem declareMethod_agree (owner : Option ClassRef) (name : String) (signature : Signature)
    (span : Span) :
    Agree (fun _ t _ σ => t = s.withStore σ)
      (declareMethod owner name signature span s)
      (Lexical.Lex.addMethod owner name signature span s.store) := by
  cases owner with
  | none => exact .ok rfl
  | some cls =>
    simp only [declareMethod, Lexical.Lex.addMethod, Bind.bind, EStateM.bind, Check.addMethod,
      State.store]
    cases s.classes.addMethod? cls name signature with
    | none => exact .error
    | some classes => exact .ok rfl

/-! ### Blocks and declarations -/

/-- A statement is checked lexically, in every state and environment that agree. -/
def Stmt.CheckedLexically (x : Stmt) : Prop :=
  ∀ {s : State} {id : ScopeId} {env : Env}, Mirrors s id env →
    Agree (fun y t r σ => y = r.1 ∧ t = s.advance id r.2.toList σ)
      (checkStmt id x s) (Lexical.stmt env x s.store)

theorem checkStmts_agree {xs : List Stmt} (hxs : ∀ x ∈ xs, x.CheckedLexically)
    (h : Mirrors s id env) :
    Agree (fun ys t zs σ => ys = zs ∧ ∃ names, t = s.advance id names σ)
      (checkStmts id xs s) (Lexical.stmts env xs s.store) := by
  induction xs generalizing s env with
  | nil =>
    rw [checkStmts, Lexical.stmts]
    exact .ok ⟨rfl, [], (s.advance_nil_store id).symm⟩
  | cons x xs ih =>
    rw [checkStmts, Lexical.stmts]
    refine .bind (hxs x List.mem_cons_self h) fun y t r σ hr => ?_
    obtain ⟨z, binding⟩ := r
    obtain ⟨rfl, rfl⟩ := hr
    have ih := ih (fun x hx => hxs x (List.mem_cons_of_mem _ hx)) (h.advance binding.toList σ)
    refine .bind ih fun ys t zs τ hr => ?_
    obtain ⟨rfl, names, rfl⟩ := hr
    exact .ok ⟨rfl, names ++ binding.toList, State.advance_advance ..⟩

/-- A block in a scope that was just opened. The names `outside` have been declared
in the scope around it by then. -/
theorem checkBlock_agree {body : Block Stmt} (hbody : ∀ x ∈ body.body, x.CheckedLexically)
    (h : Mirrors s id env) {scope : Scope} (hs : scope.parent = some id)
    (outside : List (String × Entity)) (σ : Store) :
    Agree (fun b t c τ => b = c ∧ ∃ last, t = (s.advance id outside τ).push last)
      (checkBlock s.arena.size body ((s.advance id outside σ).push scope))
      (Lexical.block ((env.extend outside).push scope.frame) body σ) := by
  obtain ⟨xs, span⟩ := body
  rw [checkBlock, Lexical.block]
  refine .bind (checkStmts_agree hbody (h.push hs outside σ)) fun ys t zs τ hr => ?_
  obtain ⟨rfl, names, rfl⟩ := hr
  exact .ok ⟨rfl, _, State.push_advance_size ..⟩

/-- A block in a scope of its own. -/
theorem checkInner_agree {body : Block Stmt} (hbody : ∀ x ∈ body.body, x.CheckedLexically)
    (h : Mirrors s id env) (changes : Overrides) :
    Agree (fun b t c σ => b = c ∧ t = s.advance id [] σ)
      (Check.withChild id changes (fun inner => checkBlock inner body) s)
      (Lexical.block (env.push (.empty (changes.ambient env.ambient))) body s.store) := by
  refine withChild_agree h fun scope hs hframe => ?_
  rw [← hframe]
  exact checkBlock_agree hbody h hs [] s.store

/-- The part of a function that is checked in its own scope: the parameters are
declared there, the function itself in the scope around it. -/
theorem functionBody_agree {body : Block Stmt} (hbody : ∀ x ∈ body.body, x.CheckedLexically)
    (owner : Option ClassRef) (name : String) (params : List Param) (signature : Signature)
    (entity : Entity) (span : Span) (h : Mirrors s id env) :
    Agree (fun f t r σ => f = r.1 ∧ t = s.advance id [r.2] σ)
      (Check.withChild id { inLoop := some false, function := some entity } (fun inner => do
        let params ← declareParams inner params signature.params
        declareMethod owner name signature span
        Check.declare id name entity span
        let body ← checkBlock inner body
        return (⟨entity, params, signature.result, body, span⟩ : Checked.Function Checked.Stmt)) s)
      (Lexical.functionBody owner env name params signature entity span
        (fun inner => Lexical.block inner body) s.store) := by
  rw [Lexical.functionBody]
  refine withChild_agree h fun scope hs hframe => ?_
  replace hframe : scope.frame = .empty (env.ambient.inFunction entity) := hframe
  rw [← hframe]
  refine .bind (declareParams_agree params signature.params (h.push hs [] s.store).sees)
    fun entities t r σ hr => ?_
  obtain ⟨frame, entities'⟩ := r
  obtain ⟨rfl, names, hnames, rfl⟩ := hr
  obtain rfl : frame = scope.frame.extend names := hnames
  have hs' : (scope.extend names).parent = some id := hs
  -- The parameters are in the last scope, and the scope around it is as it was.
  rw [State.push_advance_size]
  refine .bind (declareMethod_agree owner name signature span) fun _ t _ τ hr => ?_
  subst hr
  -- The name of the function goes into the scope around while the last one is open.
  have hsees : ((s.advance id [] τ).push (scope.extend names)).arena.Sees id env.frames :=
    (h.advance [] τ).sees.of_push
  refine .declare (s := (s.advance id [] τ).push (scope.extend names)) hsees fun binding => ?_
  rw [State.push_advance_of_lt _ _ _ _ _ _ h.sees.lt_size]
  refine .bind (checkBlock_agree hbody h hs' [binding] τ)
    fun b t c υ hr => ?_
  obtain ⟨rfl, last, rfl⟩ := hr
  exact .ok ⟨rfl, last, rfl⟩

theorem checkFunction_agree {decl : FnDecl Stmt} (hbody : ∀ x ∈ decl.body.body, x.CheckedLexically)
    (owner : Option ClassRef) (h : Mirrors s id env) :
    Agree (fun f t r σ => f = r.1 ∧ t = s.advance id [r.2] σ)
      (checkFunction owner id decl s) (Lexical.function owner env decl s.store) := by
  obtain ⟨name, params, result, body, span⟩ := decl
  rw [checkFunction, Lexical.function]
  refine .reads (convertResult_reads h result) fun result => ?_
  refine .reads (convertParams_reads h params) fun tys => .newEntity fun entity => ?_
  exact functionBody_agree (s := s.fresh) hbody owner name params ⟨tys, result⟩ entity span
    ⟨h.sees, h.level, h.limit⟩

theorem checkMethods_agree {decls : List (FnDecl Stmt)} (cls : ClassRef)
    (hdecls : ∀ f ∈ decls, ∀ x ∈ f.body.body, x.CheckedLexically) (h : Mirrors s id env) :
    Agree (fun fs t gs σ => fs = gs ∧ ∃ names, t = s.advance id names σ)
      (checkMethods cls id decls s) (Lexical.methods cls env decls s.store) := by
  induction decls generalizing s env with
  | nil =>
    rw [checkMethods, Lexical.methods]
    exact .ok ⟨rfl, [], (s.advance_nil_store id).symm⟩
  | cons decl decls ih =>
    rw [checkMethods, Lexical.methods]
    refine .bind (checkFunction_agree (hdecls decl List.mem_cons_self) (some cls) h)
      fun f t r σ hr => ?_
    obtain ⟨g, binding⟩ := r
    obtain ⟨rfl, rfl⟩ := hr
    have ih := ih (fun f hf => hdecls f (List.mem_cons_of_mem _ hf)) (h.advance [binding] σ)
    refine .bind ih fun fs t gs τ hr => ?_
    obtain ⟨rfl, names, rfl⟩ := hr
    exact .ok ⟨rfl, names ++ [binding], State.advance_advance ..⟩

/-- The constructor of a class, in its own scope inside that of the class. -/
theorem constructor_agree {body : Block Stmt} (hbody : ∀ x ∈ body.body, x.CheckedLexically)
    (params : List Param) (tys : List Ty) (ctor : Entity) (h : Mirrors s id env) :
    Agree (fun r t q σ => r = q ∧ t = s.advance id [] σ)
      (Check.withChild id { inLoop := some false, function := some ctor } (fun inner => do
        let params ← declareParams inner params tys
        let body ← checkBlock inner body
        return (params, body)) s)
      (Lexical.ctorBody env ctor params tys (fun inner => Lexical.block inner body) s.store) := by
  rw [Lexical.ctorBody]
  refine withChild_agree h fun scope hs hframe => ?_
  replace hframe : scope.frame = .empty (env.ambient.inFunction ctor) := hframe
  rw [← hframe]
  refine .bind (declareParams_agree params tys (h.push hs [] s.store).sees)
    fun entities t r σ hr => ?_
  obtain ⟨frame, entities'⟩ := r
  obtain ⟨rfl, names, hnames, rfl⟩ := hr
  obtain rfl : frame = scope.frame.extend names := hnames
  have hs' : (scope.extend names).parent = some id := hs
  rw [State.push_advance_size]
  refine .bind (checkBlock_agree hbody h hs' [] σ)
    fun b t c τ hr => ?_
  obtain ⟨rfl, last, rfl⟩ := hr
  exact .ok ⟨rfl, last, rfl⟩

/-- The part of a class that is checked in its own scope. -/
theorem classBody_agree {body : Block Stmt} {methods : List (FnDecl Stmt)}
    (hbody : ∀ x ∈ body.body, x.CheckedLexically)
    (hmethods : ∀ f ∈ methods, ∀ x ∈ f.body.body, x.CheckedLexically)
    (cls : ClassRef) (name : String) (params : List Param) (h : Mirrors s id env) :
    Agree (fun r t q σ => r = q ∧ t = s.advance id [] σ)
      (Check.withChild id { cls := some cls } (fun inside => do
        let tys ← convertParams inside params
        let signature : Signature := ⟨tys, .none⟩
        Check.setCtor cls signature
        let ctor ← Check.newEntity (.function name signature)
        let (params, body) ←
          Check.withChild inside { inLoop := some false, function := some ctor } fun inner => do
            let params ← declareParams inner params tys
            let body ← checkBlock inner body
            return (params, body)
        let methods ← checkMethods cls inside methods
        return (ctor, params, body, methods)) s)
      (Lexical.classBody env cls name params (fun inner => Lexical.block inner body)
        (fun inside => Lexical.methods cls inside methods) s.store) := by
  rw [Lexical.classBody]
  refine withChild_agree h fun scope hs hframe => ?_
  replace hframe : scope.frame = .empty (env.ambient.inClass cls) := hframe
  rw [← hframe]
  -- The inside of the class is seen in the same way whatever the store holds by then.
  have hinside (σ : Store) : Mirrors ((s.advance id [] σ).push scope) s.arena.size
      (env.push scope.frame) := h.push hs [] σ
  refine .reads (convertParams_reads (hinside s.store) params) fun tys => ?_
  refine .setCtor (.newEntity fun ctor => ?_)
  refine .bind (constructor_agree hbody params tys ctor (hinside
    ⟨s.classes.setCtor cls ⟨tys, .none⟩, s.nextEntity + 1⟩)) fun r t q σ hr => ?_
  obtain ⟨entities, body⟩ := q
  obtain ⟨rfl, ht⟩ := hr
  replace ht := ht.trans (State.push_advance_size s id [] scope [] _ σ)
  subst ht
  refine .bind (checkMethods_agree cls hmethods (hinside σ)) fun fs t gs τ hr => ?_
  obtain ⟨rfl, names, rfl⟩ := hr
  exact .ok ⟨rfl, _, State.push_advance_size ..⟩

theorem checkClass_agree {decl : ClassDecl Stmt} (hbody : ∀ x ∈ decl.body.body, x.CheckedLexically)
    (hmethods : ∀ f ∈ decl.methods, ∀ x ∈ f.body.body, x.CheckedLexically)
    (h : Mirrors s id env) :
    Agree (fun c t r σ => c = r.1 ∧ t = s.advance id [r.2] σ)
      (checkClass id decl s) (Lexical.classDecl env decl s.store) := by
  obtain ⟨name, params, body, ctorSpan, methods, span⟩ := decl
  rw [checkClass, Lexical.classDecl]
  refine .newClass fun cls => ?_
  have hnew : Mirrors { s with classes := (s.classes.add name).1 } id env :=
    ⟨h.sees, h.level, h.limit⟩
  refine .bind (classBody_agree hbody hmethods cls name params hnew) fun r t q σ hr => ?_
  obtain ⟨ctor, entities, body, methods⟩ := q
  obtain ⟨rfl, rfl⟩ := hr
  -- The name of the class is declared last, so nothing inside the class sees it.
  have hlast := h.advance [] σ
  refine .newEntity (s := s.advance id [] σ) fun entity => ?_
  refine .declare (s := (s.advance id [] σ).fresh) hlast.sees fun binding => ?_
  exact .ok ⟨rfl, s.advance_advance id [] [binding] σ _⟩

theorem checkBranches_agree {branches : List (Branch Expr Stmt)}
    (hbranches : ∀ b ∈ branches, ∀ x ∈ b.body.body, x.CheckedLexically) (h : Mirrors s id env) :
    Agree (fun bs t cs σ => bs = cs ∧ t = s.advance id [] σ)
      (checkBranches id branches s) (Lexical.branches env branches s.store) := by
  induction branches generalizing s env with
  | nil =>
    rw [checkBranches, Lexical.branches]
    exact .ok ⟨rfl, (s.advance_nil_store id).symm⟩
  | cons branch branches ih =>
    obtain ⟨test, body⟩ := branch
    rw [checkBranches, Lexical.branches]
    refine .reads (checkExpr_reads test h) fun test => .reads (.of_rule ..) fun _ => ?_
    refine .bind (checkInner_agree (hbranches _ List.mem_cons_self) h {}) fun b t c σ hr => ?_
    obtain ⟨rfl, rfl⟩ := hr
    have ih := ih (fun b hb => hbranches b (List.mem_cons_of_mem _ hb)) (h.advance [] σ)
    refine .bind ih fun bs t cs τ hr => ?_
    obtain ⟨rfl, rfl⟩ := hr
    exact .ok ⟨rfl, State.advance_advance ..⟩

theorem checkAlternate_agree {alternate : Option (Block Stmt)}
    (halternate : ∀ b ∈ alternate, ∀ x ∈ b.body, x.CheckedLexically) (h : Mirrors s id env) :
    Agree (fun b t c σ => b = c ∧ t = s.advance id [] σ)
      (checkAlternate id alternate s) (Lexical.alternate env alternate s.store) := by
  cases alternate with
  | none =>
    rw [checkAlternate, Lexical.alternate]
    exact .ok ⟨rfl, (s.advance_nil_store id).symm⟩
  | some body =>
    rw [checkAlternate, Lexical.alternate]
    refine .bind (checkInner_agree (halternate body rfl) h {}) fun b t c σ hr => ?_
    obtain ⟨rfl, rfl⟩ := hr
    exact .ok ⟨rfl, rfl⟩

/-- The body of a loop, in a scope of its own that has the loop variable. -/
theorem loopBody_agree {body : Block Stmt} (hbody : ∀ x ∈ body.body, x.CheckedLexically)
    (name : String) (ty : Ty) (span : Span) (h : Mirrors s id env) :
    Agree (fun r t q σ => r = q ∧ t = s.advance id [] σ)
      (Check.withChild id { inLoop := some true } (fun inner => do
        let entity ← Check.newEntity (.var name ty)
        Check.declare inner name entity span
        let body ← checkBlock inner body
        return (entity, body)) s)
      (Lexical.loopBody env name ty (fun inner => Lexical.block inner body) s.store) := by
  rw [Lexical.loopBody]
  refine withChild_agree h fun scope hs hframe => .newEntity fun entity => ?_
  have hsees := (h.push hs [] s.fresh.store).sees
  -- Nothing else is declared in the new scope, so the name is free.
  replace hframe : scope.frame = .empty env.ambient.loop := hframe
  simp only [Env.frames, Env.push, hframe] at hsees
  refine .declare_empty hsees ?_
  have hs' : (scope.extend [(name, entity)]).parent = some id := hs
  have hbody := checkBlock_agree hbody h hs' [] s.fresh.store
  rw [Scope.frame_extend, hframe] at hbody
  rw [State.push_advance_size]
  refine .bind hbody fun b t c σ hr => ?_
  obtain ⟨rfl, last, rfl⟩ := hr
  exact .ok ⟨rfl, last, rfl⟩

/-! ### Statements and programs -/

/-- **Statements are checked lexically**: the two checkers agree on every
statement. -/
theorem checkStmt_agree (x : Stmt) : x.CheckedLexically := by
  intro s id env h
  -- A statement advances the scope at hand by the binding that the lexical checker
  -- hands back, and by no name where it hands back none.
  induction x generalizing s id env with
  | var name typeExpr value span =>
    rw [checkStmt, Lexical.stmt]
    refine .nested h fun env' h' => .reads (checkExpr_reads value h') fun v => ?_
    refine .reads (variableType_reads h' typeExpr v) fun ty => .newEntity fun entity => ?_
    refine .declare (s := s.deeper.fresh) h'.sees fun binding => ?_
    exact .ok ⟨rfl, rfl⟩
  | function decl ih =>
    rw [checkStmt, Lexical.stmt]
    refine .nested h fun env' h' => .bind (checkFunction_agree ih none h') fun f t r σ hr => ?_
    obtain ⟨g, binding⟩ := r
    obtain ⟨rfl, rfl⟩ := hr
    exact .ok ⟨rfl, rfl⟩
  | classDecl decl ihb ihm =>
    rw [checkStmt, Lexical.stmt]
    refine .nested h fun env' h' => .bind (checkClass_agree ihb ihm h') fun c t r σ hr => ?_
    obtain ⟨d, binding⟩ := r
    obtain ⟨rfl, rfl⟩ := hr
    exact .ok ⟨rfl, rfl⟩
  | field typeExpr name value span =>
    rw [checkStmt, Lexical.stmt]
    refine .nested h fun env' h' => .scope h' fun scope hframe => ?_
    have hcls : scope.cls = env'.ambient.cls := congrArg (·.ambient.cls) hframe
    rw [hcls]
    refine .reads (.require ..) fun cls => .reads (checkExpr_reads value h') fun v => ?_
    refine .reads (convert_reads h' typeExpr) fun ty => .reads (.of_rule ..) fun _ => ?_
    refine .addField fun classes => .newEntity fun entity => ?_
    refine .declare (s := State.fresh { s.deeper with classes }) h'.sees fun binding => ?_
    exact .ok ⟨rfl, rfl⟩
  | assign target value span =>
    rw [checkStmt, Lexical.stmt]
    refine .nested h fun env' h' => .reads (checkExpr_reads value h') fun v => ?_
    refine .reads (checkExpr_reads target h') fun e => .reads (.of_rule ..) fun _ => ?_
    exact .ok ⟨rfl, (State.advance_nil_store ..).symm⟩
  | print value span =>
    rw [checkStmt, Lexical.stmt]
    refine .nested h fun env' h' => .reads (checkExpr_reads value h') fun v => ?_
    exact .ok ⟨rfl, (State.advance_nil_store ..).symm⟩
  | expr value span =>
    rw [checkStmt, Lexical.stmt]
    refine .nested h fun env' h' => .reads (checkExpr_reads value h') fun v => ?_
    exact .ok ⟨rfl, (State.advance_nil_store ..).symm⟩
  | ifElse branches alternate span ihb iha =>
    rw [checkStmt, Lexical.stmt]
    refine .nested h fun env' h' => .bind (checkBranches_agree ihb h') fun bs t cs σ hr => ?_
    obtain ⟨rfl, rfl⟩ := hr
    refine .bind (checkAlternate_agree iha (h'.advance [] σ)) fun b t c τ hr => ?_
    obtain ⟨rfl, rfl⟩ := hr
    exact .ok ⟨rfl, State.advance_advance ..⟩
  | whileLoop test body span ih =>
    rw [checkStmt, Lexical.stmt]
    refine .nested h fun env' h' => .reads (checkExpr_reads test h') fun e => ?_
    refine .reads (.of_rule ..) fun _ => .bind (checkInner_agree ih h' _) fun b t c σ hr => ?_
    obtain ⟨rfl, rfl⟩ := hr
    exact .ok ⟨rfl, rfl⟩
  | forLoop name start stop body span ih =>
    rw [checkStmt, Lexical.stmt]
    refine .nested h fun env' h' => .reads (checkExpr_reads start h') fun e => ?_
    refine .reads (.of_rule ..) fun _ => .reads (checkExpr_reads stop h') fun e' => ?_
    refine .reads (.of_rule ..) fun _ => .bind (loopBody_agree ih name .int span h')
      fun r t q σ hr => ?_
    obtain ⟨entity, body⟩ := q
    obtain ⟨rfl, rfl⟩ := hr
    exact .ok ⟨rfl, rfl⟩
  | forEach name typeExpr iterable body span ih =>
    rw [checkStmt, Lexical.stmt]
    refine .nested h fun env' h' => .reads (checkExpr_reads iterable h') fun e => ?_
    refine .reads (loopVariableType_reads h' typeExpr e) fun ty => ?_
    refine .bind (loopBody_agree ih name ty span h') fun r t q σ hr => ?_
    obtain ⟨entity, body⟩ := q
    obtain ⟨rfl, rfl⟩ := hr
    exact .ok ⟨rfl, rfl⟩
  | breakLoop span =>
    rw [checkStmt, Lexical.stmt]
    refine .nested h fun env' h' => .scope h' fun scope hframe => ?_
    have hloop : scope.inLoop = env'.ambient.inLoop := congrArg (·.ambient.inLoop) hframe
    rw [hloop]
    cases env'.ambient.inLoop with
    | true => exact .ok ⟨rfl, (State.advance_nil_store ..).symm⟩
    | false => exact .error
  | ret value span =>
    rw [checkStmt, Lexical.stmt]
    refine .nested h fun env' h' => .scope h' fun scope hframe => ?_
    have hfn : scope.function = env'.ambient.function := congrArg (·.ambient.function) hframe
    rw [hfn]
    refine .reads (.require ..) fun f => .reads (checkReturn_reads h' f value span) fun v => ?_
    exact .ok ⟨rfl, (State.advance_nil_store ..).symm⟩

/-- What the top level of a program sees when a check begins. -/
theorem Lexical.mirrors_initial (limit : Nat) :
    Mirrors (.initial limit) Arena.root (.root limit) :=
  ⟨Arena.sees_initial, rfl, rfl⟩

/-- The two checkers agree on the statements of a program. -/
theorem checkStmts_initial_agree (limit : Nat) (xs : List Stmt) :
    Agree (fun ys t zs σ => ys = zs ∧ ∃ names, t = (State.initial limit).advance Arena.root names σ)
      (checkStmts Arena.root xs (.initial limit))
      (Lexical.stmts (.root limit) xs ⟨.empty, builtInEntities.length⟩) :=
  checkStmts_agree (fun x _ => checkStmt_agree x) (Lexical.mirrors_initial limit)

/-- **Numbered scopes are lexical scoping**: on every program and for every limit,
the checker and the lexical checker give the same checked program, or fail with the
same diagnostic at the same position. In particular the checker never looks for a
scope that is not there. -/
theorem checkProgram_eq_lexical (limit : Nat) (p : Program) :
    checkProgram limit p = (Lexical.program limit p).mapError Failure.refused := by
  rw [checkProgram, Lexical.program]
  rcases (checkStmts_initial_agree limit p.body).cases with
    ⟨ys, t, zs, σ, hx, hy, rfl, names, rfl⟩ | ⟨d, t, σ, hx, hy⟩
  · rw [hx, hy]
    rfl
  · rw [hx, hy]
    rfl

end Shipshape
