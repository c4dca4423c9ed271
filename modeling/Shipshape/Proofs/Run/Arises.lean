import Shipshape.Proofs.Run.Comes
import Shipshape.Proofs.Run.Stmt
import Shipshape.Proofs.Scope.Bounds

/-!
# The states that arise in a check

What holds of every state in which the check of a program comes to a statement or an expression
(`Shipshape.State.Arises`).

* `Shipshape.Reaches.founded` – steps keep the numbers of scopes leading outwards;
* `Shipshape.Stmt.Way.opens` – the way to a block is made of steps, and ends where the scope
  of the block sees an environment;
* `Shipshape.State.Arises.reaches` – so a state that arises is reached by steps from the initial
  one;
* `Shipshape.State.Arises.sound`, `Shipshape.State.Arises.exists_mirrors` – it is sound, and
  each of its scopes sees an environment.

Between two statements the invariant is that the check came by steps and that the scope at hand
is open. A statement that is accepted keeps it by its outcome
(`Shipshape.checkStmt_outcome`); on the way to a block it is carried over one operation after
another.
-/

namespace Shipshape

open Lexical (Env Mirrors)
open Check (Yields)

/-! ### Steps -/

theorem Reaches.deeper (s : State) : Reaches s s.deeper := .single (.depth _)

namespace Arena

variable {a b : Arena} {id new : ScopeId}

theorem lt_size_of_get {scope : Scope} (h : a.get id = .ok scope) : id < a.size := by
  rw [get] at h
  split at h
  · next hs => exact (List.getElem?_eq_some_iff.mp hs).1
  · cases h

theorem lt_size_of_declare {name : String} {entity : Entity} {span : Span}
    (h : a.declare id name entity span = .ok b) : id < a.size := by
  rw [declare] at h
  split at h
  · cases h
  · next hget => exact lt_size_of_get hget

theorem lt_size_of_child {changes : Overrides} (h : a.child id changes = .ok (b, new)) :
    id < a.size := by
  rw [child] at h
  split at h
  · cases h
  · next hget => exact lt_size_of_get hget

end Arena

/-- **The numbers of scopes keep leading outwards**, in one step. -/
theorem Step.founded {s t : State} (h : Step s t) (hs : s.arena.Founded) : t.arena.Founded := by
  cases h with
  | depth | newEntity | addField | addMethod => exact hs
  | declare hdeclare _ =>
    have hlive := Arena.Live.mk hs.wellFormed (Arena.lt_size_of_declare hdeclare)
    exact (hlive.declare_retains hdeclare).founded hs
  | openScope hopen _ | enterClass hopen _ =>
    have hlive := Arena.Live.mk hs.wellFormed (Arena.lt_size_of_child hopen)
    exact (hlive.child_retains hopen).founded hs
  | closeScope id => exact hs.leave id

theorem Reaches.founded {s t : State} (h : Reaches s t) (hs : s.arena.Founded) :
    t.arena.Founded := by
  induction h with
  | refl => exact hs
  | tail _ hstep ih => exact hstep.founded ih

/-! ### What holds where a block begins -/

variable {s : State} {id : ScopeId} {env : Env}

/-- **A scope is open**: from the state `s` the check came by steps to a state in which the
scope sees some environment. -/
def Opens (s : State) (inner : ScopeId) (t : State) : Prop :=
  Reaches s t ∧ ∃ env, Mirrors t inner env

theorem Opens.trans {t u : State} {inner : ScopeId} (h : Reaches s t) (h' : Opens t inner u) :
    Opens s inner u :=
  ⟨h.trans h'.1, h'.2⟩

theorem openScope_opens (h : Mirrors s id env) (changes : Overrides)
    (hchanges : changes.cls = none) : Yields (Check.openScope id changes) s (Opens s) := by
  rw [← bind_pure (Check.openScope id changes)]
  refine .openScope h fun scope hparent hframe hchild => .pure ?_
  exact ⟨.single (.openScope hchild hchanges), _, h.opened hparent⟩

theorem loopHead_opens (h : Mirrors s id env) (name : String) {ty : Ty} (hty : ty.Settled)
    (span : Span) : Yields (loopHead id name ty span) s (Opens s) := by
  rw [loopHead]
  refine .openScope h fun scope hparent hframe hchild => .newEntity fun n => ?_
  have hopen : Reaches s (s.push scope).fresh :=
    .trans (.single (.openScope hchild rfl)) (.single .newEntity)
  have hinner := (h.opened hparent).fresh
  refine .declare hinner.sees (.of_value rfl rfl hty) fun hstep => .pure ?_
  exact ⟨hopen.trans (.single hstep), _, hinner.advance _ _⟩

/-- What holds where the constructor of a class comes next. -/
structure ClassHead (s : State) (params : List Param) (r : ClassRef × ScopeId × List Ty × Entity)
    (t : State) : Prop where
  /-- The check took steps. -/
  reaches : Reaches s t
  /-- Each parameter has a type. -/
  length : r.2.2.1.length = params.length
  /-- The types of the parameters are settled. -/
  settled : ∀ ty ∈ r.2.2.1, ty.Settled
  /-- The scope of the class is open, and lies in the class. -/
  inside : ∃ env, Mirrors t r.2.1 env ∧ env.ambient.cls = some r.1

theorem classHead_yields (h : Mirrors s id env) (hs : s.Sound) (name : String)
    (params : List Param) : Yields (classHead id name params) s (ClassHead s params) := by
  rw [classHead]
  refine .newClass ?_
  have hnew : Mirrors { s with classes := (s.classes.add name).1 } id env :=
    ⟨h.sees, h.level, h.limit⟩
  refine .openScope hnew fun scope hparent hframe hchild => ?_
  replace hframe : scope.frame = .empty (env.ambient.inClass ⟨s.classes.size, name⟩) := hframe
  have hinside := hnew.opened hparent
  rw [hframe] at hinside
  refine .reads (convertParams_reads hinside params) fun tys htys => ?_
  have hlen : tys.length = params.length := by simpa using Lexical.length_convertList htys
  replace htys := ((hs.sees h).push_empty _).settled_convertParams htys
  refine .setCtor ?_
  -- Making the class, opening its scope and setting its constructor are one step.
  show Yields _ { s with
    arena := s.arena.push scope
    classes := (s.classes.add name).1.setCtor (s.classes.add name).2 ⟨tys, .none⟩ } _
  rw [ClassTable.setCtor_add]
  have hsig : (Signature.mk tys .none).toTy.Settled := .function htys (.scalar (by decide))
  have henter : Reaches s { s with
      arena := s.arena.push scope, classes := s.classes.enter name ⟨tys, .none⟩ } :=
    .single (.enterClass hchild hsig)
  refine .newEntity fun n => .pure ⟨henter.trans (.single .newEntity), hlen, htys, ?_⟩
  exact ⟨_, ⟨hinside.sees, hinside.level, hinside.limit⟩, rfl⟩

theorem ctorHead_opens {params : List Param} {tys : List Ty} (hlen : tys.length = params.length)
    (htys : ∀ ty ∈ tys, ty.Settled) (ctor : Entity) (h : Mirrors s id env) :
    Yields (ctorHead id params tys ctor) s (Opens s) := by
  rw [ctorHead]
  refine .openScope h fun scope hparent hframe hchild => ?_
  have hopen : Reaches s (s.push scope) := .single (.openScope hchild rfl)
  have hinner := h.opened hparent
  refine .bind (declareParams_outcome hlen htys hinner.sees) fun es t ht => .pure ?_
  obtain ⟨hreach, -, -, names, m, rfl⟩ := ht
  exact ⟨hopen.trans hreach, _, hinner.advance names _⟩

/-! After a part of a statement that leaves its scope, the scope around sees what it saw, with
new names at most. -/

theorem checkCtor_yields {params : List Param} {tys : List Ty}
    (hlen : tys.length = params.length) (htys : ∀ ty ∈ tys, ty.Settled) (ctor : Entity)
    (body : Block Stmt) (h : Mirrors s id env) (hs : s.Sound) :
    Yields (checkCtor id params tys ctor body) s fun _ t => Reaches s t ∧ Mirrors t id env := by
  have hruns : ∀ x ∈ body.body, x.Runs := fun x _ => checkStmt_outcome x
  have hagree : ∀ x ∈ body.body, x.CheckedLexically := fun x _ => checkStmt_agree x
  refine ((constructor_outcome hruns hlen htys ctor h hs).and
    (.of_agree (constructor_agree hagree params tys ctor h))).mono fun r t hr => ?_
  obtain ⟨⟨-, -, hctor⟩, -, σ, -, rfl⟩ := hr
  exact ⟨hctor.reaches, h.advance [] σ⟩

theorem checkMethods_yields {cls : ClassRef} (decls : List (FnDecl Stmt))
    (hcls : env.ambient.cls = some cls) (h : Mirrors s id env) (hs : s.Sound) :
    Yields (checkMethods cls id decls) s fun _ t =>
      Reaches s t ∧ ∃ names, Mirrors t id (env.extend names) := by
  have hruns : ∀ f ∈ decls, ∀ x ∈ f.body.body, x.Runs := fun _ _ x _ => checkStmt_outcome x
  have hagree : ∀ f ∈ decls, ∀ x ∈ f.body.body, x.CheckedLexically :=
    fun _ _ x _ => checkStmt_agree x
  refine ((checkMethods_outcome hruns hcls h hs).and
    (.of_agree (checkMethods_agree cls hagree h))).mono fun fs t hfs => ?_
  obtain ⟨hfs, -, σ, -, names, rfl⟩ := hfs
  exact ⟨hfs.reaches, names, h.advance names σ⟩

theorem checkBranches_yields (branches : List (Branch Expr Stmt)) (h : Mirrors s id env)
    (hs : s.Sound) :
    Yields (checkBranches id branches) s fun _ t => Reaches s t ∧ Mirrors t id env := by
  have hruns : ∀ b ∈ branches, ∀ x ∈ b.body.body, x.Runs := fun _ _ x _ => checkStmt_outcome x
  have hagree : ∀ b ∈ branches, ∀ x ∈ b.body.body, x.CheckedLexically :=
    fun _ _ x _ => checkStmt_agree x
  refine ((checkBranches_outcome hruns h hs).and (.of_agree (checkBranches_agree hagree h))).mono
    fun bs t hbs => ?_
  obtain ⟨⟨hbs, -⟩, -, σ, -, rfl⟩ := hbs
  exact ⟨hbs.reaches, h.advance [] σ⟩

theorem checkStmt_yields (x : Stmt) (h : Mirrors s id env) (hs : s.Sound) :
    Yields (checkStmt id x) s fun _ t => Opens s id t := by
  refine ((checkStmt_outcome x h hs).and (.of_agree (checkStmt_agree x h))).mono fun y t hy => ?_
  obtain ⟨hy, ⟨_, binding⟩, σ, -, rfl⟩ := hy
  exact ⟨hy.reaches, _, h.advance binding.toList σ⟩

/-- **Where a block is entered its scope is open**, after steps. -/
theorem Stmt.Way.opens {x : Stmt} {m : Check ScopeId} {xs : List Stmt} (hx : x.Way id m xs)
    (h : Mirrors s id env) (hs : s.Sound) : Yields m s (Opens s) := by
  cases hx with
  | function name params result body span =>
    have howner : ∀ c ∈ none, env.ambient.cls = some c := fun _ hc => nomatch hc
    refine .bind (functionHead_outcome howner name params result span h hs) fun r t hr => .pure ?_
    obtain ⟨inner, hinner, -⟩ := hr.opens
    exact ⟨hr.reaches, inner, hinner⟩
  | ctor name params body ctorSpan methods span =>
    refine .bind (classHead_yields h hs name params) fun r t hr => ?_
    obtain ⟨_, hinside, -⟩ := hr.inside
    exact (ctorHead_opens hr.length hr.settled r.2.2.2 hinside).mono fun _ _ hopen =>
      .trans hr.reaches hopen
  | method name params body ctorSpan before f after span =>
    refine .bind (classHead_yields h hs name params) fun r t hr => ?_
    obtain ⟨inner, hinside, hcls⟩ := hr.inside
    have hclass := hr.reaches
    refine .bind (checkCtor_yields hr.length hr.settled r.2.2.2 body hinside (hclass.sound hs))
      fun _ u hu => ?_
    obtain ⟨hreach, hinside⟩ := hu
    replace hclass := hclass.trans hreach
    refine .bind (checkMethods_yields before hcls hinside (hclass.sound hs)) fun _ v hv => ?_
    obtain ⟨hreach, names, hinside⟩ := hv
    replace hclass := hclass.trans hreach
    have howner : ∀ c ∈ some r.1, (inner.extend names).ambient.cls = some c :=
      fun c hc => hcls.trans hc
    refine .bind (functionHead_outcome howner f.name f.params f.result f.span hinside
      (hclass.sound hs)) fun q w hq => .pure ?_
    obtain ⟨inner, hinner, -⟩ := hq.opens
    exact ⟨hclass.trans hq.reaches, inner, hinner⟩
  | branch before test body after alternate span =>
    refine .bind (checkBranches_yields before h hs) fun _ t ht => ?_
    obtain ⟨hreach, h⟩ := ht
    refine .reads (checkExpr_reads test h) fun _ _ => .reads (.of_rule ..) fun _ _ => ?_
    exact (openScope_opens h {} rfl).mono fun _ _ hopen => .trans hreach hopen
  | alternate branches body span =>
    refine .bind (checkBranches_yields branches h hs) fun _ t ht => ?_
    obtain ⟨hreach, h⟩ := ht
    exact (openScope_opens h {} rfl).mono fun _ _ hopen => .trans hreach hopen
  | whileLoop test body span =>
    refine .reads (checkExpr_reads test h) fun _ _ => .reads (.of_rule ..) fun _ _ => ?_
    exact openScope_opens h _ rfl
  | forLoop name start stop body span =>
    refine .reads (checkExpr_reads start h) fun _ _ => .reads (.of_rule ..) fun _ _ => ?_
    refine .reads (checkExpr_reads stop h) fun _ _ => .reads (.of_rule ..) fun _ _ => ?_
    exact loopHead_opens h name (.scalar (by decide)) span
  | forEach name typeExpr iterable body span =>
    refine .reads (checkExpr_reads iterable h) fun e he => ?_
    refine .reads (loopVariableType_reads h typeExpr e) fun ty hty => ?_
    replace he := Lexical.expr_fits iterable (hs.sees h) he
    obtain ⟨hsettled, -⟩ :=
      Lexical.loopVariableType_settled (hs.sees h) (he.grounded hs.settled).self hty
    exact loopHead_opens h name hsettled span

/-! ### What holds wherever a check comes to -/

variable {limit : Nat} {p : Program}

/-- **Where the check of a program comes to statements, it came by steps**, and the scope of
the statements is open. -/
theorem Program.Comes.opens {xs : List Stmt} (h : p.Comes limit id xs s) :
    Opens (.initial limit) id s := by
  induction h with
  | start => exact ⟨.refl _, _, Lexical.mirrors_initial limit⟩
  | next _ hrun ih =>
    obtain ⟨hreach, env, henv⟩ := ih
    have hs := hreach.sound (State.sound_initial limit)
    exact .trans hreach (checkStmt_yields _ henv hs _ _ hrun)
  | enter _ _ hway hrun ih =>
    obtain ⟨hreach, env, henv⟩ := ih
    have hdown := hreach.trans (.deeper _)
    have hs := hdown.sound (State.sound_initial limit)
    exact .trans hdown (hway.opens henv.deeper hs _ _ hrun)

/-- **Every state that arises is reached by steps.** -/
theorem State.Arises.reaches (h : s.Arises limit p) : Reaches (.initial limit) s := by
  induction h with
  | stmts hcomes => exact hcomes.opens.1
  | branch hcomes _ hrun =>
    obtain ⟨hreach, env, henv⟩ := hcomes.opens
    have hdown := hreach.trans (.deeper _)
    have hs := hdown.sound (State.sound_initial limit)
    exact hdown.trans (checkBranches_yields _ henv.deeper hs _ _ hrun).1
  | deeper _ _ ih => exact ih.trans (.deeper _)

/-- Every state that arises is sound. -/
theorem State.Arises.sound (h : s.Arises limit p) : s.Sound :=
  h.reaches.sound (State.sound_initial limit)

/-- **In every state that arises, each scope sees an environment.** -/
theorem State.Arises.exists_mirrors (h : s.Arises limit p) (hid : id < s.arena.size) :
    ∃ env, Mirrors s id env :=
  (Arena.Live.mk (h.reaches.founded Arena.founded_initial).wellFormed hid).exists_mirrors

end Shipshape
