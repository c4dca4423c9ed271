import Shipshape.Proofs.Checked.Declaration
import Shipshape.Proofs.Checked.Open
import Shipshape.Proofs.Frame.Stmt
import Shipshape.Proofs.Run.Yield

/-!
# What a successful check of statements establishes

* `Shipshape.Checked.Stmt.Fits` – one checked statement is as it should be;
* `Shipshape.Passes` – between two states, the check of a class declaration began and
  came back with a given class;
* `Shipshape.Outcome` – what the check of some statements establishes: its operations
  are steps, every statement in the result fits, every class in the result was passed,
  and the class at hand gained the fields that the result declares;
* `Shipshape.FunctionOutcome`, `Shipshape.ClassOutcome` – the same for a function or a
  method, and for a class.

An outcome is about the classes as they are in the end. A part that was checked early
keeps what was established about it, since classes only grow
(`Shipshape.Outcome.append`).

Blocks, functions and classes are treated here under the assumption that the
statements in them run as they should (`Shipshape.Stmt.Runs`);
`Shipshape.Proofs.Run.Stmt` discharges it.
-/

namespace Shipshape

open Lexical (Frame Env Mirrors Store)
open Check (Yields)

/-! ### One statement of a result -/

/-- **What holds of every checked statement**: it is well typed, its expressions are
at every node, and what it declares is settled. -/
structure Checked.Stmt.Fits (classes : ClassTable) (a : Ambient) (x : Checked.Stmt) : Prop where
  /-- The local typing rule. -/
  typed : x.WellTyped classes a
  /-- The expressions directly below the statement. -/
  exprs : ∀ e ∈ x.exprs, e.Throughout (Checked.Expr.Fits classes a)
  /-- The entities that the statement declares. -/
  entities : ∀ e ∈ x.entities, e.Settled

theorem Checked.Stmt.Fits.mono {t u : ClassTable} {a : Ambient} {x : Checked.Stmt}
    (h : x.Fits t a) (hext : t.Extends u) : x.Fits u a :=
  ⟨h.typed.mono hext, fun e he => (h.exprs e he).mono fun _ hd => hd.mono hext, h.entities⟩

/-- **Between two states a class declaration was checked**: from the state `s` the
check came to the declaration of `c`, went through it, and went on to the state `t`.
When the declaration was through, the class had what it writes, and was sealed. -/
def Passes (s : State) (c : Checked.Class Checked.Stmt) (t : State) : Prop :=
  ∃ id decl u v, Reaches s u ∧ checkClass id decl u = .ok c v ∧
    c.Written (v.classes.info c.cls) ∧ v.Sealed c.cls ∧ Reaches v t

theorem Passes.extend {s s' t t' : State} {c : Checked.Class Checked.Stmt} (h : Passes s c t)
    (hs : Reaches s' s) (ht : Reaches t t') : Passes s' c t' := by
  obtain ⟨id, decl, u, v, hu, hrun, hwritten, hsealed, hv⟩ := h
  exact ⟨id, decl, u, v, hs.trans hu, hrun, hwritten, hsealed, hv.trans ht⟩

/-- **What is established about a statement of a result** that was checked between
two states. -/
structure Checked.Stmt.Stands (s t : State) (a : Ambient) (x : Checked.Stmt) : Prop where
  /-- The statement fits. -/
  fits : x.Fits t.classes a
  /-- If it is a class, the check passed it. -/
  passes : ∀ c, x = .classDecl c → Passes s c t

theorem Checked.Stmt.Stands.extend {s s' t t' : State} {a : Ambient} {x : Checked.Stmt}
    (h : x.Stands s t a) (hs : Reaches s' s) (ht : Reaches t t') : x.Stands s' t' a :=
  ⟨h.fits.mono ht.grows, fun c hc => (h.passes c hc).extend hs ht⟩

/-! ### Outcomes -/

/-- **What the check of some statements establishes**, from the state `s` to the
state `t`, in the surroundings `a`. -/
structure Outcome (a : Ambient) (s : State) (xs : List Checked.Stmt) (t : State) : Prop where
  /-- The check took steps. -/
  reaches : Reaches s t
  /-- Every statement in the result is as it should be. -/
  stands : ∀ x ∈ xs, x.Throughout (Checked.Stmt.Stands s t) a
  /-- The class at hand gained the fields that the result declares. -/
  gains : s.classes.Gains a.cls (Checked.stmtsFields xs) [] t.classes

namespace Outcome

variable {a : Ambient} {s s' t t' : State} {xs ys : List Checked.Stmt}

theorem nil (a : Ambient) (s : State) : Outcome a s [] s :=
  ⟨.refl s, fun _ hx => (nomatch hx), .refl s.classes a.cls⟩

/-- What was established about statements stays so between a state before and a state
after. -/
theorem stands_extend (h : Outcome a s xs t) (hs : Reaches s' s) (ht : Reaches t t') :
    ∀ x ∈ xs, x.Throughout (Checked.Stmt.Stands s' t') a :=
  fun x hx => (h.stands x hx).mono fun _ _ hd => hd.extend hs ht

/-- The outcomes of one check after another. -/
theorem append (h : Outcome a s xs t) (h' : Outcome a t ys t') : Outcome a s (xs ++ ys) t' := by
  refine ⟨h.reaches.trans h'.reaches, ?_, ?_⟩
  · exact List.forall_mem_append.mpr
      ⟨h.stands_extend (.refl s) h'.reaches, h'.stands_extend h.reaches (.refl t')⟩
  · rw [Checked.stmtsFields_append]
    exact h.gains.trans h'.gains

/-- Steps before and after that do not touch the classes. -/
theorem extend (h : Outcome a s xs t) (hs : Reaches s' s) (hclasses : s.classes = s'.classes)
    (ht : Reaches t t') (hclasses' : t'.classes = t.classes) : Outcome a s' xs t' := by
  refine ⟨(hs.trans h.reaches).trans ht, h.stands_extend hs ht, ?_⟩
  rw [← hclasses, hclasses']
  exact h.gains

end Outcome

/-! ### Scopes that were just opened -/

namespace State

/-- A declaration in the scope that was just opened. -/
theorem push_advance_last (s : State) (scope : Scope) (names : List (String × Entity))
    (σ : Store) :
    (s.push scope).advance s.arena.size names σ = (s.withStore σ).push (scope.extend names) := by
  simp only [advance, push, withStore, Arena.extend_push_size]

/-- A declaration in the scope around the one that was just opened. -/
theorem push_advance_outer (s : State) {id : ScopeId} (scope : Scope)
    (names : List (String × Entity)) (σ : Store) (h : id < s.arena.size) :
    (s.push scope).advance id names σ = (s.advance id names σ).push scope := by
  simp only [advance, push, Arena.extend_push_of_lt scope names h]

end State

variable {s : State} {id : ScopeId} {env : Env}

/-- What is seen does not depend on classes and identities. -/
theorem Lexical.Mirrors.withStore (h : Mirrors s id env) (σ : Store) :
    Mirrors (s.withStore σ) id env :=
  ⟨h.sees, h.level, h.limit⟩

theorem Lexical.Mirrors.fresh (h : Mirrors s id env) : Mirrors s.fresh id env :=
  ⟨h.sees, h.level, h.limit⟩

/-- What is seen from a scope that was just opened. -/
theorem Lexical.Mirrors.opened (h : Mirrors s id env) {scope : Scope}
    (hscope : scope.parent = some id) :
    Mirrors (s.push scope) s.arena.size (env.push scope.frame) := by
  have hpush := h.push hscope [] s.store
  rw [State.advance_nil_store] at hpush
  exact hpush

/-! ### Blocks -/

/-- The check of a statement has the outcome that it should have, in every sound
state. -/
def Stmt.Runs (x : Stmt) : Prop :=
  ∀ {s : State} {id : ScopeId} {env : Env}, Mirrors s id env → s.Sound →
    Yields (checkStmt id x) s fun y t => Outcome env.ambient s [y] t

theorem checkStmts_outcome {xs : List Stmt} (hxs : ∀ x ∈ xs, x.Runs) (h : Mirrors s id env)
    (hs : s.Sound) : Yields (checkStmts id xs) s fun ys t => Outcome env.ambient s ys t := by
  induction xs generalizing s env with
  | nil =>
    rw [checkStmts]
    exact .pure (.nil env.ambient s)
  | cons x xs ih =>
    rw [checkStmts]
    have hx := hxs x List.mem_cons_self h hs
    -- Which names the first statement leaves for the others, only the lexical checker
    -- says.
    refine .bind (hx.and (.of_agree (checkStmt_agree x h))) fun y t hy => ?_
    obtain ⟨hy, ⟨_, binding⟩, σ, -, rfl⟩ := hy
    have ih := ih (fun z hz => hxs z (List.mem_cons_of_mem _ hz)) (h.advance binding.toList σ)
      (hy.reaches.sound hs)
    exact .bind ih fun ys u hys => .pure (hy.append hys)

theorem checkBlock_outcome {body : Block Stmt} (hbody : ∀ x ∈ body.body, x.Runs)
    (h : Mirrors s id env) (hs : s.Sound) :
    Yields (checkBlock id body) s fun b t => Outcome env.ambient s b.body t := by
  obtain ⟨xs, span⟩ := body
  rw [checkBlock]
  exact .bind (checkStmts_outcome hbody h hs) fun ys t hys => .pure hys

/-- A block in a scope of its own. -/
theorem checkInner_outcome {body : Block Stmt} (hbody : ∀ x ∈ body.body, x.Runs)
    (h : Mirrors s id env) (hs : s.Sound) (changes : Overrides) (hchanges : changes.cls = none) :
    Yields (Check.withChild id changes fun inner => checkBlock inner body) s fun b t =>
      Outcome (changes.ambient env.ambient) s b.body t := by
  refine .withChild h fun scope hparent hframe hchild => ?_
  have hopen : Reaches s (s.push scope) := .single (.openScope hchild hchanges)
  refine (checkBlock_outcome hbody (h.opened hparent) (hopen.sound hs)).mono fun b t hb => ?_
  replace hb : Outcome scope.frame.ambient (s.push scope) b.body t := hb
  rw [hframe] at hb
  exact hb.extend hopen rfl (.single (.closeScope _)) rfl

/-- The body of a loop, in a scope of its own that has the loop variable. -/
theorem loopBody_outcome {body : Block Stmt} (hbody : ∀ x ∈ body.body, x.Runs)
    (name : String) {ty : Ty} (hty : ty.Settled) (span : Span) (h : Mirrors s id env)
    (hs : s.Sound) :
    Yields (Check.withChild id { inLoop := some true } (fun inner => do
        let entity ← Check.newEntity (.var name ty)
        Check.declare inner name entity span
        let body ← checkBlock inner body
        return (entity, body))) s fun r t =>
      r.1.binding = .var name ty ∧ Outcome env.ambient.loop s r.2.body t := by
  refine .withChild h fun scope hparent hframe hchild => .newEntity fun n => ?_
  have hopen : Reaches s (s.push scope).fresh :=
    .trans (.single (.openScope hchild rfl)) (.single .newEntity)
  have hinner : Mirrors (s.push scope).fresh s.arena.size (env.push scope.frame) :=
    (h.opened hparent).fresh
  refine .declare hinner.sees (.of_value rfl rfl hty) fun hstep => ?_
  have hbind := hopen.trans (.single hstep)
  refine .bind (checkBlock_outcome hbody (hinner.advance _ _) (hbind.sound hs)) fun b t hb => ?_
  refine .pure ⟨rfl, ?_⟩
  replace hb : Outcome scope.frame.ambient _ b.body t := hb
  rw [hframe] at hb
  exact hb.extend hbind rfl (.single (.closeScope _)) rfl

/-! ### Functions and methods -/

/-- Parameters are declared one after the other in their scope. -/
theorem declareParams_outcome {frame : Frame} {frames : List Frame} {params : List Param}
    {tys : List Ty} (hlen : tys.length = params.length) (htys : ∀ ty ∈ tys, ty.Settled)
    (h : s.arena.Sees id (frame :: frames)) :
    Yields (declareParams id params tys) s fun es t => Reaches s t ∧ Entity.AreParams es tys ∧
      (∀ e ∈ es, e.Settled) ∧ ∃ names n, t = s.advance id names ⟨s.classes, n⟩ := by
  induction params generalizing s frame tys with
  | nil =>
    obtain rfl := List.length_eq_zero_iff.mp hlen
    rw [declareParams.eq_def]
    refine .pure ⟨.refl s, .nil, fun _ he => (by cases he), [], s.nextEntity, ?_⟩
    exact (s.advance_nil_store id).symm
  | cons param params ih =>
    cases tys with
    | nil => cases hlen
    | cons ty tys =>
      obtain ⟨hty, htys⟩ := List.forall_mem_cons.mp htys
      rw [declareParams]
      refine .newEntity fun n => ?_
      refine .declare (s := s.fresh) h (.of_value rfl rfl hty) fun hstep => ?_
      have hfirst := Reaches.trans (.single .newEntity) (.single hstep)
      refine .bind (ih (Nat.succ.inj hlen) htys (h.extend _)) fun es t ht => ?_
      obtain ⟨hreach, hes, hsettled, names, m, rfl⟩ := ht
      refine .pure ⟨hfirst.trans hreach, .cons ⟨_, rfl⟩ hes, ?_, ?_⟩
      · exact List.forall_mem_cons.mpr ⟨.of_value rfl hty, hsettled⟩
      · exact ⟨_, m, State.advance_advance ..⟩

/-- A method is added to the class of the scope at hand. -/
theorem declareMethod_outcome {owner : Option ClassRef} {name : String} {signature : Signature}
    {span : Span} {scope : Scope} (hscope : scope ∈ s.arena.scopes)
    (howner : ∀ cls ∈ owner, scope.cls = some cls) (hs : s.Sound)
    (hsig : signature.toTy.Settled) :
    Yields (declareMethod owner name signature span) s fun _ t => Reaches s t ∧
      t = s.withStore ⟨t.classes, s.nextEntity⟩ ∧
      s.classes.Gains scope.cls [] (owner.toList.map fun _ => (name, signature)) t.classes ∧
      ∀ cls ∈ owner, (t.classes.info cls).method? name = some signature := by
  cases owner with
  | none => exact .pure ⟨.refl s, rfl, .refl _ _, fun _ hc => nomatch hc⟩
  | some cls =>
    have hcls : scope.cls = some cls := howner cls rfl
    intro u t ht
    simp only [declareMethod, Bind.bind, EStateM.bind, Check.addMethod] at ht
    cases hadd : s.classes.addMethod? cls name signature with
    | none =>
      rw [hadd] at ht
      cases ht
    | some classes =>
      rw [hadd] at ht
      cases ht
      have hgain := ClassTable.gains_of_addMethod? hadd
      obtain ⟨hfree, -⟩ := ClassTable.addMethod?_eq_some hadd
      refine ⟨.single (.addMethod hscope hcls hsig hadd), rfl, ?_, ?_⟩
      · rw [hcls]
        exact hgain
      · rintro _ ⟨⟩
        rw [hgain.info_self (hs.cls scope hscope cls hcls)]
        have hcallable := (hs.info cls).callable
        exact ClassInfo.method?_gain_self (hcallable.method?_eq_none_iff.mp hfree) signature

/-- **What the check of a function establishes**, or of a method of the class
`owner`. -/
structure FunctionOutcome (owner : Option ClassRef) (a : Ambient) (s : State)
    (f : Checked.Function Checked.Stmt) (t : State) : Prop where
  /-- The check took steps. -/
  reaches : Reaches s t
  /-- The function is well typed. -/
  typed : f.WellTyped
  /-- The function and its parameters are settled. -/
  settled : ∀ e ∈ f.entity :: f.params, e.Settled
  /-- Every statement of the body is as it should be. -/
  stands : ∀ x ∈ f.body.body, x.Throughout (Checked.Stmt.Stands s t) (a.inFunction f.entity)
  /-- The class at hand gained the fields of the body, and the method if this is
  one. -/
  gains : ∃ m, f.IsMethod m ∧
    s.classes.Gains a.cls (Checked.blockFields f.body) (owner.toList.map fun _ => m) t.classes ∧
    ∀ cls ∈ owner, (t.classes.info cls).method? m.1 = some m.2

/-- **What the part of a function before its body establishes**, or that of a method of the
class `owner`. -/
structure FunctionHeadOutcome (owner : Option ClassRef) (a : Ambient) (name : String) (s : State)
    (r : ScopeId × Entity × List Entity × Ty) (t : State) : Prop where
  /-- The check took steps. -/
  reaches : Reaches s t
  /-- The scope of the body is open. -/
  opens : ∃ inner, Mirrors t r.1 inner ∧ inner.ambient = a.inFunction r.2.1
  /-- The function and its parameters are settled. -/
  settled : ∀ e ∈ r.2.1 :: r.2.2.1, e.Settled
  /-- The function takes its parameters, and the class at hand gained it if it is a
  method. -/
  gains : ∃ tys, r.2.1.binding = .function name ⟨tys, r.2.2.2⟩ ∧ Entity.AreParams r.2.2.1 tys ∧
    s.classes.Gains a.cls [] (owner.toList.map fun _ => (name, ⟨tys, r.2.2.2⟩)) t.classes ∧
    ∀ cls ∈ owner, (t.classes.info cls).method? name = some ⟨tys, r.2.2.2⟩

theorem functionHead_outcome {owner : Option ClassRef}
    (howner : ∀ cls ∈ owner, env.ambient.cls = some cls) (name : String) (params : List Param)
    (result : Option TypeExpr) (span : Span) (h : Mirrors s id env) (hs : s.Sound) :
    Yields (functionHead owner id name params result span) s
      (FunctionHeadOutcome owner env.ambient name s) := by
  rw [functionHead]
  refine .reads (convertResult_reads h result) fun result hresult => ?_
  refine .reads (convertParams_reads h params) fun tys htys => .newEntity fun n => ?_
  have hlen : tys.length = params.length := by simpa using Lexical.length_convertList htys
  replace hresult := (hs.sees h).settled_convertResult hresult
  replace htys := (hs.sees h).settled_convertParams htys
  have hsig : (Signature.mk tys result).toTy.Settled := .function htys hresult
  refine .openScope h.fresh fun scope hparent hframe hchild => ?_
  have hopen : Reaches s (s.fresh.push scope) :=
    .trans (.single .newEntity) (.single (.openScope hchild rfl))
  -- The parameters go into the new scope.
  have hinner := (h.fresh.opened hparent).sees
  refine .bind (declareParams_outcome hlen htys hinner) fun es t ht => ?_
  obtain ⟨hreach, hes, hsettled, names, m, rfl⟩ := ht
  rw [State.push_advance_last] at hreach ⊢
  have hparams := hopen.trans hreach
  -- The method goes into the class that the new scope lies in.
  have hcls : (scope.extend names).cls = env.ambient.cls := congrArg (·.ambient.cls) hframe
  have hlast : scope.extend names ∈
      ((s.withStore ⟨s.classes, m⟩).push (scope.extend names)).arena.scopes :=
    List.mem_append_right _ List.mem_cons_self
  refine .bind (declareMethod_outcome hlast (hcls ▸ howner) (hparams.sound hs) hsig)
    fun _ t ht => ?_
  obtain ⟨hreach, ht, hgain, hmethod⟩ := ht
  have hmembers := hparams.trans hreach
  rw [hcls] at hgain
  generalize t.classes = classes at ht hgain hmethod
  subst ht
  -- The function goes into the scope around.
  have hout : Mirrors (s.withStore ⟨classes, m⟩) id env := h.withStore _
  refine .declare hout.sees.of_push (.of_value rfl rfl hsig) fun hstep => .pure ?_
  have hstate := State.push_advance_outer (s.withStore ⟨classes, m⟩) (scope.extend names)
    [(name, ⟨n, .function name ⟨tys, result⟩⟩)] ⟨classes, m⟩ hout.sees.lt_size
  have hparent' : (scope.extend names).parent = some id := hparent
  have hbody := hout.push hparent' [(name, ⟨n, .function name ⟨tys, result⟩⟩)] ⟨classes, m⟩
  rw [← hstate] at hbody
  refine ⟨hmembers.trans (.single hstep), ⟨_, hbody, ?_⟩, ?_, tys, rfl, hes, hgain, hmethod⟩
  · exact congrArg Frame.ambient hframe
  · exact List.forall_mem_cons.mpr ⟨.of_value rfl hsig, hsettled⟩

theorem checkFunction_outcome {decl : FnDecl Stmt} (hbody : ∀ x ∈ decl.body.body, x.Runs)
    {owner : Option ClassRef} (howner : ∀ cls ∈ owner, env.ambient.cls = some cls)
    (h : Mirrors s id env) (hs : s.Sound) :
    Yields (checkFunction owner id decl) s fun f t => FunctionOutcome owner env.ambient s f t := by
  obtain ⟨name, params, result, body, span⟩ := decl
  rw [checkFunction_eq]
  refine .bind (functionHead_outcome howner name params result span h hs) fun r t hr => ?_
  obtain ⟨inner, hinner, hambient⟩ := hr.opens
  obtain ⟨tys, hentity, hes, hgain, hmethod⟩ := hr.gains
  refine .bind (checkBlock_outcome hbody hinner (hr.reaches.sound hs)) fun b u hb => ?_
  rw [hambient] at hb
  have hclose : Reaches u { u with arena := u.arena.leave r.1 } := .single (.closeScope _)
  refine .closeScope (.pure ⟨(hr.reaches.trans hb.reaches).trans hclose, ?_, hr.settled, ?_, ?_⟩)
  · exact ⟨name, tys, hentity, hes⟩
  · exact hb.stands_extend hr.reaches hclose
  · refine ⟨(name, ⟨tys, r.2.2.2⟩), hentity, ?_, fun cls hc => ?_⟩
    · have hall := hgain.trans hb.gains
      rw [List.nil_append, List.append_nil, ← Checked.blockFields_eq] at hall
      exact hall
    · exact hb.reaches.grows.method? (hmethod cls hc)

/-- **What the check of the methods of a class establishes.** -/
structure MethodsOutcome (cls : ClassRef) (a : Ambient) (s : State)
    (fs : List (Checked.Function Checked.Stmt)) (t : State) : Prop where
  /-- The check took steps. -/
  reaches : Reaches s t
  /-- Each method is well typed, and is known to the class by then. -/
  typed : ∀ f ∈ fs, f.WellTyped ∧ ∃ name signature, f.entity.binding = .function name signature ∧
    (t.classes.info cls).method? name = some signature
  /-- The methods and their parameters are settled. -/
  settled : ∀ f ∈ fs, ∀ e ∈ f.entity :: f.params, e.Settled
  /-- Every statement of a body is as it should be. -/
  stands : ∀ f ∈ fs, ∀ x ∈ f.body.body,
    x.Throughout (Checked.Stmt.Stands s t) (a.inFunction f.entity)
  /-- The class gained the methods and the fields of their bodies. -/
  gains : ∃ methods, List.Forall₂ Checked.Function.IsMethod methods fs ∧
    s.classes.Gains a.cls (fs.flatMap fun f => Checked.blockFields f.body) methods t.classes

theorem checkMethods_outcome {decls : List (FnDecl Stmt)} {cls : ClassRef}
    (hdecls : ∀ f ∈ decls, ∀ x ∈ f.body.body, x.Runs) (hcls : env.ambient.cls = some cls)
    (h : Mirrors s id env) (hs : s.Sound) :
    Yields (checkMethods cls id decls) s fun fs t => MethodsOutcome cls env.ambient s fs t := by
  induction decls generalizing s env with
  | nil =>
    rw [checkMethods]
    refine .pure ⟨.refl s, ?_, ?_, ?_, [], .nil, .refl _ _⟩
    · exact fun f hf => by cases hf
    · exact fun f hf => by cases hf
    · exact fun f hf => by cases hf
  | cons decl decls ih =>
    rw [checkMethods]
    have howner : ∀ c ∈ some cls, env.ambient.cls = some c := fun c hc => hcls.trans hc
    have hagree : ∀ x ∈ decl.body.body, x.CheckedLexically := fun x _ => checkStmt_agree x
    have hfirst := checkFunction_outcome (hdecls decl List.mem_cons_self) howner h hs
    refine .bind (hfirst.and (.of_agree (checkFunction_agree hagree (some cls) h))) fun f t hf => ?_
    obtain ⟨hf, ⟨_, binding⟩, σ, -, rfl⟩ := hf
    replace hcls : (env.extend [binding]).ambient.cls = some cls := hcls
    have ih := ih (fun g hg => hdecls g (List.mem_cons_of_mem _ hg)) hcls (h.advance [binding] σ)
      (hf.reaches.sound hs)
    refine .bind ih fun fs u hfs => .pure ?_
    obtain ⟨m, hm, hgain, hmethod⟩ := hf.gains
    obtain ⟨methods, hmethods, hgains⟩ := hfs.gains
    refine ⟨hf.reaches.trans hfs.reaches, ?_, ?_, ?_, m :: methods, .cons hm hmethods, ?_⟩
    · -- A method stays known to the class while the later ones are checked.
      refine List.forall_mem_cons.mpr ⟨⟨hf.typed, m.1, m.2, hm, ?_⟩, hfs.typed⟩
      exact hfs.reaches.grows.method? (hmethod cls rfl)
    · exact List.forall_mem_cons.mpr ⟨hf.settled, hfs.settled⟩
    · refine List.forall_mem_cons.mpr ⟨fun x hx => ?_, fun g hg x hx => ?_⟩
      · exact (hf.stands x hx).mono fun _ _ hd => hd.extend (.refl s) hfs.reaches
      · exact (hfs.stands g hg x hx).mono fun _ _ hd => hd.extend hf.reaches (.refl u)
    · exact hgain.trans hgains

/-! ### Classes -/

/-- The constructor of a class, in its own scope inside that of the class. -/
theorem constructor_outcome {body : Block Stmt} (hbody : ∀ x ∈ body.body, x.Runs)
    {params : List Param} {tys : List Ty} (hlen : tys.length = params.length)
    (htys : ∀ ty ∈ tys, ty.Settled) (ctor : Entity) (h : Mirrors s id env) (hs : s.Sound) :
    Yields (Check.withChild id { inLoop := some false, function := some ctor } (fun inner => do
        let params ← declareParams inner params tys
        let body ← checkBlock inner body
        return (params, body))) s fun r t =>
      Entity.AreParams r.1 tys ∧ (∀ e ∈ r.1, e.Settled) ∧
        Outcome (env.ambient.inFunction ctor) s r.2.body t := by
  refine .withChild h fun scope hparent hframe hchild => ?_
  have hopen : Reaches s (s.push scope) := .single (.openScope hchild rfl)
  have hinner := h.opened hparent
  refine .bind (declareParams_outcome hlen htys hinner.sees) fun es t ht => ?_
  obtain ⟨hreach, hes, hsettled, names, m, rfl⟩ := ht
  have hparams := hopen.trans hreach
  refine .bind (checkBlock_outcome hbody (hinner.advance names _) (hparams.sound hs))
    fun b t hb => .pure ⟨hes, hsettled, ?_⟩
  replace hb : Outcome scope.frame.ambient _ b.body t := hb
  rw [hframe] at hb
  exact hb.extend hparams rfl (.single (.closeScope _)) rfl

/-- **What the check of a class establishes.** -/
structure ClassOutcome (a : Ambient) (s : State) (c : Checked.Class Checked.Stmt) (t : State) :
    Prop where
  /-- The check took steps. -/
  reaches : Reaches s t
  /-- The class has what its declaration writes. -/
  written : c.Written (t.classes.info c.cls)
  /-- No scope that is alive lies in the class. -/
  isSealed : t.Sealed c.cls
  /-- The class is well typed. -/
  typed : c.WellTyped t.classes
  /-- What the class declares is settled. -/
  settled : ∀ e ∈ (Checked.Stmt.classDecl c).entities, e.Settled
  /-- Every statement of a body is as it should be. -/
  stands : ∀ b ∈ (Checked.Stmt.classDecl c).blocks a, ∀ x ∈ b.2.body,
    x.Throughout (Checked.Stmt.Stands s t) b.1
  /-- The class around this one gained nothing. -/
  gains : s.classes.Gains a.cls [] [] t.classes

/-- **A class was checked in its own scope.** From the state `s` the class is entered
in the state `u`, its constructor is through in `v` and its methods in `w`, and the
scope is left in `t`. -/
structure ClassRun (a : Ambient) (name : String) (tys : List Ty) (s u v w t : State)
    (ctor : Entity) (params : List Entity) (body : Block Checked.Stmt)
    (methods : List (Checked.Function Checked.Stmt)) : Prop where
  /-- The constructor takes what is written and returns nothing. -/
  binding : ctor.binding = .function name ⟨tys, .none⟩
  /-- The parameters have the types that the constructor takes. -/
  areParams : Entity.AreParams params tys
  /-- The constructor and its parameters are settled. -/
  settled : ∀ e ∈ ctor :: params, e.Settled
  /-- The class is entered. -/
  enters : Reaches s u
  /-- At that point only its constructor is known. -/
  entered : u.classes = s.classes.enter name ⟨tys, .none⟩
  /-- The constructor is checked. -/
  ctorOutcome : Outcome ((a.inClass ⟨s.classes.size, name⟩).inFunction ctor) u body.body v
  /-- The methods are checked. -/
  methodsOutcome :
    MethodsOutcome ⟨s.classes.size, name⟩ (a.inClass ⟨s.classes.size, name⟩) v methods w
  /-- The scope is left. -/
  leaves : Reaches w t
  /-- Leaving the scope does not touch the classes. -/
  left : t.classes = w.classes

namespace ClassRun

variable {a : Ambient} {name : String} {tys : List Ty} {u v w t : State} {ctor : Entity}
  {params : List Entity} {body : Block Checked.Stmt}
  {methods : List (Checked.Function Checked.Stmt)}

theorem reaches (h : ClassRun a name tys s u v w t ctor params body methods) : Reaches s t :=
  ((h.enters.trans h.ctorOutcome.reaches).trans h.methodsOutcome.reaches).trans h.leaves

/-- The class is there from its entry on. -/
theorem lt_size_entered (h : ClassRun a name tys s u v w t ctor params body methods) :
    s.classes.size < u.classes.size := by
  rw [h.entered, ClassTable.size_enter]
  exact Nat.lt_succ_self _

theorem lt_size (h : ClassRun a name tys s u v w t ctor params body methods) :
    s.classes.size < t.classes.size := by
  have hlater := h.ctorOutcome.reaches.trans (h.methodsOutcome.reaches.trans h.leaves)
  exact hlater.grows.lt_size h.lt_size_entered

/-- **What is known about the class in the end**: its constructor, then the fields of
the constructor and of the methods in order, and the methods in order. -/
theorem info (h : ClassRun a name tys s u v w t ctor params body methods) :
    ∃ ms, List.Forall₂ Checked.Function.IsMethod ms methods ∧
      t.classes.info ⟨s.classes.size, name⟩ = ⟨name, ⟨tys, .none⟩,
        Checked.blockFields body ++ methods.flatMap fun m => Checked.blockFields m.body,
        ms.map fun m => (m.1, m.2.toTy)⟩ := by
  obtain ⟨ms, hms, hgains⟩ := h.methodsOutcome.gains
  refine ⟨ms, hms, ?_⟩
  rw [h.left, hgains.info_self (h.ctorOutcome.reaches.grows.lt_size h.lt_size_entered),
    h.ctorOutcome.gains.info_self h.lt_size_entered, h.entered, ClassTable.info_enter,
    Checked.blockFields_eq]
  rfl

/-- The class around this one gains nothing: what is added while the class is checked
goes to the class itself, or to classes that came later. -/
theorem gains (h : ClassRun a name tys s u v w t ctor params body methods) :
    s.classes.Gains a.cls [] [] t.classes := by
  obtain ⟨ms, -, hgains⟩ := h.methodsOutcome.gains
  have henter := s.classes.gains_enter a.cls name ⟨tys, .none⟩
  rw [← h.entered] at henter
  rw [h.left]
  exact (henter.elsewhere (Nat.le_refl _) h.ctorOutcome.gains).elsewhere (Nat.le_refl _) hgains

/-- Once its scope is left, no scope lies in the class: those that are alive were
there before the class was. -/
theorem isSealed (h : ClassRun a name tys s u v w t ctor params body methods) (hs : s.Sound)
    (harena : t.arena = s.arena) : t.Sealed ⟨s.classes.size, name⟩ := by
  refine ⟨h.lt_size, fun scope hscope c hc => Nat.ne_of_lt ?_⟩
  rw [harena] at hscope
  exact hs.cls scope hscope c hc

end ClassRun

theorem classBody_outcome {body : Block Stmt} {methods : List (FnDecl Stmt)}
    (hbody : ∀ x ∈ body.body, x.Runs) (hmethods : ∀ f ∈ methods, ∀ x ∈ f.body.body, x.Runs)
    (name : String) (params : List Param) (h : Mirrors s id env) (hs : s.Sound) :
    Yields (Check.withChild id { cls := some (s.classes.add name).2 } (fun inside => do
        let tys ← convertParams inside params
        let signature : Signature := ⟨tys, .none⟩
        Check.setCtor (s.classes.add name).2 signature
        let ctor ← Check.newEntity (.function name signature)
        let (params, body) ←
          Check.withChild inside { inLoop := some false, function := some ctor } fun inner => do
            let params ← declareParams inner params tys
            let body ← checkBlock inner body
            return (params, body)
        let methods ← checkMethods (s.classes.add name).2 inside methods
        return (ctor, params, body, methods)))
      { s with classes := (s.classes.add name).1 } fun r t =>
      ∃ tys u v w, ClassRun env.ambient name tys s u v w t r.1 r.2.1 r.2.2.1 r.2.2.2 := by
  have hnew : Mirrors { s with classes := (s.classes.add name).1 } id env :=
    ⟨h.sees, h.level, h.limit⟩
  refine .withChild hnew fun scope hparent hframe hchild => ?_
  replace hframe : scope.frame = .empty (env.ambient.inClass ⟨s.classes.size, name⟩) := hframe
  have hinside := hnew.opened hparent
  rw [hframe] at hinside
  refine .reads (convertParams_reads hinside params) fun tys htys => ?_
  have hlen : tys.length = params.length := by simpa using Lexical.length_convertList htys
  replace htys := ((hs.sees h).push_empty _).settled_convertParams htys
  have hsig : (Signature.mk tys .none).toTy.Settled := .function htys (.scalar (by decide))
  refine .setCtor ?_
  -- Making the class, opening its scope and setting its constructor are one step.
  show Yields _ { s with
    arena := s.arena.push scope
    classes := (s.classes.add name).1.setCtor (s.classes.add name).2 ⟨tys, .none⟩ } _
  rw [ClassTable.setCtor_add]
  have henter : Reaches s { s with
      arena := s.arena.push scope, classes := s.classes.enter name ⟨tys, .none⟩ } :=
    .single (.enterClass hchild hsig)
  refine .newEntity fun n => ?_
  replace henter := henter.trans (.single .newEntity)
  replace hinside : Mirrors (State.fresh { s with
      arena := s.arena.push scope, classes := s.classes.enter name ⟨tys, .none⟩ }) s.arena.size
      (env.push (.empty (env.ambient.inClass ⟨s.classes.size, name⟩))) :=
    ⟨hinside.sees, hinside.level, hinside.limit⟩
  have hagree : ∀ x ∈ body.body, x.CheckedLexically := fun x _ => checkStmt_agree x
  refine .bind ((constructor_outcome hbody hlen htys _ hinside (henter.sound hs)).and
    (.of_agree (constructor_agree hagree params tys _ hinside))) fun r t hr => ?_
  obtain ⟨⟨hes, hsettled, hctor⟩, -, σ, -, rfl⟩ := hr
  have hnext := hinside.advance [] σ
  refine .bind (checkMethods_outcome hmethods rfl hnext (hctor.reaches.sound (henter.sound hs)))
    fun fs w hfs => .pure ?_
  refine ⟨tys, _, _, w, ⟨rfl, hes, ?_, henter, rfl, hctor, hfs, .single (.closeScope _), rfl⟩⟩
  exact List.forall_mem_cons.mpr ⟨.of_value rfl hsig, hsettled⟩

theorem checkClass_outcome {decl : ClassDecl Stmt} (hbody : ∀ x ∈ decl.body.body, x.Runs)
    (hmethods : ∀ f ∈ decl.methods, ∀ x ∈ f.body.body, x.Runs) (h : Mirrors s id env)
    (hs : s.Sound) :
    Yields (checkClass id decl) s fun c t => ClassOutcome env.ambient s c t := by
  obtain ⟨name, params, body, ctorSpan, methods, span⟩ := decl
  rw [checkClass]
  have hnew : Mirrors { s with classes := (s.classes.add name).1 } id env :=
    ⟨h.sees, h.level, h.limit⟩
  have hagree : ∀ x ∈ body.body, x.CheckedLexically := fun x _ => checkStmt_agree x
  have hagrees : ∀ f ∈ methods, ∀ x ∈ f.body.body, x.CheckedLexically :=
    fun _ _ x _ => checkStmt_agree x
  refine .newClass (.bind ((classBody_outcome hbody hmethods name params h hs).and
    (.of_agree (classBody_agree hagree hagrees _ name params hnew))) fun r t hr => ?_)
  obtain ⟨ctor, es, body, methods⟩ := r
  obtain ⟨⟨tys, u, v, w, hclass⟩, -, σ, -, heq⟩ := hr
  obtain ⟨ms, hms, hinfo⟩ := hclass.info
  -- No scope is left behind by the inside of the class.
  have harena : t.arena = s.arena := by rw [heq]; exact Arena.extend_nil s.arena id
  have hmirrors : Mirrors t id env := by rw [heq]; exact hnew.advance [] σ
  clear heq
  refine .newEntity fun n => .declare hmirrors.fresh.sees ⟨rfl, .classType, ?_⟩ fun hstep => ?_
  · exact fun c hc => Option.some.inj hc ▸ hclass.lt_size
  have hclose := (Reaches.single .newEntity).trans (.single hstep)
  have hsealed := (hclose.info_of_sealed (hclass.isSealed hs harena)).1
  have hdistinct := ((hclass.reaches.sound hs).info ⟨s.classes.size, name⟩).distinct
  refine .pure ⟨hclass.reaches.trans hclose, ?_, hsealed, ?_, ?_, ?_, hclass.gains⟩
  · show Checked.Class.Written _ (t.classes.info ⟨s.classes.size, name⟩)
    rw [hinfo] at hdistinct ⊢
    exact ⟨rfl, hclass.areParams, rfl, Checked.Function.isMember_of_isMethod hms, rfl, hdistinct⟩
  · show Checked.Class.WellTyped t.classes _
    have hknown : (t.classes.info ⟨s.classes.size, name⟩).ctor = ⟨tys, .none⟩ := by rw [hinfo]
    have hparams : Entity.AreParams es (t.classes.info ⟨s.classes.size, name⟩).ctor.params := by
      rw [hknown]
      exact hclass.areParams
    refine ⟨hclass.lt_size, rfl, congrArg Signature.result hknown, ?_, hparams, ?_⟩
    · exact hclass.binding.trans (congrArg (Binding.function name) hknown.symm)
    · rw [hclass.left]
      exact hclass.methodsOutcome.typed
  · refine List.forall_mem_cons.mpr ⟨.classType, List.forall_mem_append.mpr ⟨hclass.settled, ?_⟩⟩
    intro e he
    obtain ⟨m, hm, he⟩ := List.mem_flatMap.mp he
    exact hclass.methodsOutcome.settled m hm e he
  · -- The bodies were checked one after the other; what was established about each
    -- of them stays, since classes only grow.
    refine List.forall_mem_cons.mpr ⟨?_, ?_⟩
    · exact hclass.ctorOutcome.stands_extend hclass.enters
        (hclass.methodsOutcome.reaches.trans (hclass.leaves.trans hclose))
    · intro b hb x hx
      obtain ⟨m, hm, rfl⟩ := List.mem_map.mp hb
      refine (hclass.methodsOutcome.stands m hm x hx).mono fun _ _ hd => ?_
      exact hd.extend (hclass.enters.trans hclass.ctorOutcome.reaches) (hclass.leaves.trans hclose)

end Shipshape
