import Shipshape.Proofs.Control
import Shipshape.Proofs.Identity.Supply
import Shipshape.Proofs.Lexical.Simulation
import Shipshape.Proofs.Outline.Tree

/-!
# A checked program erases to its outline

A check adds types and entities to a tree, and loses, repeats and reorders nothing.

* `Shipshape.Lexical.Env.Named` – every name is bound to an entity of that name;
* `Shipshape.Lexical.expr_erase`, `Shipshape.Lexical.stmt_erases` – by induction over trees:
  what comes out of a check erases to what went in;
* `Shipshape.checkProgram_erase` – so a program that is accepted erases to its outline.

Only two nodes need to know what names are bound to: the use of a name, which keeps its entity,
and a new object, which keeps its class. Both resolve to an entity of the name that is written.
That parameters are neither lost nor added rests on their types: there are as many of them as
there are parameters.
-/

namespace Shipshape

/-- An entity that is a class has the name of the class. -/
theorem Entity.name_of_class? {e : Entity} {cls : ClassRef} (h : e.class? = some cls) :
    e.name = cls.name := by
  obtain ⟨id, binding⟩ := e
  cases binding with
  | classType c =>
    obtain rfl := Option.some.inj h
    rfl
  | var | param | field | function | typeName => cases h

namespace Lexical

variable {env : Env} {classes : ClassTable} {σ τ : Store}

/-! ### Names and their entities -/

/-- Every name of a frame is bound to an entity of that name. -/
def Frame.Named (frame : Frame) : Prop := ∀ b ∈ frame.names, b.2.name = b.1

namespace Frame.Named

theorem empty (a : Ambient) : (Frame.empty a).Named := List.forall_mem_nil _

theorem extend {frame : Frame} (hframe : frame.Named) {names : List (String × Entity)}
    (hnames : ∀ b ∈ names, b.2.name = b.1) : (frame.extend names).Named :=
  List.forall_mem_append.mpr ⟨hnames, hframe⟩

end Frame.Named

/-- **Every name is bound to an entity of that name.** -/
def Env.Named (env : Env) : Prop := ∀ frame ∈ env.frames, frame.Named

namespace Env.Named

theorem root (limit : Nat) : (Env.root limit).Named := by
  refine List.forall_mem_singleton.mpr fun b hb => ?_
  obtain ⟨⟨kind, i⟩, -, rfl⟩ := List.mem_map.mp hb
  rfl

/-- The same names are seen one level deeper. -/
theorem of_descend (henv : env.Named) {inner : Env} {span : Span}
    (h : env.descend span = .ok inner) : inner.Named := by
  rw [Env.descend] at h
  split at h
  · obtain rfl := Except.ok.inj h
    exact henv
  · cases h

theorem descend (henv : env.Named) {β : Type} {g : Env → Except Diagnostic β} {b : β} {span : Span}
    (h : (env.descend span >>= g) = .ok b) : ∃ inner : Env, inner.Named ∧ g inner = .ok b := by
  obtain ⟨inner, hinner, h⟩ := bind_eq_ok_iff.mp h
  exact ⟨inner, henv.of_descend hinner, h⟩

theorem descend_lex (henv : env.Named) {β : Type} {g : Env → Lex β} {b : β} {span : Span}
    (h : (Lex.ofRule (env.descend span) >>= g) σ = .ok b τ) :
    ∃ inner : Env, inner.Named ∧ g inner σ = .ok b τ := by
  obtain ⟨inner, hinner, h⟩ := Lex.ofRule_bind_eq_ok_iff.mp h
  exact ⟨inner, henv.of_descend hinner, h⟩

/-- The place after some declarations. -/
theorem extend (henv : env.Named) {names : List (String × Entity)}
    (hnames : ∀ b ∈ names, b.2.name = b.1) : (env.extend names).Named := by
  obtain ⟨hframe, houter⟩ := List.forall_mem_cons.mp henv
  exact List.forall_mem_cons.mpr ⟨hframe.extend hnames, houter⟩

/-- A region inside. -/
theorem push (henv : env.Named) {frame : Frame} (hframe : frame.Named) : (env.push frame).Named :=
  List.forall_mem_cons.mpr ⟨hframe, henv⟩

/-- **A name resolves to an entity of that name.** -/
theorem resolve (henv : env.Named) {name : String} {span : Span} {entity : Entity}
    (h : env.resolve name span = .ok entity) : entity.name = name := by
  rw [Env.resolve] at h
  split at h
  · next found hfound =>
    obtain rfl := Except.ok.inj h
    obtain ⟨frame, hframe, hlookup⟩ := List.exists_of_findSome?_eq_some hfound
    exact henv frame hframe _ (ClassInfo.mem_of_lookup_eq_some hlookup)
  · cases h

end Env.Named

/-! ### Expressions -/

theorem exprs_erase {es : List Expr} {es' : List Checked.Expr}
    (hes : ∀ e ∈ es, ∀ e', expr env classes e = .ok e' → e'.erase = e)
    (h : exprs env classes es = .ok es') : Checked.eraseExprs es' = es := by
  induction es generalizing es' with
  | nil =>
    rw [exprs] at h
    obtain rfl := Except.ok.inj h
    rw [Checked.eraseExprs]
  | cons e es ih =>
    obtain ⟨he, hes⟩ := List.forall_mem_cons.mp hes
    rw [exprs] at h
    obtain ⟨d, hd, h⟩ := bind_eq_ok_iff.mp h
    obtain ⟨ds, hds, h⟩ := bind_eq_ok_iff.mp h
    obtain rfl := Except.ok.inj h
    rw [Checked.eraseExprs, he d hd, ih hes hds]

theorem passed_erase {es : List Expr} {es' : List Checked.Expr} {signature : Signature}
    {span : Span} (hes : ∀ e ∈ es, ∀ e', expr env classes e = .ok e' → e'.erase = e)
    (h : passed signature span (exprs env classes es) = .ok es') : Checked.eraseExprs es' = es := by
  rw [passed] at h
  obtain ⟨ds, hds, h⟩ := bind_eq_ok_iff.mp h
  obtain ⟨_, -, h⟩ := bind_eq_ok_iff.mp h
  obtain rfl := Except.ok.inj h
  exact exprs_erase hes hds

theorem entries_erase {items : List (Expr × Expr)} {key value : Ty}
    {r : List (Checked.Expr × Checked.Expr) × Ty × Ty}
    (hitems : ∀ q ∈ items, (∀ e', expr env classes q.1 = .ok e' → e'.erase = q.1) ∧
      ∀ e', expr env classes q.2 = .ok e' → e'.erase = q.2)
    (h : entries env classes key value items = .ok r) : Checked.eraseEntries r.1 = items := by
  induction items generalizing key value r with
  | nil =>
    rw [entries] at h
    obtain rfl := Except.ok.inj h
    rw [Checked.eraseEntries]
  | cons item items ih =>
    obtain ⟨k, v⟩ := item
    obtain ⟨⟨hk, hv⟩, hitems⟩ := List.forall_mem_cons.mp hitems
    rw [entries] at h
    obtain ⟨k', hk', h⟩ := bind_eq_ok_iff.mp h
    obtain ⟨v', hv', h⟩ := bind_eq_ok_iff.mp h
    obtain ⟨_, -, h⟩ := bind_eq_ok_iff.mp h
    obtain ⟨_, -, h⟩ := bind_eq_ok_iff.mp h
    obtain ⟨rest, hrest, h⟩ := bind_eq_ok_iff.mp h
    obtain rfl := Except.ok.inj h
    rw [Checked.eraseEntries, hk k' hk', hv v' hv', ih hitems hrest]

/-- **A checked expression erases to the expression.** -/
theorem expr_erase {e : Expr} {e' : Checked.Expr} (henv : env.Named)
    (h : expr env classes e = .ok e') : e'.erase = e := by
  induction e generalizing env e' with
  | literal value span =>
    rw [expr] at h
    obtain ⟨_, -, h⟩ := bind_eq_ok_iff.mp h
    obtain rfl := Except.ok.inj h
    rw [Checked.Expr.erase]
  | symbol name span =>
    rw [expr] at h
    obtain ⟨inner, hin, h⟩ := henv.descend h
    obtain ⟨entity, hres, h⟩ := bind_eq_ok_iff.mp h
    obtain ⟨_, -, h⟩ := bind_eq_ok_iff.mp h
    obtain rfl := Except.ok.inj h
    rw [Checked.Expr.erase, hin.resolve hres]
  | self span =>
    rw [expr] at h
    obtain ⟨_, -, h⟩ := bind_eq_ok_iff.mp h
    obtain ⟨_, -, h⟩ := bind_eq_ok_iff.mp h
    obtain rfl := Except.ok.inj h
    rw [Checked.Expr.erase]
  | binary op left right span ihl ihr =>
    rw [expr] at h
    obtain ⟨inner, hin, h⟩ := henv.descend h
    obtain ⟨l, hl, h⟩ := bind_eq_ok_iff.mp h
    obtain ⟨r, hr, h⟩ := bind_eq_ok_iff.mp h
    obtain ⟨_, -, h⟩ := bind_eq_ok_iff.mp h
    obtain rfl := Except.ok.inj h
    rw [Checked.Expr.erase, ihl hin hl, ihr hin hr]
  | unary op operand span ih =>
    rw [expr] at h
    obtain ⟨inner, hin, h⟩ := henv.descend h
    obtain ⟨x, hx, h⟩ := bind_eq_ok_iff.mp h
    obtain ⟨_, -, h⟩ := bind_eq_ok_iff.mp h
    obtain rfl := Except.ok.inj h
    rw [Checked.Expr.erase, ih hin hx]
  | conditional test consequent alternate span iht ihc iha =>
    rw [expr] at h
    obtain ⟨inner, hin, h⟩ := henv.descend h
    obtain ⟨t, ht, h⟩ := bind_eq_ok_iff.mp h
    obtain ⟨_, -, h⟩ := bind_eq_ok_iff.mp h
    obtain ⟨x, hx, h⟩ := bind_eq_ok_iff.mp h
    obtain ⟨y, hy, h⟩ := bind_eq_ok_iff.mp h
    obtain ⟨_, -, h⟩ := bind_eq_ok_iff.mp h
    obtain rfl := Except.ok.inj h
    rw [Checked.Expr.erase, iht hin ht, ihc hin hx, iha hin hy]
  | call callee args span ihc ihs =>
    rw [expr] at h
    obtain ⟨inner, hin, h⟩ := henv.descend h
    obtain ⟨f, hf, h⟩ := bind_eq_ok_iff.mp h
    obtain ⟨_, -, h⟩ := bind_eq_ok_iff.mp h
    obtain ⟨xs, hxs, h⟩ := bind_eq_ok_iff.mp h
    obtain rfl := Except.ok.inj h
    rw [Checked.Expr.erase, ihc hin hf, passed_erase (fun e he _ => ihs e he hin) hxs]
  | subscript array index span iha ihi =>
    rw [expr] at h
    obtain ⟨inner, hin, h⟩ := henv.descend h
    obtain ⟨a, ha, h⟩ := bind_eq_ok_iff.mp h
    obtain ⟨i, hi, h⟩ := bind_eq_ok_iff.mp h
    obtain ⟨_, -, h⟩ := bind_eq_ok_iff.mp h
    obtain rfl := Except.ok.inj h
    rw [Checked.Expr.erase, iha hin ha, ihi hin hi]
  | array elements span ihs =>
    rw [expr] at h
    obtain ⟨inner, hin, h⟩ := henv.descend h
    obtain ⟨xs, hxs, h⟩ := bind_eq_ok_iff.mp h
    obtain ⟨_, -, h⟩ := bind_eq_ok_iff.mp h
    obtain rfl := Except.ok.inj h
    rw [Checked.Expr.erase, exprs_erase (fun e he _ => ihs e he hin) hxs]
  | map items span ihs =>
    rw [expr] at h
    obtain ⟨inner, hin, h⟩ := henv.descend h
    obtain ⟨r, hr, h⟩ := bind_eq_ok_iff.mp h
    obtain rfl := Except.ok.inj h
    rw [Checked.Expr.erase, entries_erase (fun q hq => ⟨fun _ => (ihs q hq).1 hin,
      fun _ => (ihs q hq).2 hin⟩) hr]
  | member object name span ih =>
    rw [expr] at h
    obtain ⟨inner, hin, h⟩ := henv.descend h
    obtain ⟨x, hx, h⟩ := bind_eq_ok_iff.mp h
    obtain ⟨_, -, h⟩ := bind_eq_ok_iff.mp h
    obtain ⟨_, -, h⟩ := bind_eq_ok_iff.mp h
    obtain rfl := Except.ok.inj h
    rw [Checked.Expr.erase, ih hin hx]
  | methodCall object name args span ih ihs =>
    rw [expr] at h
    obtain ⟨inner, hin, h⟩ := henv.descend h
    obtain ⟨x, hx, h⟩ := bind_eq_ok_iff.mp h
    obtain ⟨_, -, h⟩ := bind_eq_ok_iff.mp h
    obtain ⟨_, -, h⟩ := bind_eq_ok_iff.mp h
    obtain ⟨xs, hxs, h⟩ := bind_eq_ok_iff.mp h
    obtain rfl := Except.ok.inj h
    rw [Checked.Expr.erase, ih hin hx, passed_erase (fun e he _ => ihs e he hin) hxs]
  | construct className args span ihs =>
    rw [expr] at h
    obtain ⟨inner, hin, h⟩ := henv.descend h
    obtain ⟨entity, hres, h⟩ := bind_eq_ok_iff.mp h
    obtain ⟨cls, hcls, h⟩ := bind_eq_ok_iff.mp h
    obtain ⟨xs, hxs, h⟩ := bind_eq_ok_iff.mp h
    obtain rfl := Except.ok.inj h
    have hname : cls.name = className := by
      rw [← hin.resolve hres, Entity.name_of_class? (require_eq_ok_iff.mp hcls)]
    rw [Checked.Expr.erase, hname, passed_erase (fun e he _ => ihs e he hin) hxs]

theorem returned_erase {function : Entity} {value : Option Expr} {value' : Option Checked.Expr}
    {span : Span} (henv : env.Named) (h : returned env classes function value span = .ok value') :
    value'.map Checked.Expr.erase = value := by
  cases value with
  | none =>
    rw [returned] at h
    obtain ⟨_, -, h⟩ := bind_eq_ok_iff.mp h
    obtain rfl := Except.ok.inj h
    rfl
  | some value =>
    rw [returned] at h
    obtain ⟨_, -, h⟩ := bind_eq_ok_iff.mp h
    obtain ⟨v, hv, h⟩ := bind_eq_ok_iff.mp h
    obtain ⟨_, -, h⟩ := bind_eq_ok_iff.mp h
    obtain rfl := Except.ok.inj h
    rw [Option.map_some, expr_erase henv hv]

end Lexical

/-! ### Blocks -/

/-- **What comes out of the check of a statement erases to its outline**, in every environment,
and a name that the statement adds is that of its entity. -/
def Stmt.Erases (x : Stmt) : Prop :=
  ∀ {env : Lexical.Env} {σ τ : Lexical.Store} {y : Checked.Stmt}
    {binding : Option (String × Entity)}, env.Named →
    Lexical.stmt env x σ = .ok (y, binding) τ →
    y.erase = x.outline ∧ ∀ b ∈ binding.toList, b.2.name = b.1

namespace Lexical

variable {env : Env} {σ τ : Store}

theorem stmts_erase {xs : List Stmt} (hxs : ∀ x ∈ xs, x.Erases) (henv : env.Named)
    {ys : List Checked.Stmt} (h : stmts env xs σ = .ok ys τ) :
    Checked.eraseStmts ys = stmtsOutline xs := by
  induction xs generalizing env σ ys with
  | nil =>
    rw [stmts] at h
    cases h
    rw [Checked.eraseStmts, stmtsOutline]
  | cons x xs ih =>
    obtain ⟨hx, hxs⟩ := List.forall_mem_cons.mp hxs
    rw [stmts] at h
    obtain ⟨⟨y, binding⟩, _, hy, h⟩ := Lex.bind_eq_ok_iff.mp h
    obtain ⟨rest, _, hrest, h⟩ := Lex.bind_eq_ok_iff.mp h
    cases h
    obtain ⟨hy, hbinding⟩ := hx henv hy
    rw [Checked.eraseStmts, stmtsOutline, hy, ih hxs (henv.extend hbinding) hrest]

theorem block_erase {body : Block Stmt} (hbody : ∀ x ∈ body.body, x.Erases) (henv : env.Named)
    {b : Block Checked.Stmt} (h : block env body σ = .ok b τ) :
    Checked.eraseBlock b = blockOutline body := by
  obtain ⟨xs, span⟩ := body
  rw [block] at h
  obtain ⟨ys, _, hys, h⟩ := Lex.bind_eq_ok_iff.mp h
  cases h
  rw [Checked.eraseBlock, blockOutline, stmts_erase hbody henv hys]

theorem loopBody_erase {body : Block Stmt} (hbody : ∀ x ∈ body.body, x.Erases)
    (henv : env.Named) {name : String} {ty : Ty} {entity : Entity} {b : Block Checked.Stmt}
    (h : loopBody env name ty (fun inner => block inner body) σ = .ok (entity, b) τ) :
    entity.name = name ∧ Checked.eraseBlock b = blockOutline body := by
  rw [loopBody, Lex.newEntity_bind] at h
  obtain ⟨b, _, hb, h⟩ := Lex.bind_eq_ok_iff.mp h
  cases h
  have hframe : Frame.Named ⟨[(name, ⟨σ.nextEntity, .var name ty⟩)], env.ambient.loop⟩ :=
    List.forall_mem_singleton.mpr rfl
  exact ⟨rfl, block_erase hbody (henv.push hframe) hb⟩

theorem branches_erase {choices : List (Branch Expr Stmt)}
    (hchoices : ∀ c ∈ choices, ∀ x ∈ c.body.body, x.Erases) (henv : env.Named)
    {bs : List (Branch Checked.Expr Checked.Stmt)} (h : branches env choices σ = .ok bs τ) :
    Checked.eraseBranches bs = branchesOutline choices := by
  induction choices generalizing σ bs with
  | nil =>
    rw [branches] at h
    cases h
    rw [Checked.eraseBranches, branchesOutline]
  | cons choice choices ih =>
    obtain ⟨test, body⟩ := choice
    obtain ⟨hbody, hchoices⟩ := List.forall_mem_cons.mp hchoices
    rw [branches] at h
    obtain ⟨e, he, h⟩ := Lex.reading_bind_eq_ok_iff.mp h
    obtain ⟨_, -, h⟩ := Lex.ofRule_bind_eq_ok_iff.mp h
    obtain ⟨b, _, hb, h⟩ := Lex.bind_eq_ok_iff.mp h
    obtain ⟨rest, _, hrest, h⟩ := Lex.bind_eq_ok_iff.mp h
    cases h
    rw [Checked.eraseBranches, branchesOutline, expr_erase henv he,
      block_erase hbody (henv.push (.empty _)) hb, ih hchoices hrest]

theorem alternate_erase {otherwise : Option (Block Stmt)}
    (hbody : ∀ body ∈ otherwise, ∀ x ∈ body.body, x.Erases) (henv : env.Named)
    {alt : Option (Block Checked.Stmt)} (h : alternate env otherwise σ = .ok alt τ) :
    Checked.eraseAlternate alt = alternateOutline otherwise := by
  cases otherwise with
  | none =>
    rw [alternate] at h
    cases h
    rw [Checked.eraseAlternate, alternateOutline]
  | some body =>
    rw [alternate] at h
    obtain ⟨b, _, hb, h⟩ := Lex.bind_eq_ok_iff.mp h
    cases h
    rw [Checked.eraseAlternate, alternateOutline,
      block_erase (hbody body rfl) (henv.push (.empty _)) hb]

/-! ### Functions and classes -/

/-- **No parameter is lost**, as long as there are as many types as parameters. -/
theorem params_erase {frame frame' : Frame} {parameters : List Param} {tys : List Ty}
    {es : List Entity} (hlen : tys.length = parameters.length)
    (hframe : frame.Named) (h : params frame parameters tys σ = .ok (frame', es) τ) :
    es.map Entity.name = parameters.map Param.name ∧ frame'.Named := by
  induction parameters generalizing frame tys σ es with
  | nil =>
    obtain rfl := List.length_eq_zero_iff.mp hlen
    rw [params] at h
    · cases h
      exact ⟨rfl, hframe⟩
    · intro _ _ _ _ hne
      cases hne
  | cons param rest ih =>
    cases tys with
    | nil => cases hlen
    | cons ty tys =>
      rw [params, Lex.newEntity_bind] at h
      obtain ⟨binding, hbinding, h⟩ := Lex.ofRule_bind_eq_ok_iff.mp h
      obtain rfl := Frame.declare_eq_ok hbinding
      obtain ⟨⟨_, entities⟩, _, hrest, h⟩ := Lex.bind_eq_ok_iff.mp h
      cases h
      have hnext : ∀ b ∈ [(param.name, (⟨σ.nextEntity, .param param.name ty⟩ : Entity))],
          b.2.name = b.1 := List.forall_mem_singleton.mpr rfl
      obtain ⟨hnames, hframe'⟩ := ih (Nat.succ.inj hlen) (hframe.extend hnext) hrest
      exact ⟨congrArg (param.name :: ·) hnames, hframe'⟩

theorem function_erase {decl : FnDecl Stmt} (hbody : ∀ x ∈ decl.body.body, x.Erases)
    {owner : Option ClassRef} (henv : env.Named) {f : Checked.Function Checked.Stmt}
    {binding : String × Entity} (h : function owner env decl σ = .ok (f, binding) τ) :
    Checked.eraseFunction f = functionOutline decl ∧ binding.2.name = binding.1 := by
  obtain ⟨name, parameters, result, body, span⟩ := decl
  rw [function] at h
  obtain ⟨result, -, h⟩ := Lex.ofRule_bind_eq_ok_iff.mp h
  obtain ⟨tys, htys, h⟩ := Lex.ofRule_bind_eq_ok_iff.mp h
  rw [Lex.newEntity_bind, functionBody] at h
  obtain ⟨⟨frame, es⟩, _, hparams, h⟩ := Lex.bind_eq_ok_iff.mp h
  obtain ⟨_, _, -, h⟩ := Lex.bind_eq_ok_iff.mp h
  obtain ⟨binding, hbinding, h⟩ := Lex.ofRule_bind_eq_ok_iff.mp h
  obtain ⟨b, _, hb, h⟩ := Lex.bind_eq_ok_iff.mp h
  cases h
  obtain rfl := Frame.declare_eq_ok hbinding
  have hlen : tys.length = parameters.length := by simpa using length_convertList htys
  obtain ⟨hnames, hframe⟩ := params_erase hlen (.empty _) hparams
  have hself : ∀ b ∈ [(name, (⟨σ.nextEntity, .function name ⟨tys, result⟩⟩ : Entity))],
      b.2.name = b.1 := List.forall_mem_singleton.mpr rfl
  refine ⟨?_, rfl⟩
  rw [Checked.eraseFunction, functionOutline, hnames,
    block_erase hbody ((henv.extend hself).push hframe) hb]
  rfl

theorem methods_erase {cls : ClassRef} {decls : List (FnDecl Stmt)}
    (hbodies : ∀ f ∈ decls, ∀ x ∈ f.body.body, x.Erases) (henv : env.Named)
    {fs : List (Checked.Function Checked.Stmt)} (h : methods cls env decls σ = .ok fs τ) :
    Checked.eraseMethods fs = methodsOutline decls := by
  induction decls generalizing env σ fs with
  | nil =>
    rw [methods] at h
    cases h
    rw [Checked.eraseMethods, methodsOutline]
  | cons decl decls ih =>
    obtain ⟨hbody, hbodies⟩ := List.forall_mem_cons.mp hbodies
    rw [methods] at h
    obtain ⟨⟨f, binding⟩, _, hf, h⟩ := Lex.bind_eq_ok_iff.mp h
    obtain ⟨rest, _, hrest, h⟩ := Lex.bind_eq_ok_iff.mp h
    cases h
    obtain ⟨hf, hbinding⟩ := function_erase hbody henv hf
    have hnext := henv.extend (List.forall_mem_singleton.mpr hbinding)
    rw [Checked.eraseMethods, methodsOutline, hf, ih hbodies hnext hrest]

theorem ctorBody_erase {body : Block Stmt} (hbody : ∀ x ∈ body.body, x.Erases)
    (henv : env.Named) {ctor : Entity} {parameters : List Param} {tys : List Ty}
    (hlen : tys.length = parameters.length) {es : List Entity} {b : Block Checked.Stmt}
    (h : ctorBody env ctor parameters tys (fun inner => block inner body) σ = .ok (es, b) τ) :
    es.map Entity.name = parameters.map Param.name ∧
      Checked.eraseBlock b = blockOutline body := by
  rw [ctorBody] at h
  obtain ⟨⟨frame, es⟩, _, hparams, h⟩ := Lex.bind_eq_ok_iff.mp h
  obtain ⟨b, _, hb, h⟩ := Lex.bind_eq_ok_iff.mp h
  cases h
  obtain ⟨hnames, hframe⟩ := params_erase hlen (.empty _) hparams
  exact ⟨hnames, block_erase hbody (henv.push hframe) hb⟩

theorem classDecl_erase {decl : ClassDecl Stmt} (hbody : ∀ x ∈ decl.body.body, x.Erases)
    (hbodies : ∀ f ∈ decl.methods, ∀ x ∈ f.body.body, x.Erases) (henv : env.Named)
    {c : Checked.Class Checked.Stmt} {binding : String × Entity}
    (h : classDecl env decl σ = .ok (c, binding) τ) :
    Checked.eraseClass c = classOutline decl ∧ binding.2.name = binding.1 := by
  obtain ⟨name, parameters, body, ctorSpan, decls, span⟩ := decl
  rw [classDecl, Lex.newClass_bind] at h
  obtain ⟨⟨ctor, es, b, fs⟩, ρ, hclass, h⟩ := Lex.bind_eq_ok_iff.mp h
  dsimp only at h
  rw [Lex.newEntity_bind] at h
  obtain ⟨binding, hbinding, h⟩ := Lex.ofRule_bind_eq_ok_iff.mp h
  cases h
  obtain rfl := Frame.declare_eq_ok hbinding
  -- The inside: the constructor first, and then the methods.
  rw [classBody] at hclass
  obtain ⟨tys, htys, hclass⟩ := Lex.ofRule_bind_eq_ok_iff.mp hclass
  rw [Lex.setCtor_bind, Lex.newEntity_bind] at hclass
  obtain ⟨⟨es, b⟩, _, hctor, hclass⟩ := Lex.bind_eq_ok_iff.mp hclass
  obtain ⟨fs, _, hfs, hclass⟩ := Lex.bind_eq_ok_iff.mp hclass
  cases hclass
  have hlen : tys.length = parameters.length := by simpa using length_convertList htys
  have hin := henv.push (.empty (env.ambient.inClass (σ.classes.add name).2))
  obtain ⟨hnames, hb⟩ := ctorBody_erase hbody hin hlen hctor
  refine ⟨?_, rfl⟩
  rw [Checked.eraseClass, classOutline, hnames, hb, methods_erase hbodies hin hfs]
  rfl

/-! ### Statements -/

/-- **Every checked statement erases to the outline of the statement.** -/
theorem stmt_erases (x : Stmt) : x.Erases := by
  intro env σ τ y binding henv h
  induction x generalizing env σ τ y binding with
  | var name typeExpr value span =>
    rw [stmt] at h
    obtain ⟨inner, hin, h⟩ := henv.descend_lex h
    obtain ⟨v, hv, h⟩ := Lex.reading_bind_eq_ok_iff.mp h
    obtain ⟨ty, -, h⟩ := Lex.ofRule_bind_eq_ok_iff.mp h
    rw [Lex.newEntity_bind] at h
    obtain ⟨binding, hbinding, h⟩ := Lex.ofRule_bind_eq_ok_iff.mp h
    cases h
    obtain rfl := Frame.declare_eq_ok hbinding
    refine ⟨?_, List.forall_mem_singleton.mpr rfl⟩
    rw [Checked.Stmt.erase, Stmt.outline, expr_erase hin hv]
    rfl
  | function decl ih =>
    rw [stmt] at h
    obtain ⟨inner, hin, h⟩ := henv.descend_lex h
    obtain ⟨⟨f, b⟩, _, hf, h⟩ := Lex.bind_eq_ok_iff.mp h
    cases h
    obtain ⟨hf, hb⟩ := function_erase ih hin hf
    refine ⟨?_, List.forall_mem_singleton.mpr hb⟩
    rw [Checked.Stmt.erase, Stmt.outline, hf]
  | classDecl decl ihb ihm =>
    rw [stmt] at h
    obtain ⟨inner, hin, h⟩ := henv.descend_lex h
    obtain ⟨⟨c, b⟩, _, hc, h⟩ := Lex.bind_eq_ok_iff.mp h
    cases h
    obtain ⟨hc, hb⟩ := classDecl_erase ihb ihm hin hc
    refine ⟨?_, List.forall_mem_singleton.mpr hb⟩
    rw [Checked.Stmt.erase, Stmt.outline, hc]
  | field typeExpr name value span =>
    rw [stmt] at h
    obtain ⟨inner, hin, h⟩ := henv.descend_lex h
    obtain ⟨cls, -, h⟩ := Lex.ofRule_bind_eq_ok_iff.mp h
    obtain ⟨v, hv, h⟩ := Lex.reading_bind_eq_ok_iff.mp h
    obtain ⟨ty, -, h⟩ := Lex.ofRule_bind_eq_ok_iff.mp h
    obtain ⟨_, -, h⟩ := Lex.ofRule_bind_eq_ok_iff.mp h
    obtain ⟨_, _, -, h⟩ := Lex.bind_eq_ok_iff.mp h
    rw [Lex.newEntity_bind] at h
    obtain ⟨binding, hbinding, h⟩ := Lex.ofRule_bind_eq_ok_iff.mp h
    cases h
    obtain rfl := Frame.declare_eq_ok hbinding
    refine ⟨?_, List.forall_mem_singleton.mpr rfl⟩
    rw [Checked.Stmt.erase, Stmt.outline, expr_erase hin hv]
    rfl
  | assign target value span =>
    rw [stmt] at h
    obtain ⟨inner, hin, h⟩ := henv.descend_lex h
    obtain ⟨v, hv, h⟩ := Lex.reading_bind_eq_ok_iff.mp h
    obtain ⟨e, he, h⟩ := Lex.reading_bind_eq_ok_iff.mp h
    obtain ⟨_, -, h⟩ := Lex.ofRule_bind_eq_ok_iff.mp h
    cases h
    refine ⟨?_, List.forall_mem_nil _⟩
    rw [Checked.Stmt.erase, Stmt.outline, expr_erase hin he, expr_erase hin hv]
  | print value span =>
    rw [stmt] at h
    obtain ⟨inner, hin, h⟩ := henv.descend_lex h
    obtain ⟨v, hv, h⟩ := Lex.reading_bind_eq_ok_iff.mp h
    cases h
    refine ⟨?_, List.forall_mem_nil _⟩
    rw [Checked.Stmt.erase, Stmt.outline, expr_erase hin hv]
  | expr value span =>
    rw [stmt] at h
    obtain ⟨inner, hin, h⟩ := henv.descend_lex h
    obtain ⟨v, hv, h⟩ := Lex.reading_bind_eq_ok_iff.mp h
    cases h
    refine ⟨?_, List.forall_mem_nil _⟩
    rw [Checked.Stmt.erase, Stmt.outline, expr_erase hin hv]
  | ifElse choices otherwise span ihc iho =>
    rw [stmt] at h
    obtain ⟨inner, hin, h⟩ := henv.descend_lex h
    obtain ⟨bs, _, hbs, h⟩ := Lex.bind_eq_ok_iff.mp h
    obtain ⟨alt, _, halt, h⟩ := Lex.bind_eq_ok_iff.mp h
    cases h
    refine ⟨?_, List.forall_mem_nil _⟩
    rw [Checked.Stmt.erase, Stmt.outline, branches_erase ihc hin hbs, alternate_erase iho hin halt]
  | whileLoop test body span ih =>
    rw [stmt] at h
    obtain ⟨inner, hin, h⟩ := henv.descend_lex h
    obtain ⟨e, he, h⟩ := Lex.reading_bind_eq_ok_iff.mp h
    obtain ⟨_, -, h⟩ := Lex.ofRule_bind_eq_ok_iff.mp h
    obtain ⟨b, _, hb, h⟩ := Lex.bind_eq_ok_iff.mp h
    cases h
    refine ⟨?_, List.forall_mem_nil _⟩
    rw [Checked.Stmt.erase, Stmt.outline, expr_erase hin he,
      block_erase ih (hin.push (.empty _)) hb]
  | forLoop name start stop body span ih =>
    rw [stmt] at h
    obtain ⟨inner, hin, h⟩ := henv.descend_lex h
    obtain ⟨x, hx, h⟩ := Lex.reading_bind_eq_ok_iff.mp h
    obtain ⟨_, -, h⟩ := Lex.ofRule_bind_eq_ok_iff.mp h
    obtain ⟨y, hy, h⟩ := Lex.reading_bind_eq_ok_iff.mp h
    obtain ⟨_, -, h⟩ := Lex.ofRule_bind_eq_ok_iff.mp h
    obtain ⟨⟨entity, b⟩, _, hb, h⟩ := Lex.bind_eq_ok_iff.mp h
    cases h
    obtain ⟨hname, hb⟩ := loopBody_erase ih hin hb
    refine ⟨?_, List.forall_mem_nil _⟩
    rw [Checked.Stmt.erase, Stmt.outline, hname, expr_erase hin hx, expr_erase hin hy, hb]
  | forEach name typeExpr iterable body span ih =>
    rw [stmt] at h
    obtain ⟨inner, hin, h⟩ := henv.descend_lex h
    obtain ⟨e, he, h⟩ := Lex.reading_bind_eq_ok_iff.mp h
    obtain ⟨ty, -, h⟩ := Lex.ofRule_bind_eq_ok_iff.mp h
    obtain ⟨⟨entity, b⟩, _, hb, h⟩ := Lex.bind_eq_ok_iff.mp h
    cases h
    obtain ⟨hname, hb⟩ := loopBody_erase ih hin hb
    refine ⟨?_, List.forall_mem_nil _⟩
    rw [Checked.Stmt.erase, Stmt.outline, hname, expr_erase hin he, hb]
  | breakLoop span =>
    rw [stmt] at h
    obtain ⟨inner, -, h⟩ := henv.descend_lex h
    obtain ⟨_, -, h⟩ := Lex.ofRule_bind_eq_ok_iff.mp h
    cases h
    refine ⟨?_, List.forall_mem_nil _⟩
    rw [Checked.Stmt.erase, Stmt.outline]
  | ret value span =>
    rw [stmt] at h
    obtain ⟨inner, hin, h⟩ := henv.descend_lex h
    obtain ⟨f, -, h⟩ := Lex.ofRule_bind_eq_ok_iff.mp h
    obtain ⟨v, hv, h⟩ := Lex.reading_bind_eq_ok_iff.mp h
    cases h
    refine ⟨?_, List.forall_mem_nil _⟩
    rw [Checked.Stmt.erase, Stmt.outline, returned_erase hin hv]

end Lexical

/-! ### Programs -/

/-- In an accepted program, the use of a name has an entity of that name. -/
theorem checkProgram_symbol_name {limit : Nat} {p : Program} {t : Checked.Program}
    (h : checkProgram limit p = .ok t) {a : Ambient} {name : String} {entity : Entity} {ty : Ty}
    {span : Span} (he : t.HasExpr a (.symbol name entity ty span)) : entity.name = name := by
  obtain ⟨x, hx, d, hd, hwithin⟩ := he
  have htyped := (((checkProgram_fits h hx).exprs d hd).within hwithin).typed
  exact htyped.2

/-- What a check makes of a program has the outline of the program. -/
theorem checkProgram_outline {limit : Nat} {p : Program} {t : Checked.Program}
    (h : checkProgram limit p = .ok t) : t.erase = p.outline := by
  rw [checkProgram] at h
  rcases (checkStmts_initial_agree limit p.body).cases with
    ⟨ys, s, zs, σ, hcheck, hlexical, rfl, names, rfl⟩ | ⟨d, s, σ, hcheck, -⟩
  · rw [hcheck] at h
    cases h
    have hbody := Lexical.stmts_erase (fun x _ => Lexical.stmt_erases x) (.root limit) hlexical
    exact congrArg (Outline.Program.mk · p.span) hbody
  · rw [hcheck] at h
    cases h

/-- **A checked program erases to its outline**: nothing is lost, repeated or reordered. Whatever
the limit, an accepted program gives back, once its types are dropped and its entities replaced
by their names, the same statements, branches, blocks, alternates, parameters, methods and
expressions in the same order, with the same spans; and wherever it keeps a name beside an
entity, this is the name of the entity. -/
theorem checkProgram_erase {limit : Nat} {p : Program} {t : Checked.Program}
    (h : checkProgram limit p = .ok t) :
    t.erase = p.outline ∧ ∀ a name entity ty span,
      t.HasExpr a (.symbol name entity ty span) → entity.name = name :=
  ⟨checkProgram_outline h, fun _ _ _ _ _ => checkProgram_symbol_name h⟩

/-- A class with a constructor and a method, a loop with a written type, and a choice whose
alternate is there but empty, around one that has none. -/
def manifestProgram : Program where
  body := [
    .classDecl {
      name := "Hold"
      params := [⟨"crates", .array (.named "int"), .null⟩]
      body := ⟨[.field (.array (.named "int")) "load" (.symbol "crates" .null) .null],
        ⟨⟨3, "hold"⟩, ⟨4, "hold"⟩⟩⟩
      ctorSpan := ⟨⟨2, "hold"⟩, ⟨4, "hold"⟩⟩
      methods := [⟨"first", [⟨"from", .named "int", .null⟩], some (.named "int"),
        ⟨[.ret (some (.subscript (.member (.self .null) "load" .null) (.symbol "from" .null) .null))
          .null], .null⟩, ⟨⟨5, "hold"⟩, ⟨9, "hold"⟩⟩⟩]
      span := ⟨⟨1, "hold"⟩, ⟨9, "hold"⟩⟩ },
    .var "hold" none (.construct "Hold" [.array [.literal (.int 7) .null] .null] .null) .null,
    .forEach "crate" (some (.named "int")) (.array [.literal (.int 1) .null] .null)
      ⟨[.ifElse [⟨.literal (.bool true) .null,
          ⟨[.ifElse [⟨.literal (.bool false) .null, ⟨[], .null⟩⟩] none .null], .null⟩⟩]
        (some ⟨[], ⟨⟨21, "hold"⟩, ⟨23, "hold"⟩⟩⟩) .null], .null⟩ .null,
    .expr (.methodCall (.symbol "hold" .null) "first" [.literal (.int 0) .null] .null)
      ⟨⟨30, "hold"⟩, ⟨40, "hold"⟩⟩]
  span := ⟨⟨0, "hold"⟩, ⟨40, "hold"⟩⟩

/-- The manifest is accepted, and so erases to its outline. -/
theorem manifestProgram_erase : ∃ t, checkProgram defaultLimit manifestProgram = .ok t ∧
    t.erase = manifestProgram.outline ∧ ∀ a name entity ty span,
      t.HasExpr a (.symbol name entity ty span) → entity.name = name := by
  have haccepted : (checkProgram defaultLimit manifestProgram).isOk = true := by decide +kernel
  cases h : checkProgram defaultLimit manifestProgram with
  | error e =>
    rw [h] at haccepted
    cases haccepted
  | ok t => exact ⟨t, rfl, checkProgram_erase h⟩

end Shipshape
