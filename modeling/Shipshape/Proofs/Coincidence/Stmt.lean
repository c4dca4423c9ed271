import Shipshape.Proofs.Coincidence.Expr
import Shipshape.Proofs.Tree.Declared

/-!
# Two places that look alike to a statement

* `Shipshape.Lexical.Tandem` – two computations go side by side: from stores with the same
  classes they fail with the same diagnostic, or come to values in a relation and to stores
  with the same classes;
* `Shipshape.Lexical.stmt_tandem` – by induction over statements: environments that coincide on
  the names of a statement give it the same checked form, up to numbers.

Every frame that is opened on the way is opened in both runs and has the same names in both.
Only of the frame at hand something is asked: that the name which the statement declares is
taken in both or in neither.
-/

namespace Shipshape

namespace Lexical

variable {α β γ δ : Type} {r : Nat → Nat} {known : List String} {env env' : Env}

/-! ### Computations -/

/-- **Two stores have the same classes**, and what they number next goes together. -/
structure Store.Relabels (r : Nat → Nat) (σ σ' : Store) : Prop where
  /-- The classes. -/
  classes : σ'.classes = σ.classes
  /-- The numbers from here on. -/
  supply : ∀ k, r (σ.nextEntity + k) = σ'.nextEntity + k

/-- The results of two runs side by side. -/
inductive Outcomes (r : Nat → Nat) (R : α → β → Prop) :
    EStateM.Result Diagnostic Store α → EStateM.Result Diagnostic Store β → Prop
  /-- Two successes. -/
  | ok {a : α} {b : β} {σ σ' : Store} : R a b → σ.Relabels r σ' → Outcomes r R (.ok a σ) (.ok b σ')
  /-- Two failures. -/
  | error {d : Diagnostic} {σ σ' : Store} : Outcomes r R (.error d σ) (.error d σ')

/-- **Two computations go side by side**, from any two stores that go together. -/
def Tandem (r : Nat → Nat) (R : α → β → Prop) (m : Lex α) (m' : Lex β) : Prop :=
  ∀ σ σ', σ.Relabels r σ' → Outcomes r R (m σ) (m' σ')

namespace Tandem

variable {R : α → β → Prop} {Q : γ → δ → Prop}

theorem pure {a : α} {b : β} (h : R a b) : Tandem r R (pure a) (pure b) := fun _ _ hσ => .ok h hσ

theorem bind {m : Lex α} {m' : Lex β} {f : α → Lex γ} {f' : β → Lex δ} (hm : Tandem r R m m')
    (hf : ∀ a b, R a b → Tandem r Q (f a) (f' b)) : Tandem r Q (m >>= f) (m' >>= f') := by
  intro σ σ' hσ
  have hruns := hm σ σ' hσ
  simp only [Bind.bind, EStateM.bind]
  generalize m σ = run at hruns
  generalize m' σ' = run' at hruns
  cases hruns with
  | ok hab hτ => exact hf _ _ hab _ _ hτ
  | error => exact .error

/-- Two results may come first. -/
theorem ofRule {x : Except Diagnostic α} {x' : Except Diagnostic β} {f : α → Lex γ}
    {f' : β → Lex δ} (hx : Paired R x x') (hf : ∀ a b, R a b → Tandem r Q (f a) (f' b)) :
    Tandem r Q (Lex.ofRule x >>= f) (Lex.ofRule x' >>= f') := by
  refine bind (R := R) (fun σ σ' hσ => ?_) hf
  cases hx with
  | ok hab => exact .ok hab hσ
  | error => exact .error

/-- The same result may come first. -/
theorem rule {x x' : Except Diagnostic α} {f : α → Lex γ} {f' : α → Lex δ} (hx : x' = x)
    (hf : ∀ a, Tandem r Q (f a) (f' a)) :
    Tandem r Q (Lex.ofRule x >>= f) (Lex.ofRule x' >>= f') := by
  subst hx
  exact ofRule (.refl x') fun a _ hab => hab ▸ hf a

/-- What reads the classes may come first. -/
theorem reading {g : ClassTable → Except Diagnostic α} {g' : ClassTable → Except Diagnostic β}
    {f : α → Lex γ} {f' : β → Lex δ} (hg : ∀ classes, Paired R (g classes) (g' classes))
    (hf : ∀ a b, R a b → Tandem r Q (f a) (f' b)) :
    Tandem r Q (Lex.reading g >>= f) (Lex.reading g' >>= f') := by
  refine bind (R := R) (fun σ σ' hσ => ?_) hf
  have hpaired := hg σ.classes
  rw [Lex.reading, Lex.reading, hσ.classes]
  generalize g σ.classes = x at hpaired
  generalize g' σ.classes = x' at hpaired
  cases hpaired with
  | ok hab => exact .ok hab hσ
  | error => exact .error

/-- An entity may be made first. -/
theorem newEntity {binding : Binding} {f : Entity → Lex γ} {f' : Entity → Lex δ}
    (hf : ∀ e, Tandem r Q (f e) (f' (e.relabel r))) :
    Tandem r Q (Lex.newEntity binding >>= f) (Lex.newEntity binding >>= f') := by
  refine bind (R := fun e e' => e' = e.relabel r) (fun σ σ' hσ => ?_) fun e e' he => he ▸ hf e
  refine .ok ?_ ⟨hσ.classes, fun k => ?_⟩
  · have hnext := hσ.supply 0
    simp only [Nat.add_zero] at hnext
    rw [Entity.relabel, hnext]
  · have hnext := hσ.supply (k + 1)
    rw [show σ.nextEntity + 1 + k = σ.nextEntity + (k + 1) by omega,
      show σ'.nextEntity + 1 + k = σ'.nextEntity + (k + 1) by omega]
    exact hnext

/-- What changes only the classes may come first. -/
theorem classes {m : Lex α} {f : α → Lex γ} {f' : α → Lex δ}
    (hm : Tandem r Eq m m) (hf : ∀ a, Tandem r Q (f a) (f' a)) : Tandem r Q (m >>= f) (m >>= f') :=
  bind hm fun a _ hab => hab ▸ hf a

theorem newClass (name : String) : Tandem r Eq (Lex.newClass name) (Lex.newClass name) := by
  intro σ σ' hσ
  rw [Lex.newClass, Lex.newClass, hσ.classes]
  exact .ok rfl ⟨rfl, hσ.supply⟩

theorem setCtor (cls : ClassRef) (signature : Signature) :
    Tandem r Eq (Lex.setCtor cls signature) (Lex.setCtor cls signature) := by
  intro σ σ' hσ
  rw [Lex.setCtor, Lex.setCtor, hσ.classes]
  exact .ok rfl ⟨rfl, hσ.supply⟩

theorem addField (cls : ClassRef) (name : String) (ty : Ty) (span : Span) :
    Tandem r Eq (Lex.addField cls name ty span) (Lex.addField cls name ty span) := by
  intro σ σ' hσ
  rw [Lex.addField, Lex.addField, hσ.classes]
  split
  · exact .ok rfl ⟨rfl, hσ.supply⟩
  · exact .error

theorem addMethod (owner : Option ClassRef) (name : String) (signature : Signature) (span : Span) :
    Tandem r Eq (Lex.addMethod owner name signature span)
      (Lex.addMethod owner name signature span) := by
  intro σ σ' hσ
  cases owner with
  | none => exact .ok rfl hσ
  | some cls =>
    rw [Lex.addMethod, Lex.addMethod, hσ.classes]
    split
    · exact .ok rfl ⟨rfl, hσ.supply⟩
    · exact .error

end Tandem

/-! ### Declarations -/

/-- A name is taken in both frames or in neither. -/
theorem declare_paired {frame frame' : Frame} {name : String}
    (h : frame.lookup name = none ↔ frame'.lookup name = none) (entity : Entity) (span : Span) :
    Paired (fun b b' => b = (name, entity) ∧ b' = relabelBinding r b)
      (frame.declare name entity span) (frame'.declare name (entity.relabel r) span) := by
  rw [Frame.declare, Frame.declare]
  cases hl : frame.lookup name with
  | none =>
    rw [h.mp hl]
    exact .ok ⟨rfl, rfl⟩
  | some e =>
    cases hl' : frame'.lookup name with
    | none =>
      rw [h.mpr hl'] at hl
      cases hl
    | some e' => exact .error

theorem params_tandem {frame frame' : Frame} (h : frame.Relabels r frame')
    (parameters : List Param) (tys : List Ty) :
    Tandem r (fun p p' => p.1.Relabels r p'.1 ∧ p'.2 = p.2.map (Entity.relabel r))
      (params frame parameters tys) (params frame' parameters tys) := by
  induction parameters generalizing frame frame' tys with
  | nil =>
    rw [params.eq_def, params.eq_def]
    exact .pure ⟨h, rfl⟩
  | cons param rest ih =>
    cases tys with
    | nil =>
      rw [params.eq_def, params.eq_def]
      exact .pure ⟨h, rfl⟩
    | cons ty tys =>
      rw [params, params]
      refine .newEntity fun entity => ?_
      have hlookup : frame.lookup param.name = none ↔ frame'.lookup param.name = none := by
        rw [h.lookup, Option.map_eq_none_iff]
      refine .ofRule (declare_paired hlookup entity param.span) fun b b' hb => ?_
      obtain ⟨rfl, rfl⟩ := hb
      refine .bind (ih (h.extend _) tys) fun p p' hp => ?_
      exact .pure ⟨hp.1, congrArg (entity.relabel r :: ·) hp.2⟩

theorem variableType_eq (h : env.Coincides r known env') {typeExpr : Option TypeExpr}
    (hnames : optionNames typeExpr ⊆ known) (value : Checked.Expr) :
    variableType env' typeExpr (value.relabel r) = variableType env typeExpr value := by
  cases typeExpr with
  | none => exact Rule.inferred_relabel r value
  | some typeExpr =>
    have hnames : typeExpr.names ⊆ known := hnames
    rw [variableType, variableType, convert_eq h hnames]
    simp

theorem loopVariableType_eq (h : env.Coincides r known env') {typeExpr : Option TypeExpr}
    (hnames : optionNames typeExpr ⊆ known) (iterable : Checked.Expr) :
    loopVariableType env' typeExpr (iterable.relabel r) =
      loopVariableType env typeExpr iterable := by
  cases typeExpr with
  | none => simp [loopVariableType]
  | some typeExpr =>
    have hnames : typeExpr.names ⊆ known := hnames
    simp [loopVariableType, convert_eq h hnames]

/-- The value of a return, in functions that are the same up to their numbers. -/
theorem returned_paired {classes : ClassTable} (h : env.Coincides r known env')
    {f f' : Entity} (hf : f'.binding = f.binding) {value : Option Expr}
    (hnames : (value.map Expr.names).getD [] ⊆ known) (span : Span) :
    Paired (fun v v' => v' = v.map (Checked.Expr.relabel r)) (returned env classes f value span)
      (returned env' classes f' value span) := by
  have hresult : f'.resultType = f.resultType := by rw [Entity.resultType, Entity.resultType, hf]
  have hreturns (hasValue : Bool) :
      Rule.returns f' hasValue span = Rule.returns f hasValue span := by
    rw [Rule.returns, Rule.returns, hresult, Entity.name, Entity.name, hf]
  cases value with
  | none => exact .rule (hreturns false) fun _ => .ok rfl
  | some e =>
    refine .rule (hreturns true) fun _ => ?_
    refine .bind (expr_paired r known e h hnames) fun x x' hx => ?_
    subst hx
    exact .rule (by rw [hresult, Rule.assignable_relabel]) fun _ => .ok rfl

/-! ### Blocks -/

/-- The two places give the statement the same checked form, up to numbers. -/
def Coheres (r : Nat → Nat) (known : List String) (x : Stmt) : Prop :=
  ∀ {env env' : Env}, env.Coincides r known env' → x.names ⊆ known →
    (∀ name ∈ x.declared?, (env.frame.lookup name = none ↔ env'.frame.lookup name = none)) →
    Tandem r (fun q q' => q' = (q.1.relabel r, q.2.map (relabelBinding r))) (stmt env x)
      (stmt env' x)

theorem stmts_tandem {xs : List Stmt} (hxs : ∀ x ∈ xs, Coheres r known x)
    (h : env.Coincides r known env') (hsame : env.SameNames env') (hnames : stmtsNames xs ⊆ known) :
    Tandem r (fun ys ys' => ys' = Checked.relabelStmts r ys) (stmts env xs) (stmts env' xs) := by
  induction xs generalizing env env' with
  | nil =>
    rw [stmts, stmts]
    exact .pure (by rw [Checked.relabelStmts])
  | cons x xs ih =>
    rw [stmtsNames] at hnames
    obtain ⟨hnames, hrest⟩ := List.append_subset.mp hnames
    obtain ⟨hx, hxs⟩ := List.forall_mem_cons.mp hxs
    rw [stmts, stmts]
    refine .bind (hx h hnames fun name _ => hsame name) fun q q' hq => ?_
    subst hq
    obtain ⟨y, binding⟩ := q
    have hnext : (env.extend binding.toList).Coincides r known
        (env'.extend (binding.map (relabelBinding r)).toList) := by
      cases binding with
      | none => exact h
      | some b => exact h.extend b
    have hsameNext : (env.extend binding.toList).SameNames
        (env'.extend (binding.map (relabelBinding r)).toList) := by
      cases binding with
      | none => exact hsame
      | some b => exact hsame.extend b
    refine .bind (ih hxs hnext hsameNext hrest) fun ys ys' hys => .pure ?_
    rw [hys, Checked.relabelStmts]

theorem block_tandem {body : Block Stmt} (hbody : ∀ x ∈ body.body, Coheres r known x)
    (h : env.Coincides r known env') (hsame : env.SameNames env')
    (hnames : blockNames body ⊆ known) :
    Tandem r (fun b b' => b' = Checked.relabelBlock r b) (block env body) (block env' body) := by
  obtain ⟨xs, span⟩ := body
  rw [blockNames] at hnames
  rw [block, block]
  refine .bind (stmts_tandem hbody h hsame hnames) fun ys ys' hys => .pure ?_
  rw [hys, Checked.relabelBlock]

/-- A block in a frame of its own. -/
theorem inner_tandem {body : Block Stmt} (hbody : ∀ x ∈ body.body, Coheres r known x)
    (h : env.Coincides r known env') {frame frame' : Frame} (hframe : frame.Relabels r frame')
    (hnames : blockNames body ⊆ known) :
    Tandem r (fun b b' => b' = Checked.relabelBlock r b) (block (env.push frame) body)
      (block (env'.push frame') body) :=
  block_tandem hbody (h.push hframe) (hframe.sameNames env env') hnames

theorem loopBody_tandem {body : Block Stmt} (hbody : ∀ x ∈ body.body, Coheres r known x)
    (h : env.Coincides r known env') (name : String) (ty : Ty) (hnames : blockNames body ⊆ known) :
    Tandem r (fun q q' => q' = (q.1.relabel r, Checked.relabelBlock r q.2))
      (loopBody env name ty fun inner => block inner body)
      (loopBody env' name ty fun inner => block inner body) := by
  rw [loopBody, loopBody]
  refine .newEntity fun entity => ?_
  have hframe : Frame.Relabels r ⟨[(name, entity)], env.ambient.loop⟩
      ⟨[(name, entity.relabel r)], env'.ambient.loop⟩ := ⟨rfl, h.ambient.loop⟩
  refine .bind (inner_tandem hbody h hframe hnames) fun b b' hb => .pure ?_
  rw [hb]

/-! ### Functions and classes -/

theorem function_tandem {decl : FnDecl Stmt} (hbody : ∀ x ∈ decl.body.body, Coheres r known x)
    (h : env.Coincides r known env') (owner : Option ClassRef)
    (hown : env.frame.lookup decl.name = none ↔ env'.frame.lookup decl.name = none)
    (hnames : functionNames decl ⊆ known) :
    Tandem r (fun q q' => q' = (Checked.relabelFunction r q.1, relabelBinding r q.2))
      (function owner env decl) (function owner env' decl) := by
  obtain ⟨name, parameters, result, body, span⟩ := decl
  rw [functionNames] at hnames
  obtain ⟨hnames, hbn⟩ := List.append_subset.mp hnames
  obtain ⟨hrn, hpn⟩ := List.append_subset.mp hnames
  rw [function, function]
  refine .rule (convertResult_eq h hrn) fun ty => .rule (convertParams_eq h hpn) fun tys => ?_
  refine .newEntity fun entity => ?_
  rw [functionBody, functionBody]
  have hempty : (Frame.empty (env.ambient.inFunction entity)).Relabels r
      (Frame.empty (env'.ambient.inFunction (entity.relabel r))) :=
    .empty (h.ambient.inFunction r entity)
  refine .bind (params_tandem hempty parameters tys) fun p p' hp => ?_
  obtain ⟨frame, entities⟩ := p
  obtain ⟨frame', entities'⟩ := p'
  obtain ⟨hframe, rfl⟩ : frame.Relabels r frame' ∧ entities' = entities.map (Entity.relabel r) := hp
  refine .classes (.addMethod owner name _ span) fun _ => ?_
  refine .ofRule (declare_paired hown entity span) fun b b' hb => ?_
  obtain ⟨rfl, rfl⟩ := hb
  refine .bind (inner_tandem hbody (h.extend _) hframe hbn) fun b b' hb => .pure ?_
  rw [hb, Checked.relabelFunction]

theorem methods_tandem {decls : List (FnDecl Stmt)}
    (hbodies : ∀ m ∈ decls, ∀ x ∈ m.body.body, Coheres r known x) (h : env.Coincides r known env')
    (hsame : env.SameNames env') (cls : ClassRef) (hnames : methodsNames decls ⊆ known) :
    Tandem r (fun fs fs' => fs' = Checked.relabelMethods r fs) (methods cls env decls)
      (methods cls env' decls) := by
  induction decls generalizing env env' with
  | nil =>
    rw [methods, methods]
    exact .pure (by rw [Checked.relabelMethods])
  | cons decl decls ih =>
    rw [methodsNames] at hnames
    obtain ⟨hnames, hrest⟩ := List.append_subset.mp hnames
    obtain ⟨hbody, hbodies⟩ := List.forall_mem_cons.mp hbodies
    rw [methods, methods]
    refine .bind (function_tandem hbody h (some cls) (hsame decl.name) hnames) fun q q' hq => ?_
    subst hq
    refine .bind (ih hbodies (h.extend q.2) (hsame.extend q.2) hrest) fun fs fs' hfs => .pure ?_
    rw [hfs, Checked.relabelMethods]

theorem ctorBody_tandem {body : Block Stmt} (hbody : ∀ x ∈ body.body, Coheres r known x)
    (h : env.Coincides r known env') (ctor : Entity) (parameters : List Param) (tys : List Ty)
    (hnames : blockNames body ⊆ known) :
    Tandem r (fun q q' => q' = (q.1.map (Entity.relabel r), Checked.relabelBlock r q.2))
      (ctorBody env ctor parameters tys fun inner => block inner body)
      (ctorBody env' (ctor.relabel r) parameters tys fun inner => block inner body) := by
  rw [ctorBody, ctorBody]
  have hempty : (Frame.empty (env.ambient.inFunction ctor)).Relabels r
      (Frame.empty (env'.ambient.inFunction (ctor.relabel r))) :=
    .empty (h.ambient.inFunction r ctor)
  refine .bind (params_tandem hempty parameters tys) fun p p' hp => ?_
  obtain ⟨frame, entities⟩ := p
  obtain ⟨frame', entities'⟩ := p'
  obtain ⟨hframe, rfl⟩ : frame.Relabels r frame' ∧ entities' = entities.map (Entity.relabel r) := hp
  refine .bind (inner_tandem hbody h hframe hnames) fun b b' hb => .pure ?_
  rw [hb]

theorem classDecl_tandem {decl : ClassDecl Stmt} (hbody : ∀ x ∈ decl.body.body, Coheres r known x)
    (hbodies : ∀ m ∈ decl.methods, ∀ x ∈ m.body.body, Coheres r known x)
    (h : env.Coincides r known env')
    (hown : env.frame.lookup decl.name = none ↔ env'.frame.lookup decl.name = none)
    (hnames : (Stmt.classDecl decl).names ⊆ known) :
    Tandem r (fun q q' => q' = (Checked.relabelClass r q.1, relabelBinding r q.2))
      (classDecl env decl) (classDecl env' decl) := by
  obtain ⟨name, parameters, body, ctorSpan, decls, span⟩ := decl
  rw [Stmt.names] at hnames
  obtain ⟨hnames, hmn⟩ := List.append_subset.mp hnames
  obtain ⟨hpn, hbn⟩ := List.append_subset.mp hnames
  rw [classDecl, classDecl]
  refine .classes (.newClass name) fun cls => ?_
  have hempty : (Frame.empty (env.ambient.inClass cls)).Relabels r
      (Frame.empty (env'.ambient.inClass cls)) := .empty (h.ambient.inClass cls)
  have hinside := h.push hempty
  have hsame := hempty.sameNames env env'
  refine .bind (R := fun q q' => q' = (q.1.relabel r, q.2.1.map (Entity.relabel r),
    Checked.relabelBlock r q.2.2.1, Checked.relabelMethods r q.2.2.2)) ?_ fun q q' hq => ?_
  · rw [classBody, classBody]
    refine .rule (convertParams_eq hinside hpn) fun tys => .classes (.setCtor cls _) fun _ => ?_
    refine .newEntity fun ctor => ?_
    refine .bind (ctorBody_tandem hbody hinside ctor parameters tys hbn) fun p p' hp => ?_
    subst hp
    refine .bind (methods_tandem hbodies hinside hsame cls hmn) fun fs fs' hfs => .pure ?_
    rw [hfs]
  · subst hq
    refine .newEntity fun entity => ?_
    refine .ofRule (declare_paired hown entity span) fun b b' hb => .pure ?_
    obtain ⟨rfl, rfl⟩ := hb
    rw [Checked.relabelClass]

/-! ### Choices -/

theorem branches_tandem {choices : List (Branch Expr Stmt)}
    (hbodies : ∀ b ∈ choices, ∀ x ∈ b.body.body, Coheres r known x)
    (h : env.Coincides r known env') (hnames : branchesNames choices ⊆ known) :
    Tandem r (fun bs bs' => bs' = Checked.relabelBranches r bs) (branches env choices)
      (branches env' choices) := by
  induction choices with
  | nil =>
    rw [branches, branches]
    exact .pure (by rw [Checked.relabelBranches])
  | cons choice rest ih =>
    obtain ⟨test, body⟩ := choice
    rw [branchesNames] at hnames
    obtain ⟨hnames, hrest⟩ := List.append_subset.mp hnames
    obtain ⟨htn, hbn⟩ := List.append_subset.mp hnames
    obtain ⟨hbody, hbodies⟩ := List.forall_mem_cons.mp hbodies
    rw [branches, branches]
    refine .reading (fun _ => expr_paired r known test h htn) fun t t' ht => ?_
    subst ht
    refine .rule (Rule.boolean_relabel ..) fun _ => ?_
    refine .bind (inner_tandem hbody h (.empty h.ambient) hbn) fun b b' hb => ?_
    refine .bind (ih hbodies hrest) fun bs bs' hbs => .pure ?_
    rw [hb, hbs, Checked.relabelBranches]

theorem alternate_tandem {otherwise : Option (Block Stmt)}
    (hbody : ∀ b ∈ otherwise, ∀ x ∈ b.body, Coheres r known x) (h : env.Coincides r known env')
    (hnames : alternateNames otherwise ⊆ known) :
    Tandem r (fun b b' => b' = Checked.relabelAlternate r b) (alternate env otherwise)
      (alternate env' otherwise) := by
  cases otherwise with
  | none =>
    rw [alternate, alternate]
    exact .pure (by rw [Checked.relabelAlternate])
  | some body =>
    rw [alternateNames] at hnames
    rw [alternate, alternate]
    refine .bind (inner_tandem (hbody body rfl) h (.empty h.ambient) hnames) fun b b' hb => .pure ?_
    rw [hb, Checked.relabelAlternate]

/-! ### Statements -/

/-- Every check of a statement descends first, which does not change the frame at hand. -/
theorem Coheres.of_descend {x : Stmt} {span : Span}
    {rest : Env → Lex (Checked.Stmt × Option (String × Entity))}
    (hstmt : ∀ env, stmt env x = (Lex.ofRule (env.descend span) >>= rest))
    (hrest : ∀ {env env' : Env}, env.Coincides r known env' → x.names ⊆ known →
      (∀ name ∈ x.declared?, (env.frame.lookup name = none ↔ env'.frame.lookup name = none)) →
      Tandem r (fun q q' => q' = (q.1.relabel r, q.2.map (relabelBinding r))) (rest env)
        (rest env')) : Coheres r known x := by
  intro env env' h hnames hown
  rw [hstmt, hstmt]
  refine .ofRule (h.descend span) fun inner inner' hinner => ?_
  obtain ⟨hinner, hframe, hframe'⟩ := hinner
  refine hrest hinner hnames ?_
  rw [hframe, hframe']
  exact hown

/-- **Places that coincide on the names of a statement give it the same checked form**, up to
numbers, or refuse it for the same reason. -/
theorem stmt_tandem (r : Nat → Nat) (known : List String) (x : Stmt) : Coheres r known x := by
  induction x with
  | var name typeExpr value span =>
    apply Coheres.of_descend (fun env => by rw [stmt])
    intro env env' h hnames hown
    rw [Stmt.names] at hnames
    obtain ⟨hvn, htn⟩ := List.append_subset.mp hnames
    refine .reading (fun _ => expr_paired r known value h hvn) fun v v' hv => ?_
    subst hv
    refine .rule (variableType_eq h htn v) fun ty => .newEntity fun entity => ?_
    refine .ofRule (declare_paired (hown name rfl) entity span) fun b b' hb => .pure ?_
    obtain ⟨rfl, rfl⟩ := hb
    rw [Checked.Stmt.relabel, Option.map_some]
  | function decl hbody =>
    apply Coheres.of_descend (fun env => by rw [stmt])
    intro env env' h hnames hown
    rw [Stmt.names] at hnames
    refine .bind (function_tandem hbody h none (hown decl.name rfl) hnames) fun q q' hq => ?_
    subst hq
    exact .pure (by rw [Checked.Stmt.relabel, Option.map_some])
  | classDecl decl hbody hbodies =>
    apply Coheres.of_descend (fun env => by rw [stmt])
    intro env env' h hnames hown
    refine .bind (classDecl_tandem hbody hbodies h (hown decl.name rfl) hnames) fun q q' hq => ?_
    subst hq
    exact .pure (by rw [Checked.Stmt.relabel, Option.map_some])
  | field typeExpr name value span =>
    apply Coheres.of_descend (fun env => by rw [stmt])
    intro env env' h hnames hown
    rw [Stmt.names] at hnames
    obtain ⟨hvn, htn⟩ := List.append_subset.mp hnames
    refine .rule (by rw [h.ambient.cls]) fun cls => ?_
    refine .reading (fun _ => expr_paired r known value h hvn) fun v v' hv => ?_
    subst hv
    refine .rule (convert_eq h htn) fun ty => .rule (Rule.assignable_relabel ..) fun _ => ?_
    refine .classes (.addField cls name ty span) fun _ => .newEntity fun entity => ?_
    refine .ofRule (declare_paired (hown name rfl) entity span) fun b b' hb => .pure ?_
    obtain ⟨rfl, rfl⟩ := hb
    rw [Checked.Stmt.relabel, Option.map_some]
  | assign target value span =>
    apply Coheres.of_descend (fun env => by rw [stmt])
    intro env env' h hnames _
    rw [Stmt.names] at hnames
    obtain ⟨htn, hvn⟩ := List.append_subset.mp hnames
    refine .reading (fun _ => expr_paired r known value h hvn) fun v v' hv => ?_
    refine .reading (fun _ => expr_paired r known target h htn) fun t t' ht => ?_
    subst hv ht
    exact .rule (by simp) fun _ => .pure (by rw [Checked.Stmt.relabel, Option.map_none])
  | print value span =>
    apply Coheres.of_descend (fun env => by rw [stmt])
    intro env env' h hnames _
    rw [Stmt.names] at hnames
    refine .reading (fun _ => expr_paired r known value h hnames) fun v v' hv => ?_
    subst hv
    exact .pure (by rw [Checked.Stmt.relabel, Option.map_none])
  | expr value span =>
    apply Coheres.of_descend (fun env => by rw [stmt])
    intro env env' h hnames _
    rw [Stmt.names] at hnames
    refine .reading (fun _ => expr_paired r known value h hnames) fun v v' hv => ?_
    subst hv
    exact .pure (by rw [Checked.Stmt.relabel, Option.map_none])
  | ifElse choices otherwise span hbodies hbody =>
    apply Coheres.of_descend (fun env => by rw [stmt])
    intro env env' h hnames _
    rw [Stmt.names] at hnames
    obtain ⟨hcn, hon⟩ := List.append_subset.mp hnames
    refine .bind (branches_tandem hbodies h hcn) fun bs bs' hbs => ?_
    refine .bind (alternate_tandem hbody h hon) fun b b' hb => ?_
    subst hbs hb
    exact .pure (by rw [Checked.Stmt.relabel, Option.map_none])
  | whileLoop test body span hbody =>
    apply Coheres.of_descend (fun env => by rw [stmt])
    intro env env' h hnames _
    rw [Stmt.names] at hnames
    obtain ⟨htn, hbn⟩ := List.append_subset.mp hnames
    refine .reading (fun _ => expr_paired r known test h htn) fun t t' ht => ?_
    subst ht
    refine .rule (Rule.boolean_relabel ..) fun _ => ?_
    refine .bind (inner_tandem hbody h (.empty h.ambient.loop) hbn) fun b b' hb => ?_
    subst hb
    exact .pure (by rw [Checked.Stmt.relabel, Option.map_none])
  | forLoop name start stop body span hbody =>
    apply Coheres.of_descend (fun env => by rw [stmt])
    intro env env' h hnames _
    rw [Stmt.names] at hnames
    obtain ⟨hnames, hbn⟩ := List.append_subset.mp hnames
    obtain ⟨hsn, htn⟩ := List.append_subset.mp hnames
    refine .reading (fun _ => expr_paired r known start h hsn) fun s s' hs => ?_
    subst hs
    refine .rule (Rule.integer_relabel ..) fun _ => ?_
    refine .reading (fun _ => expr_paired r known stop h htn) fun t t' ht => ?_
    subst ht
    refine .rule (Rule.integer_relabel ..) fun _ => ?_
    refine .bind (loopBody_tandem hbody h name .int hbn) fun q q' hq => ?_
    subst hq
    exact .pure (by rw [Checked.Stmt.relabel, Option.map_none])
  | forEach name typeExpr iterable body span hbody =>
    apply Coheres.of_descend (fun env => by rw [stmt])
    intro env env' h hnames _
    rw [Stmt.names] at hnames
    obtain ⟨hnames, hbn⟩ := List.append_subset.mp hnames
    obtain ⟨hin, htn⟩ := List.append_subset.mp hnames
    refine .reading (fun _ => expr_paired r known iterable h hin) fun v v' hv => ?_
    subst hv
    refine .rule (loopVariableType_eq h htn v) fun ty => ?_
    refine .bind (loopBody_tandem hbody h name ty hbn) fun q q' hq => ?_
    subst hq
    exact .pure (by rw [Checked.Stmt.relabel, Option.map_none])
  | breakLoop span =>
    apply Coheres.of_descend (fun env => by rw [stmt])
    intro env env' h _ _
    refine .rule (by rw [h.ambient.inLoop]) fun _ => ?_
    exact .pure (by rw [Checked.Stmt.relabel, Option.map_none])
  | ret value span =>
    apply Coheres.of_descend (fun env => by rw [stmt])
    intro env env' h hnames _
    rw [Stmt.names] at hnames
    have hfunction : Paired (fun f f' : Entity => f'.binding = f.binding)
        (require env.ambient.function .returnOutsideFunction span)
        (require env'.ambient.function .returnOutsideFunction span) := by
      have hsame := h.ambient.function
      cases hf : env.ambient.function with
      | none =>
        rw [hf, Option.map_none, Option.map_eq_none_iff] at hsame
        rw [hsame]
        exact .error
      | some f =>
        rw [hf, Option.map_some] at hsame
        obtain ⟨f', hf', hbinding⟩ := Option.map_eq_some_iff.mp hsame
        rw [hf']
        exact .ok hbinding
    refine .ofRule hfunction fun f f' hf => ?_
    refine .reading (fun _ => returned_paired h hf hnames span) fun v v' hv => ?_
    subst hv
    exact .pure (by rw [Checked.Stmt.relabel, Option.map_none])

end Lexical

end Shipshape
