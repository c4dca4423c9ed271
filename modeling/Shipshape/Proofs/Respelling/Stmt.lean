import Shipshape.Proofs.Respelling.Expr

/-!
# Statements in a respelled place

* `Shipshape.Lexical.LexEchoes` – two computations say the same: from a store and the store
  respelled, both fail and say the same, or the second comes to the value and the store of the
  first, respelled;
* `Shipshape.Lexical.stmt_echoes` – by induction over statements: in a respelled place, a check
  says the same about a respelled statement.

The two runs make the same entities and classes at the same points, so the numbers are the same
in both. Only names differ, and these are compared in three places: in the frame at hand, in the
fields of a class and in its methods.
-/

namespace Shipshape

variable {f : Respelling}

/-! ### Members -/

namespace ClassInfo

theorem addField?_respell (c : ClassInfo) (name : String) (ty : Ty) :
    (c.respell f).addField? (f.name name) (ty.respell f) =
      (c.addField? name ty).map (ClassInfo.respell f) := by
  rw [addField?, addField?, field?_respell]
  cases c.field? name with
  | some _ => rfl
  | none => simp [ClassInfo.respell]

theorem addMethod?_respell (c : ClassInfo) (name : String) (signature : Signature) :
    (c.respell f).addMethod? (f.name name) (signature.respell f) =
      (c.addMethod? name signature).map (ClassInfo.respell f) := by
  rw [addMethod?, addMethod?, method?_respell]
  cases c.method? name with
  | some _ => rfl
  | none => simp [ClassInfo.respell]

end ClassInfo

namespace ClassTable

theorem add_respell (t : ClassTable) (name : String) :
    (t.respell f).add (f.name name) =
      ((t.add name).1.respell f, (t.add name).2.respell f) := by
  simp [add, ClassTable.respell, ClassRef.respell, ClassInfo.respell_new]

theorem set_respell (t : ClassTable) (cls : ClassRef) (info : ClassInfo) :
    (t.respell f).set (cls.respell f) (info.respell f) = (t.set cls info).respell f := by
  simp [set, ClassTable.respell, ClassRef.respell, List.map_set]

theorem setCtor_respell (t : ClassTable) (cls : ClassRef) (signature : Signature) :
    (t.respell f).setCtor (cls.respell f) (signature.respell f) =
      (t.setCtor cls signature).respell f := by
  rw [setCtor, setCtor, info_respell, ← set_respell]
  rfl

theorem addField?_respell (t : ClassTable) (cls : ClassRef) (name : String) (ty : Ty) :
    (t.respell f).addField? (cls.respell f) (f.name name) (ty.respell f) =
      (t.addField? cls name ty).map (ClassTable.respell f) := by
  rw [addField?, addField?, info_respell, ClassInfo.addField?_respell, Option.map_map,
    Option.map_map]
  exact congrArg (Option.map · _) (funext (set_respell t cls))

theorem addMethod?_respell (t : ClassTable) (cls : ClassRef) (name : String)
    (signature : Signature) :
    (t.respell f).addMethod? (cls.respell f) (f.name name) (signature.respell f) =
      (t.addMethod? cls name signature).map (ClassTable.respell f) := by
  rw [addMethod?, addMethod?, info_respell, ClassInfo.addMethod?_respell, Option.map_map,
    Option.map_map]
  exact congrArg (Option.map · _) (funext (set_respell t cls))

end ClassTable

namespace Lexical

/-! ### Computations -/

section Computations

variable {α β γ δ : Type}

/-- The store in which classes have other names. -/
def Store.respell (f : Respelling) (σ : Store) : Store := ⟨σ.classes.respell f, σ.nextEntity⟩

/-- The results of two computations that say the same. -/
inductive RunEchoes (f : Respelling) (g : α → β) :
    EStateM.Result Diagnostic Store α → EStateM.Result Diagnostic Store β → Prop
  /-- Two successes. -/
  | ok (a : α) (σ : Store) : RunEchoes f g (.ok a σ) (.ok (g a) (σ.respell f))
  /-- Two failures. -/
  | error {d d' : Diagnostic} {σ σ' : Store} :
    d.Respells f d' → RunEchoes f g (.error d σ) (.error d' σ')

/-- **Two computations say the same**, from any store and the store respelled. -/
def LexEchoes (f : Respelling) (g : α → β) (m : Lex α) (m' : Lex β) : Prop :=
  ∀ σ, RunEchoes f g (m σ) (m' (σ.respell f))

namespace LexEchoes

variable {g : α → β} {h : γ → δ}

theorem pure {a : α} {b : β} (hb : b = g a) : LexEchoes f g (Pure.pure a) (Pure.pure b) := by
  subst hb
  exact fun σ => .ok a σ

theorem bind {m : Lex α} {m' : Lex β} {k : α → Lex γ} {k' : β → Lex δ} (hm : LexEchoes f g m m')
    (hk : ∀ a, LexEchoes f h (k a) (k' (g a))) : LexEchoes f h (m >>= k) (m' >>= k') := by
  intro σ
  have hruns := hm σ
  simp only [Bind.bind, EStateM.bind]
  generalize m σ = run at hruns
  generalize m' (σ.respell f) = run' at hruns
  cases hruns with
  | ok a τ => exact hk a τ
  | error hd => exact .error hd

theorem ofRule {x : Except Diagnostic α} {x' : Except Diagnostic β} (hx : Echoes f g x x') :
    LexEchoes f g (Lex.ofRule x) (Lex.ofRule x') := by
  intro σ
  cases hx with
  | ok a => exact .ok a σ
  | error hd => exact .error hd

theorem reading {x : ClassTable → Except Diagnostic α} {x' : ClassTable → Except Diagnostic β}
    (hx : ∀ classes, Echoes f g (x classes) (x' (classes.respell f))) :
    LexEchoes f g (Lex.reading x) (Lex.reading x') :=
  fun σ => ofRule (hx σ.classes) σ

theorem newEntity (binding : Binding) :
    LexEchoes f (Entity.respell f) (Lex.newEntity binding)
      (Lex.newEntity (binding.respell f)) :=
  fun σ => .ok (Entity.mk σ.nextEntity binding) { σ with nextEntity := σ.nextEntity + 1 }

theorem newClass (name : String) :
    LexEchoes f (ClassRef.respell f) (Lex.newClass name) (Lex.newClass (f.name name)) := by
  intro σ
  have hadd : (σ.respell f).classes.add (f.name name) =
    ((σ.classes.add name).1.respell f, (σ.classes.add name).2.respell f) :=
    ClassTable.add_respell ..
  rw [Lex.newClass, Lex.newClass, hadd]
  exact .ok (σ.classes.add name).2 { σ with classes := (σ.classes.add name).1 }

theorem setCtor (cls : ClassRef) (signature : Signature) :
    LexEchoes f id (Lex.setCtor cls signature)
      (Lex.setCtor (cls.respell f) (signature.respell f)) := by
  intro σ
  have hset : (σ.respell f).classes.setCtor (cls.respell f) (signature.respell f) =
    (σ.classes.setCtor cls signature).respell f := ClassTable.setCtor_respell ..
  rw [Lex.setCtor, Lex.setCtor, hset]
  exact .ok () { σ with classes := σ.classes.setCtor cls signature }

theorem addField (cls : ClassRef) (name : String) (ty : Ty) (span : Span) :
    LexEchoes f id (Lex.addField cls name ty span)
      (Lex.addField (cls.respell f) (f.name name) (ty.respell f) (span.respell f)) := by
  intro σ
  have hadd : (σ.respell f).classes.addField? (cls.respell f) (f.name name) (ty.respell f) =
    (σ.classes.addField? cls name ty).map (ClassTable.respell f) := ClassTable.addField?_respell ..
  rw [Lex.addField, Lex.addField, hadd]
  cases σ.classes.addField? cls name ty with
  | some classes => exact .ok () { σ with classes }
  | none => exact .error (.located (.duplicateDeclaration name) span)

theorem addMethod (owner : Option ClassRef) (name : String) (signature : Signature)
    (span : Span) :
    LexEchoes f id (Lex.addMethod owner name signature span)
      (Lex.addMethod (owner.map (ClassRef.respell f)) (f.name name) (signature.respell f)
        (span.respell f)) := by
  intro σ
  cases owner with
  | none => exact .ok () σ
  | some cls =>
    have hadd : (σ.respell f).classes.addMethod? (cls.respell f) (f.name name)
        (signature.respell f) =
      (σ.classes.addMethod? cls name signature).map (ClassTable.respell f) :=
      ClassTable.addMethod?_respell ..
    rw [Lex.addMethod, Option.map_some, Lex.addMethod, hadd]
    cases σ.classes.addMethod? cls name signature with
    | some classes => exact .ok () { σ with classes }
    | none => exact .error (.located (.duplicateDeclaration name) span)

end LexEchoes

end Computations

/-! ### Declarations -/

section Declarations

variable (f : Respelling)

theorem declare_echoes (frame : Frame) (name : String) (entity : Entity) (span : Span) :
    Echoes f (respellBinding f) (frame.declare name entity span)
      ((frame.respell f).declare (f.name name) (entity.respell f) (span.respell f)) := by
  rw [Frame.declare, Frame.declare, Frame.lookup_respell]
  cases frame.lookup name with
  | some _ => exact .error (.located (.duplicateDeclaration name) span)
  | none => exact .ok (name, entity)

theorem params_echoes (frame : Frame) (parameters : List Param) (tys : List Ty) :
    LexEchoes f (fun p => (p.1.respell f, p.2.map (Entity.respell f)))
      (params frame parameters tys)
      (params (frame.respell f) (parameters.map (Param.respell f)) (respellTys f tys)) := by
  induction parameters generalizing frame tys with
  | nil =>
    rw [List.map_nil, params.eq_def, params.eq_def]
    exact .pure rfl
  | cons param rest ih =>
    cases tys with
    | nil =>
      rw [respellTys, params.eq_def, params.eq_def]
      exact .pure rfl
    | cons ty tys =>
      rw [List.map_cons, respellTys, params, params]
      refine .bind (.newEntity (.param param.name ty)) fun entity => ?_
      refine .bind (.ofRule (declare_echoes f frame param.name entity param.span)) fun b => ?_
      have hrest := ih (frame.extend [b]) tys
      rw [Frame.respell_extend] at hrest
      exact .bind hrest fun p => .pure rfl

theorem variableType_echoes (env : Env) (typeExpr : Option TypeExpr) (value : Checked.Expr) :
    Echoes f (Ty.respell f) (variableType env typeExpr value)
      (variableType (env.respell f) (typeExpr.map (TypeExpr.respell f)) (value.respell f)) := by
  cases typeExpr with
  | none => exact Rule.inferred_echoes f value
  | some typeExpr =>
    refine .bind (convert_echoes f env typeExpr) fun declared => ?_
    exact .bind (Rule.assignable_echoes f value declared) fun _ => .pure rfl

theorem loopVariableType_echoes (env : Env) (typeExpr : Option TypeExpr)
    (iterable : Checked.Expr) :
    Echoes f (Ty.respell f) (loopVariableType env typeExpr iterable)
      (loopVariableType (env.respell f) (typeExpr.map (TypeExpr.respell f))
        (iterable.respell f)) := by
  refine .bind (Rule.iterated_echoes f iterable) fun element => ?_
  cases typeExpr with
  | none => exact Rule.inferredElement_echoes f iterable element
  | some typeExpr =>
    refine .bind (convert_echoes f env typeExpr) fun declared => ?_
    exact Rule.declaredElement_echoes f iterable element declared

theorem returned_echoes (env : Env) (classes : ClassTable) (function : Entity)
    (value : Option Expr) (span : Span) :
    Echoes f (Option.map (Checked.Expr.respell f)) (returned env classes function value span)
      (returned (env.respell f) (classes.respell f) (function.respell f)
        (value.map (Expr.respell f)) (span.respell f)) := by
  cases value with
  | none => exact .bind (Rule.returns_echoes f function false span) fun _ => .pure rfl
  | some value =>
    refine .bind (Rule.returns_echoes f function true span) fun _ => ?_
    refine .bind (expr_echoes value env classes) fun v => ?_
    have hfits := Rule.assignable_echoes f v function.resultType
    rw [← Entity.resultType_respell] at hfits
    exact .bind hfits fun _ => .pure rfl

end Declarations

/-! ### Blocks -/

/-- In every place, a check says the same about the statement when both are respelled. -/
def StmtEchoes (f : Respelling) (x : Stmt) : Prop :=
  ∀ env : Env, LexEchoes f (fun q => (q.1.respell f, q.2.map (respellBinding f))) (stmt env x)
    (stmt (env.respell f) (x.respell f))

theorem stmts_echoes {xs : List Stmt} (hxs : ∀ x ∈ xs, StmtEchoes f x) (env : Env) :
    LexEchoes f (Checked.respellStmts f) (stmts env xs)
      (stmts (env.respell f) (respellStmts f xs)) := by
  induction xs generalizing env with
  | nil =>
    rw [respellStmts, stmts, stmts]
    exact .pure rfl
  | cons x xs ih =>
    obtain ⟨hx, hxs⟩ := List.forall_mem_cons.mp hxs
    rw [respellStmts, stmts, stmts]
    refine .bind (hx env) fun q => ?_
    have hrest := ih hxs (env.extend q.2.toList)
    rw [Env.respell_extend, ← Option.toList_map] at hrest
    exact .bind hrest fun ys => .pure rfl

theorem block_echoes {body : Block Stmt} (hbody : ∀ x ∈ body.body, StmtEchoes f x) (env : Env) :
    LexEchoes f (Checked.respellBlock f) (block env body)
      (block (env.respell f) (respellBlock f body)) := by
  obtain ⟨xs, span⟩ := body
  rw [respellBlock, block, block]
  exact .bind (stmts_echoes hbody env) fun ys => .pure rfl

theorem loopBody_echoes {body : Block Stmt} (hbody : ∀ x ∈ body.body, StmtEchoes f x) (env : Env)
    (name : String) (ty : Ty) :
    LexEchoes f (fun q => (q.1.respell f, Checked.respellBlock f q.2))
      (loopBody env name ty fun inner => block inner body)
      (loopBody (env.respell f) (f.name name) (ty.respell f) fun inner =>
        block inner (respellBlock f body)) := by
  rw [loopBody, loopBody]
  refine .bind (.newEntity (.var name ty)) fun entity => ?_
  have hinner := block_echoes hbody (env.push ⟨[(name, entity)], env.ambient.loop⟩)
  exact .bind hinner fun b => .pure rfl

theorem branches_echoes {choices : List (Branch Expr Stmt)}
    (hchoices : ∀ c ∈ choices, ∀ x ∈ c.body.body, StmtEchoes f x) (env : Env) :
    LexEchoes f (Checked.respellBranches f) (branches env choices)
      (branches (env.respell f) (respellBranches f choices)) := by
  induction choices with
  | nil =>
    rw [respellBranches, branches, branches]
    exact .pure rfl
  | cons choice choices ih =>
    obtain ⟨test, body⟩ := choice
    obtain ⟨hbody, hchoices⟩ := List.forall_mem_cons.mp hchoices
    rw [respellBranches, branches, branches]
    refine .bind (.reading (expr_echoes test env)) fun t => ?_
    refine .bind (.ofRule (Rule.boolean_echoes f t)) fun _ => ?_
    refine .bind (block_echoes hbody (env.push (.empty env.ambient))) fun b => ?_
    exact .bind (ih hchoices) fun rest => .pure rfl

theorem alternate_echoes {otherwise : Option (Block Stmt)}
    (hbody : ∀ body ∈ otherwise, ∀ x ∈ body.body, StmtEchoes f x) (env : Env) :
    LexEchoes f (Checked.respellAlternate f) (alternate env otherwise)
      (alternate (env.respell f) (respellAlternate f otherwise)) := by
  cases otherwise with
  | none =>
    rw [respellAlternate, alternate, alternate]
    exact .pure rfl
  | some body =>
    rw [respellAlternate, alternate, alternate]
    refine .bind (block_echoes (hbody body rfl) (env.push (.empty env.ambient))) fun b => ?_
    exact .pure rfl

/-! ### Functions and classes -/

theorem function_echoes {decl : FnDecl Stmt} (hbody : ∀ x ∈ decl.body.body, StmtEchoes f x)
    (owner : Option ClassRef) (env : Env) :
    LexEchoes f (fun q => (Checked.respellFunction f q.1, respellBinding f q.2))
      (function owner env decl)
      (function (owner.map (ClassRef.respell f)) (env.respell f) (respellFunction f decl)) := by
  obtain ⟨name, parameters, result, body, span⟩ := decl
  rw [respellFunction, function, function]
  refine .bind (.ofRule (convertResult_echoes f env result)) fun ty => ?_
  refine .bind (.ofRule (convertParams_echoes f env parameters)) fun tys => ?_
  refine .bind (.newEntity (.function name ⟨tys, ty⟩)) fun entity => ?_
  rw [functionBody, functionBody]
  refine .bind (params_echoes f (.empty (env.ambient.inFunction entity)) parameters tys) fun p => ?_
  refine .bind (.addMethod owner name ⟨tys, ty⟩ span) fun _ => ?_
  refine .bind (.ofRule (declare_echoes f env.frame name entity span)) fun b => ?_
  have hinner := block_echoes hbody ((env.extend [b]).push p.1)
  rw [Env.respell_push, Env.respell_extend] at hinner
  exact .bind hinner fun body => .pure rfl

theorem methods_echoes {decls : List (FnDecl Stmt)}
    (hbodies : ∀ m ∈ decls, ∀ x ∈ m.body.body, StmtEchoes f x) (cls : ClassRef) (env : Env) :
    LexEchoes f (Checked.respellMethods f) (methods cls env decls)
      (methods (cls.respell f) (env.respell f) (respellMethods f decls)) := by
  induction decls generalizing env with
  | nil =>
    rw [respellMethods, methods, methods]
    exact .pure rfl
  | cons decl decls ih =>
    obtain ⟨hbody, hbodies⟩ := List.forall_mem_cons.mp hbodies
    rw [respellMethods, methods, methods]
    refine .bind (function_echoes hbody (some cls) env) fun q => ?_
    have hrest := ih hbodies (env.extend [q.2])
    rw [Env.respell_extend] at hrest
    exact .bind hrest fun fs => .pure rfl

theorem ctorBody_echoes {body : Block Stmt} (hbody : ∀ x ∈ body.body, StmtEchoes f x) (env : Env)
    (ctor : Entity) (parameters : List Param) (tys : List Ty) :
    LexEchoes f (fun q => (q.1.map (Entity.respell f), Checked.respellBlock f q.2))
      (ctorBody env ctor parameters tys fun inner => block inner body)
      (ctorBody (env.respell f) (ctor.respell f) (parameters.map (Param.respell f))
        (respellTys f tys) fun inner => block inner (respellBlock f body)) := by
  rw [ctorBody, ctorBody]
  refine .bind (params_echoes f (.empty (env.ambient.inFunction ctor)) parameters tys) fun p => ?_
  exact .bind (block_echoes hbody (env.push p.1)) fun b => .pure rfl

theorem classDecl_echoes {decl : ClassDecl Stmt} (hbody : ∀ x ∈ decl.body.body, StmtEchoes f x)
    (hbodies : ∀ m ∈ decl.methods, ∀ x ∈ m.body.body, StmtEchoes f x) (env : Env) :
    LexEchoes f (fun q => (Checked.respellClass f q.1, respellBinding f q.2))
      (classDecl env decl) (classDecl (env.respell f) (respellClass f decl)) := by
  obtain ⟨name, parameters, body, ctorSpan, decls, span⟩ := decl
  rw [respellClass, classDecl, classDecl]
  refine .bind (.newClass name) fun cls => ?_
  -- The inside: the signature of the constructor, its body, and then the methods.
  have hinside : LexEchoes f (fun q => (q.1.respell f, q.2.1.map (Entity.respell f),
        Checked.respellBlock f q.2.2.1, Checked.respellMethods f q.2.2.2))
      (classBody env cls name parameters (fun inner => block inner body)
        fun inside => methods cls inside decls)
      (classBody (env.respell f) (cls.respell f) (f.name name) (parameters.map (Param.respell f))
        (fun inner => block inner (respellBlock f body))
        fun inside => methods (cls.respell f) inside (respellMethods f decls)) := by
    rw [classBody, classBody]
    have htys := convertParams_echoes f (env.push (.empty (env.ambient.inClass cls))) parameters
    refine .bind (.ofRule htys) fun tys => ?_
    refine .bind (.setCtor cls ⟨tys, .none⟩) fun _ => ?_
    refine .bind (.newEntity (.function name ⟨tys, .none⟩)) fun ctor => ?_
    refine .bind (ctorBody_echoes hbody _ ctor parameters tys) fun q => ?_
    exact .bind (methods_echoes hbodies cls _) fun fs => .pure rfl
  refine .bind hinside fun q => ?_
  refine .bind (.newEntity (.classType cls)) fun entity => ?_
  refine .bind (.ofRule (declare_echoes f env.frame name entity span)) fun b => ?_
  exact .pure rfl

/-! ### Statements -/

/-- **A check says the same about a respelled statement.** -/
theorem stmt_echoes (x : Stmt) : StmtEchoes f x := by
  intro env
  induction x generalizing env with
  | var name typeExpr value span =>
    rw [Stmt.respell, stmt, stmt]
    refine .bind (.ofRule (descend_echoes f env span)) fun inner => ?_
    refine .bind (.reading (expr_echoes value inner)) fun v => ?_
    refine .bind (.ofRule (variableType_echoes f inner typeExpr v)) fun ty => ?_
    refine .bind (.newEntity (.var name ty)) fun entity => ?_
    refine .bind (.ofRule (declare_echoes f inner.frame name entity span)) fun b => ?_
    exact .pure rfl
  | function decl ih =>
    obtain ⟨name, parameters, result, body, span⟩ := decl
    rw [Stmt.respell, stmt, stmt]
    refine .bind (.ofRule (descend_echoes f env span)) fun inner => ?_
    refine .bind (function_echoes ih none inner) fun q => ?_
    exact .pure rfl
  | classDecl decl ihb ihm =>
    obtain ⟨name, parameters, body, ctorSpan, decls, span⟩ := decl
    rw [Stmt.respell, stmt, stmt]
    refine .bind (.ofRule (descend_echoes f env span)) fun inner => ?_
    refine .bind (classDecl_echoes ihb ihm inner) fun q => ?_
    exact .pure rfl
  | field typeExpr name value span =>
    rw [Stmt.respell, stmt, stmt]
    refine .bind (.ofRule (descend_echoes f env span)) fun inner => ?_
    refine .bind (.ofRule (require_echoes (g := ClassRef.respell f) rfl .selfOutsideClass span))
      fun cls => ?_
    refine .bind (.reading (expr_echoes value inner)) fun v => ?_
    refine .bind (.ofRule (convert_echoes f inner typeExpr)) fun ty => ?_
    refine .bind (.ofRule (Rule.assignable_echoes f v ty)) fun _ => ?_
    refine .bind (.addField cls name ty span) fun _ => ?_
    refine .bind (.newEntity (.field name ty)) fun entity => ?_
    refine .bind (.ofRule (declare_echoes f inner.frame name entity span)) fun b => ?_
    exact .pure rfl
  | assign target value span =>
    rw [Stmt.respell, stmt, stmt]
    refine .bind (.ofRule (descend_echoes f env span)) fun inner => ?_
    refine .bind (.reading (expr_echoes value inner)) fun v => ?_
    refine .bind (.reading (expr_echoes target inner)) fun t => ?_
    have hfits := Rule.assignable_echoes f v t.ty
    rw [← t.ty_respell] at hfits
    refine .bind (.ofRule hfits) fun _ => ?_
    exact .pure rfl
  | print value span =>
    rw [Stmt.respell, stmt, stmt]
    refine .bind (.ofRule (descend_echoes f env span)) fun inner => ?_
    refine .bind (.reading (expr_echoes value inner)) fun v => ?_
    exact .pure rfl
  | expr value span =>
    rw [Stmt.respell, stmt, stmt]
    refine .bind (.ofRule (descend_echoes f env span)) fun inner => ?_
    refine .bind (.reading (expr_echoes value inner)) fun v => ?_
    exact .pure rfl
  | ifElse choices otherwise span ihc iho =>
    rw [Stmt.respell, stmt, stmt]
    refine .bind (.ofRule (descend_echoes f env span)) fun inner => ?_
    refine .bind (branches_echoes ihc inner) fun bs => ?_
    refine .bind (alternate_echoes iho inner) fun b => ?_
    exact .pure rfl
  | whileLoop test body span ih =>
    rw [Stmt.respell, stmt, stmt]
    refine .bind (.ofRule (descend_echoes f env span)) fun inner => ?_
    refine .bind (.reading (expr_echoes test inner)) fun t => ?_
    refine .bind (.ofRule (Rule.boolean_echoes f t)) fun _ => ?_
    refine .bind (block_echoes ih (inner.push (.empty inner.ambient.loop))) fun b => ?_
    exact .pure rfl
  | forLoop name start stop body span ih =>
    rw [Stmt.respell, stmt, stmt]
    refine .bind (.ofRule (descend_echoes f env span)) fun inner => ?_
    refine .bind (.reading (expr_echoes start inner)) fun s => ?_
    refine .bind (.ofRule (Rule.integer_echoes f s)) fun _ => ?_
    refine .bind (.reading (expr_echoes stop inner)) fun t => ?_
    refine .bind (.ofRule (Rule.integer_echoes f t)) fun _ => ?_
    have hbody := loopBody_echoes ih inner name .int
    rw [Ty.respell_scalar] at hbody
    refine .bind hbody fun q => ?_
    exact .pure rfl
  | forEach name typeExpr iterable body span ih =>
    rw [Stmt.respell, stmt, stmt]
    refine .bind (.ofRule (descend_echoes f env span)) fun inner => ?_
    refine .bind (.reading (expr_echoes iterable inner)) fun e => ?_
    refine .bind (.ofRule (loopVariableType_echoes f inner typeExpr e)) fun ty => ?_
    refine .bind (loopBody_echoes ih inner name ty) fun q => ?_
    exact .pure rfl
  | breakLoop span =>
    rw [Stmt.respell, stmt, stmt]
    refine .bind (.ofRule (descend_echoes f env span)) fun inner => ?_
    refine .bind (g := id) (.ofRule ?_) fun _ => ?_
    · exact .ite rfl (.ok ()) (.error (.located .breakOutsideLoop span))
    · exact .pure rfl
  | ret value span =>
    rw [Stmt.respell, stmt, stmt]
    refine .bind (.ofRule (descend_echoes f env span)) fun inner => ?_
    refine .bind (.ofRule (require_echoes (g := Entity.respell f) rfl .returnOutsideFunction span))
      fun function => ?_
    refine .bind (.reading fun classes => returned_echoes f inner classes function value span)
      fun v => ?_
    exact .pure rfl

end Lexical

end Shipshape
