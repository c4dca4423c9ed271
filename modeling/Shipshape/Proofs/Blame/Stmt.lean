import Shipshape.Proofs.Blame.Computation
import Shipshape.Proofs.Refusal.Tree

/-!
# Where the check of a tree puts the blame

A refusal points to a node of the tree that is checked.

* `Shipshape.Stmt.Marks` – the spans that a refusal may point to: of statements and
  expressions, of parameters, and of the names in type expressions;
* `Shipshape.checkExpr_blames`, `Shipshape.convert_blames`, `Shipshape.checkStmt_blames` –
  by induction over the tree, a refusal points to one of them.

Several rules look at parts that are checked already, and blame the spans which these
carry. So what is said of an expression is also that its span stays one of the tree
(`Shipshape.Check.Tracks`).
-/

namespace Shipshape

open Check (Blames)

/-- A computation that blames some spans only, whatever it yields. -/
abbrev Check.Stays {α : Type} (m : Check α) (marks : Span → Prop) : Prop :=
  Blames m marks fun _ => True

/-- **A computation that blames some spans only** and yields an expression at one of
them. -/
def Check.Tracks (m : Check Checked.Expr) (marks : Span → Prop) : Prop :=
  Blames m marks fun e => marks e.span

theorem Check.Tracks.mono {m : Check Checked.Expr} {marks others : Span → Prop}
    (h : m.Tracks marks) (hmarks : ∀ span, marks span → others span) : m.Tracks others :=
  Blames.mono h hmarks fun _ hspan => hmarks _ hspan

/-! ### Expressions and type expressions -/

variable {id : ScopeId} {marks : Span → Prop}

/-- A complaint at one of the spans points to one of them. -/
theorem Diagnostic.admits_of_marks {span : Span} (h : marks span) :
    Admits (·.PointsTo marks) span :=
  fun cause _ => pointsTo_located h cause

open Diagnostic (admits_of_marks)

/-- **The check of an expression blames the expression** or something in it. -/
theorem checkExpr_blames (id : ScopeId) (e : Expr) : (checkExpr id e).Tracks e.Marks := by
  refine .of_answers ((checkExpr_answers (fun _ => admits_of_marks) id).mono (fun _ hd => hd) ?_)
  intro e' hspan
  rw [hspan]
  exact e.marks_self

/-- **A type expression is blamed at one of its names.** -/
theorem convert_blames (id : ScopeId) {a : TypeExpr} (h : ∀ span, a.Marks span → marks span) :
    (convert id a).Stays marks :=
  .of_answers (convert_only (fun span hspan => (admits_of_marks (h span hspan)).plain) id)

theorem convertResult_blames {result : Option TypeExpr}
    (h : ∀ a ∈ result, ∀ span, a.Marks span → marks span) :
    (convertResult id result).Stays marks :=
  .of_answers <| convertResult_only fun a ha span hspan =>
    (admits_of_marks (h a ha span hspan)).plain

theorem convertParams_blames {params : List Param}
    (h : ∀ p ∈ params, ∀ span, p.typeExpr.Marks span → marks span) :
    (convertParams id params).Stays marks :=
  .of_answers <| convertParams_only fun p hp span hspan =>
    (admits_of_marks (h p hp span hspan)).plain

/-! ### Statements -/

/-- The parameters that a statement declares. -/
def Stmt.params : Stmt → List Param
  | .function decl => decl.params
  | .classDecl decl => decl.params
  | _ => []

/-- The type expressions that a statement writes for what it declares. -/
def Stmt.typeExprs : Stmt → List TypeExpr
  | .var _ typeExpr _ _ | .forEach _ typeExpr _ _ _ => typeExpr.toList
  | .function decl => decl.result.toList ++ decl.params.map Param.typeExpr
  | .classDecl decl => decl.params.map Param.typeExpr
  | .field typeExpr _ _ _ => [typeExpr]
  | _ => []

/-- **A span of a statement**: its own, or that of an expression, of a parameter, of a name
in a type expression or of a statement in it. A method counts as the statement that
declares a function. -/
inductive Stmt.Marks : Stmt → Span → Prop
  /-- The statement itself. -/
  | self {x : Stmt} : Marks x x.span
  /-- An expression. -/
  | expr {x : Stmt} {e : Expr} {span : Span} : e ∈ x.exprs → e.Marks span → Marks x span
  /-- A parameter. -/
  | param {x : Stmt} {p : Param} : p ∈ x.params → Marks x p.span
  /-- A name in a type expression. -/
  | typeExpr {x : Stmt} {a : TypeExpr} {span : Span} : a ∈ x.typeExprs → a.Marks span →
      Marks x span
  /-- A method of a class. -/
  | method {decl : ClassDecl Stmt} {m : FnDecl Stmt} {span : Span} : m ∈ decl.methods →
      Marks (.function m) span → Marks (.classDecl decl) span
  /-- A statement of a block. -/
  | inner {x y : Stmt} {b : Body} {span : Span} : b ∈ x.bodies → y ∈ b.block.body →
      Marks y span → Marks x span

theorem declareParams_blames {params : List Param} (h : ∀ p ∈ params, marks p.span)
    (tys : List Ty) : (declareParams id params tys).Stays marks :=
  .of_answers (declareParams_only (fun p hp => (admits_of_marks (h p hp)).plain) tys)

theorem declareMethod_blames {span : Span} (h : marks span) (owner : Option ClassRef)
    (name : String) (signature : Signature) :
    (declareMethod owner name signature span).Stays marks :=
  .of_answers (declareMethod_only (admits_of_marks h).plain owner name signature)

theorem variableType_blames {typeExpr : Option TypeExpr} {value : Checked.Expr}
    (h : ∀ a ∈ typeExpr, ∀ span, a.Marks span → marks span) (hvalue : marks value.span) :
    (variableType id typeExpr value).Stays marks :=
  .of_answers (variableType_only (fun a ha span hspan => admits_of_marks (h a ha span hspan))
    (Rule.allows_of_marks hvalue) fun _ => Rule.inferred_blames hvalue)

theorem loopVariableType_blames {typeExpr : Option TypeExpr} {iterable : Checked.Expr}
    (h : ∀ a ∈ typeExpr, ∀ span, a.Marks span → marks span) (hiterable : marks iterable.span) :
    (loopVariableType id typeExpr iterable).Stays marks :=
  .of_answers (loopVariableType_only (fun a ha span hspan => admits_of_marks (h a ha span hspan))
    (Rule.allows_of_marks hiterable) fun _ => Rule.inferredElement_blames hiterable)

theorem checkReturn_blames {value : Option Expr} {span : Span} (hspan : marks span)
    (h : ∀ e ∈ value, (checkExpr id e).Tracks marks) (function : Entity) :
    (checkReturn id function value span).Stays marks :=
  .of_answers (checkReturn_only (admits_of_marks hspan)
    (fun e he => (h e he).answers.mono (fun _ hd => hd) fun _ => Rule.allows_of_marks) function)

theorem checkStmts_blames {xs : List Stmt}
    (hxs : ∀ x ∈ xs, ∀ id, (checkStmt id x).Stays marks) (id : ScopeId) :
    (checkStmts id xs).Stays marks := by
  induction xs with
  | nil =>
    rw [checkStmts]
    exact .pure trivial
  | cons x xs ih =>
    obtain ⟨hx, hxs⟩ := List.forall_mem_cons.mp hxs
    rw [checkStmts]
    exact .next (hx id) fun y => .next (ih hxs) fun ys => .pure trivial

theorem checkBlock_blames {body : Block Stmt}
    (hbody : ∀ x ∈ body.body, ∀ id, (checkStmt id x).Stays marks) (id : ScopeId) :
    (checkBlock id body).Stays marks := by
  rw [checkBlock]
  exact .next (checkStmts_blames hbody id) fun _ => .pure trivial

/-- A block in a scope of its own. -/
theorem childBlock_blames {body : Block Stmt}
    (hbody : ∀ x ∈ body.body, ∀ id, (checkStmt id x).Stays marks) (id : ScopeId)
    (changes : Overrides) :
    (Check.withChild id changes fun inner => checkBlock inner body).Stays marks :=
  .withChild fun inner => checkBlock_blames hbody inner

/-- What blames a statement of a block blames the whole. -/
theorem Stmt.Marks.stays {x y : Stmt} {b : Body} (hb : b ∈ x.bodies) (hy : y ∈ b.block.body)
    (h : ∀ id, (checkStmt id y).Stays y.Marks) (id : ScopeId) :
    (checkStmt id y).Stays x.Marks :=
  (h id).mono (fun _ hspan => .inner hb hy hspan) fun _ _ => trivial

/-- What blames an expression of a statement blames the statement. -/
theorem Stmt.Marks.tracks {x : Stmt} {e : Expr} (he : e ∈ x.exprs) (id : ScopeId) :
    (checkExpr id e).Tracks x.Marks :=
  (checkExpr_blames id e).mono fun _ hspan => .expr he hspan

/-- A function or a method. -/
theorem checkFunction_blames {decl : FnDecl Stmt}
    (hbody : ∀ x ∈ decl.body.body, ∀ id, (checkStmt id x).Stays x.Marks)
    (owner : Option ClassRef) (id : ScopeId) :
    (checkFunction owner id decl).Stays (Stmt.function decl).Marks := by
  obtain ⟨name, params, result, body, span⟩ := decl
  set x : Stmt := .function ⟨name, params, result, body, span⟩
  have hself : x.Marks span := .self
  have hresult : ∀ a ∈ result, ∀ span, a.Marks span → x.Marks span := fun a ha span hspan =>
    .typeExpr (List.mem_append_left _ (Option.mem_toList.mpr ha)) hspan
  have htypes : ∀ p ∈ params, ∀ span, p.typeExpr.Marks span → x.Marks span := fun p hp span hspan =>
    .typeExpr (List.mem_append_right _ (List.mem_map_of_mem hp)) hspan
  have hparams : ∀ p ∈ params, x.Marks p.span := fun p hp => .param hp
  have hblock : ∀ y ∈ body.body, ∀ id, (checkStmt id y).Stays x.Marks := fun y hy id =>
    Stmt.Marks.stays List.mem_cons_self hy (hbody y hy) id
  rw [checkFunction]
  refine .next (convertResult_blames hresult) fun ty =>
    .next (convertParams_blames htypes) fun tys =>
      .next (.newEntity _) fun entity => .withChild fun inner => ?_
  exact .next (declareParams_blames hparams tys) fun _ =>
    .next (declareMethod_blames hself owner name _) fun _ =>
      .next (.declare hself _ _ _) fun _ =>
        .next (checkBlock_blames hblock inner) fun _ => .pure trivial

theorem checkMethods_blames {cls : ClassRef} {methods : List (FnDecl Stmt)}
    (h : ∀ m ∈ methods, (checkFunction (some cls) id m).Stays marks) :
    (checkMethods cls id methods).Stays marks := by
  induction methods with
  | nil =>
    rw [checkMethods]
    exact .pure trivial
  | cons m methods ih =>
    obtain ⟨hm, h⟩ := List.forall_mem_cons.mp h
    rw [checkMethods]
    exact .next hm fun _ => .next (ih h) fun _ => .pure trivial

theorem checkClass_blames {decl : ClassDecl Stmt}
    (hbody : ∀ x ∈ decl.body.body, ∀ id, (checkStmt id x).Stays x.Marks)
    (hmethods : ∀ m ∈ decl.methods, ∀ x ∈ m.body.body, ∀ id, (checkStmt id x).Stays x.Marks)
    (id : ScopeId) : (checkClass id decl).Stays (Stmt.classDecl decl).Marks := by
  obtain ⟨name, params, body, ctorSpan, methods, span⟩ := decl
  set x : Stmt := .classDecl ⟨name, params, body, ctorSpan, methods, span⟩
  have htypes : ∀ p ∈ params, ∀ span, p.typeExpr.Marks span → x.Marks span := fun p hp span hspan =>
    .typeExpr (List.mem_map_of_mem hp) hspan
  have hparams : ∀ p ∈ params, x.Marks p.span := fun p hp => .param hp
  have hblock : ∀ y ∈ body.body, ∀ id, (checkStmt id y).Stays x.Marks := fun y hy id =>
    Stmt.Marks.stays List.mem_cons_self hy (hbody y hy) id
  rw [checkClass]
  refine .next (.newClass name) fun cls => .next (.withChild fun inside => ?_) fun _ =>
    .next (.newEntity _) fun entity => .next (.declare .self _ _ _) fun _ => .pure trivial
  refine .next (convertParams_blames htypes) fun tys => .next (.setCtor _ _) fun _ =>
    .next (.newEntity _) fun ctor => .next (.withChild fun inner => ?_) fun _ => ?_
  · exact .next (declareParams_blames hparams tys) fun _ =>
      .next (checkBlock_blames hblock inner) fun _ => .pure trivial
  · refine .next (checkMethods_blames fun m hm => ?_) fun _ => .pure trivial
    exact (checkFunction_blames (hmethods m hm) (some cls) inside).mono
      (fun _ hspan => .method hm hspan) fun _ _ => trivial

theorem checkBranches_blames {branches : List (Branch Expr Stmt)}
    (htests : ∀ b ∈ branches, (checkExpr id b.test).Tracks marks)
    (hbodies : ∀ b ∈ branches, ∀ x ∈ b.body.body, ∀ id, (checkStmt id x).Stays marks) :
    (checkBranches id branches).Stays marks := by
  induction branches with
  | nil =>
    rw [checkBranches]
    exact .pure trivial
  | cons b branches ih =>
    obtain ⟨htest, htests⟩ := List.forall_mem_cons.mp htests
    obtain ⟨hbody, hbodies⟩ := List.forall_mem_cons.mp hbodies
    rw [checkBranches]
    exact .bind htest fun test' ht => .next (.ofRule (Rule.boolean_blames ht)) fun _ =>
      .next (childBlock_blames hbody id _) fun _ =>
        .next (ih htests hbodies) fun _ => .pure trivial

theorem checkAlternate_blames {alternate : Option (Block Stmt)}
    (h : ∀ b ∈ alternate, ∀ x ∈ b.body, ∀ id, (checkStmt id x).Stays marks) :
    (checkAlternate id alternate).Stays marks := by
  cases alternate with
  | none =>
    rw [checkAlternate]
    exact .pure trivial
  | some body =>
    rw [checkAlternate]
    exact .next (childBlock_blames (h body rfl) id _) fun _ => .pure trivial

/-- The body of a loop that declares a variable. -/
theorem loopBody_blames {body : Block Stmt}
    (hbody : ∀ x ∈ body.body, ∀ id, (checkStmt id x).Stays marks) {span : Span}
    (hspan : marks span) (id : ScopeId) (name : String) (ty : Ty) :
    (Check.withChild id { inLoop := some true } fun inner => do
      let entity ← Check.newEntity (.var name ty)
      Check.declare inner name entity span
      let body ← checkBlock inner body
      return (entity, body)).Stays marks :=
  .withChild fun inner => .next (.newEntity _) fun _ => .next (.declare hspan _ _ _) fun _ =>
    .next (checkBlock_blames hbody inner) fun _ => .pure trivial

/-- **The check of a statement blames the statement** or something in it. -/
theorem checkStmt_blames (x : Stmt) (id : ScopeId) : (checkStmt id x).Stays x.Marks := by
  induction x generalizing id with
  | var name typeExpr value span =>
    rw [checkStmt]
    refine .nested .self (.bind (Stmt.Marks.tracks List.mem_cons_self id) fun value' hv =>
      .next (variableType_blames (fun a ha span hspan => ?_) hv) fun ty => ?_)
    · exact .typeExpr (Option.mem_toList.mpr ha) hspan
    · exact .next (.newEntity _) fun entity => .next (.declare .self _ _ _) fun _ =>
        .pure trivial
  | function decl ih =>
    rw [checkStmt]
    exact .nested .self (.next (checkFunction_blames ih none id) fun _ => .pure trivial)
  | classDecl decl ihb ihm =>
    rw [checkStmt]
    exact .nested .self (.next (checkClass_blames ihb ihm id) fun _ => .pure trivial)
  | field typeExpr name value span =>
    rw [checkStmt]
    refine .nested .self (.next (.scope id) fun scope => .next (.require .self _) fun cls =>
      .bind (Stmt.Marks.tracks List.mem_cons_self id) fun value' hv =>
        .next (convert_blames id fun span hspan => .typeExpr List.mem_cons_self hspan) fun ty =>
          .next (.ofRule (Rule.assignable_blames hv _)) fun _ =>
            .next (.addField _ _ _) fun free => ?_)
    split
    · exact .next (.newEntity _) fun entity => .next (.declare .self _ _ _) fun _ =>
        .pure trivial
    · exact .refuse .self _
  | assign target value span =>
    have hvalue : value ∈ (Stmt.assign target value span).exprs := by simp [Stmt.exprs]
    rw [checkStmt]
    exact .nested .self (.bind (Stmt.Marks.tracks hvalue id) fun value' hv =>
      .bind (Stmt.Marks.tracks List.mem_cons_self id) fun target' _ =>
        .next (.ofRule (Rule.assignable_blames hv _)) fun _ => .pure trivial)
  | print value span =>
    rw [checkStmt]
    exact .nested .self (.bind (Stmt.Marks.tracks List.mem_cons_self id) fun _ _ => .pure trivial)
  | expr value span =>
    rw [checkStmt]
    exact .nested .self (.bind (Stmt.Marks.tracks List.mem_cons_self id) fun _ _ => .pure trivial)
  | ifElse branches alternate span ihb iha =>
    rw [checkStmt]
    refine .nested .self (.next (checkBranches_blames (fun b hb => ?_) fun b hb x hx id => ?_)
      fun _ => .next (checkAlternate_blames fun b hb x hx id => ?_) fun _ => .pure trivial)
    · exact Stmt.Marks.tracks (List.mem_map_of_mem hb) id
    · exact Stmt.Marks.stays (List.mem_append_left _ (List.mem_map_of_mem hb)) hx (ihb b hb x hx) id
    · have hbody := List.mem_map_of_mem (f := fun b => (⟨[.branch], [], b⟩ : Body))
        (Option.mem_toList.mpr hb)
      exact Stmt.Marks.stays (List.mem_append_right _ hbody) hx (iha b hb x hx) id
  | whileLoop test body span ih =>
    rw [checkStmt]
    refine .nested .self (.bind (Stmt.Marks.tracks List.mem_cons_self id) fun test' ht =>
      .next (.ofRule (Rule.boolean_blames ht)) fun _ =>
        .next (childBlock_blames (fun x hx => ?_) id _) fun _ => .pure trivial)
    exact Stmt.Marks.stays List.mem_cons_self hx (ih x hx)
  | forLoop name start stop body span ih =>
    have hstop : stop ∈ (Stmt.forLoop name start stop body span).exprs := by simp [Stmt.exprs]
    rw [checkStmt]
    refine .nested .self (.bind (Stmt.Marks.tracks List.mem_cons_self id) fun start' hs =>
      .next (.ofRule (Rule.integer_blames hs)) fun _ =>
        .bind (Stmt.Marks.tracks hstop id) fun stop' hs' =>
          .next (.ofRule (Rule.integer_blames hs')) fun _ =>
            .next (loopBody_blames (fun x hx => ?_) .self id name _) fun _ => .pure trivial)
    exact Stmt.Marks.stays List.mem_cons_self hx (ih x hx)
  | forEach name typeExpr iterable body span ih =>
    rw [checkStmt]
    refine .nested .self (.bind (Stmt.Marks.tracks List.mem_cons_self id) fun iterable' hi =>
      .next (loopVariableType_blames (fun a ha span hspan => ?_) hi) fun ty =>
        .next (loopBody_blames (fun x hx => ?_) .self id name _) fun _ => .pure trivial)
    · exact .typeExpr (Option.mem_toList.mpr ha) hspan
    · exact Stmt.Marks.stays List.mem_cons_self hx (ih x hx)
  | breakLoop span =>
    rw [checkStmt]
    refine .nested .self (.next (.scope id) fun scope => ?_)
    split
    · exact .pure trivial
    · exact .refuse .self _
  | ret value span =>
    rw [checkStmt]
    refine .nested .self (.next (.scope id) fun scope => .next (.require .self _) fun f =>
      .next (checkReturn_blames .self (fun e he => ?_) f) fun _ => .pure trivial)
    exact Stmt.Marks.tracks (Option.mem_toList.mpr he) id

end Shipshape
