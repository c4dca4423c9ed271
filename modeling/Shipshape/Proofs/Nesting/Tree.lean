import Shipshape.Check.Program
import Shipshape.Proofs.Checked.Cause
import Shipshape.Proofs.Induction
import Shipshape.Proofs.Nesting.Computation

/-!
# The check of a tree nests like the tree

* `Shipshape.checkExpr_nests`, `Shipshape.checkStmt_nests` – the check of an expression
  or a statement goes deeper for the nodes of that tree and for no others;
* `Shipshape.checkStmts_nests`, `Shipshape.checkBlock_nests` – so does the check of
  statements in a row.

Nothing is assumed about the state or about the scope, which need not even be there.
The typing rules come in only because they have to be told apart from the limit: none
of them ever fails for nesting.
-/

namespace Shipshape

/-! ### Rules -/

/-- A reason that is about types is not about nesting. -/
theorem Rule.Typing.calm {α : Type} {x : Except Diagnostic α} (h : Typing x) : Calm x := by
  rintro d hd ⟨limit, hlimit⟩
  have htyping := h d hd
  rw [hlimit] at htyping
  cases htyping

/-! ### Type expressions -/

namespace Check.Nests

variable {α β : Type} {sites : List Site}

/-- An operation that does not look at the depth may come first. -/
theorem before {m : Check α} {f : α → Check β} (hm : Blind m) (hf : ∀ a, Nests sites (f a)) :
    Nests sites (m >>= f) :=
  .bind (.op hm) hf

/-- What goes no deeper may come first. -/
theorem level {m : Check α} {f : α → Check β} (hm : Nests [] m) (hf : ∀ a, Nests sites (f a)) :
    Nests sites (m >>= f) :=
  .bind hm hf

/-- What goes no deeper may come last. -/
theorem last {m : Check α} {f : α → Check β} (hm : Nests sites m) (hf : ∀ a, Nests [] (f a)) :
    Nests sites (m >>= f) := by
  have h := Nests.bind hm hf
  rw [List.append_nil] at h
  exact h

theorem pure (a : α) : Nests [] (pure a) := .op (.pure a)

/-- A computation in a new scope goes as deep as it does by itself. -/
theorem withChild {act : ScopeId → Check α} (id : ScopeId) (changes : Overrides)
    (h : ∀ new, Nests sites (act new)) : Nests sites (withChild id changes act) :=
  .before (.openScope id changes) fun new => .last (h new) fun a =>
    .before (.closeScope new) fun _ => .pure a

end Check.Nests

open Check (Nests Blind)

variable {id : ScopeId}

theorem convertList_nests {as : List TypeExpr} (has : ∀ a ∈ as, Nests [] (convert id a)) :
    Nests [] (convertList id as) := by
  induction as with
  | nil =>
    rw [convertList]
    exact .pure _
  | cons a as ih =>
    rw [convertList]
    obtain ⟨ha, has⟩ := List.forall_mem_cons.mp has
    exact .last ha fun ty => .last (ih has) fun tys => .pure _

/-- A type expression has no node that counts. -/
theorem convert_nests (a : TypeExpr) : Nests [] (convert id a) := by
  induction a with
  | name name span =>
    rw [convert]
    exact .before (.resolve id name span) fun entity => .op (.require (by simp) span)
  | array element ih =>
    rw [convert]
    exact .last ih fun ty => .pure _
  | map key value ihk ihv =>
    rw [convert]
    exact .last ihk fun k => .last ihv fun v => .pure _
  | function params result ihps ihr =>
    rw [convert]
    exact .last (convertList_nests ihps) fun ps => .last ihr fun r => .pure _

theorem convertResult_nests (result : Option TypeExpr) : Nests [] (convertResult id result) := by
  cases result with
  | none => exact .pure _
  | some a => exact convert_nests a

theorem convertParams_nests (params : List Param) : Nests [] (convertParams id params) :=
  convertList_nests fun a _ => convert_nests a

/-! ### Expressions -/

theorem checkExprs_nests {es : List Expr} (hes : ∀ e ∈ es, Nests e.sites (checkExpr id e)) :
    Nests (exprsSites es) (checkExprs id es) := by
  induction es with
  | nil =>
    rw [checkExprs, exprsSites]
    exact .pure _
  | cons e es ih =>
    rw [checkExprs, exprsSites]
    obtain ⟨he, hes⟩ := List.forall_mem_cons.mp hes
    exact .bind he fun e' => .last (ih hes) fun es' => .pure _

theorem passArguments_nests {sites : List Site} {signature : Signature} {span : Span}
    {checked : Check (List Checked.Expr)} (h : Nests sites checked) :
    Nests sites (passArguments signature span checked) := by
  rw [passArguments]
  exact .last h fun args => .before (.ofRule (Rule.arguments_typing _ _ _).calm) fun _ => .pure _

theorem checkEntries_nests {entries : List (Expr × Expr)}
    (hes : ∀ p ∈ entries, Nests p.1.sites (checkExpr id p.1) ∧ Nests p.2.sites (checkExpr id p.2))
    (key value : Ty) : Nests (entriesSites entries) (checkEntries id key value entries) := by
  induction entries generalizing key value with
  | nil =>
    rw [checkEntries, entriesSites]
    exact .pure _
  | cons entry entries ih =>
    obtain ⟨k, v⟩ := entry
    obtain ⟨⟨hk, hv⟩, hes⟩ := List.forall_mem_cons.mp hes
    rw [checkEntries, entriesSites]
    refine .bind hk fun k' => .bind hv fun v' => ?_
    refine .before (.ofRule (Rule.join_typing _ _).calm) fun key' => ?_
    refine .before (.ofRule (Rule.join_typing _ _).calm) fun value' => ?_
    exact .last (ih hes key' value') fun r => .pure _

/-- **The check of an expression nests like the expression.** -/
theorem checkExpr_nests (e : Expr) : Nests e.sites (checkExpr id e) := by
  induction e with
  | literal value span =>
    rw [checkExpr, Expr.sites]
    exact .nested span (.pure _)
  | symbol name span =>
    rw [checkExpr, Expr.sites]
    refine .nested span (.before (.resolve id name span) fun entity => ?_)
    exact .before (.require (by simp) span) fun ty => .pure _
  | self span =>
    rw [checkExpr, Expr.sites]
    refine .nested span (.before (.scope id) fun scope => ?_)
    exact .before (.require (by simp) span) fun cls => .pure _
  | binary op left right span ihl ihr =>
    rw [checkExpr, Expr.sites]
    refine .nested span (.bind ihl fun l => .last ihr fun r => ?_)
    exact .before (.ofRule (Rule.binary_typing _ _ _).calm) fun ty => .pure _
  | unary op operand span ih =>
    rw [checkExpr, Expr.sites]
    refine .nested span (.last ih fun x => ?_)
    exact .before (.ofRule (Rule.unary_typing _ _).calm) fun ty => .pure _
  | conditional test consequent alternate span iht ihc iha =>
    rw [checkExpr, Expr.sites]
    refine .nested span (.bind iht fun t => ?_)
    refine .before (.ofRule (Rule.boolean_typing t).calm) fun _ => ?_
    refine .bind ihc fun x => .last iha fun y => ?_
    exact .before (.ofRule (Rule.join_typing _ _).calm) fun ty => .pure _
  | call callee args span ihc ihs =>
    rw [checkExpr, Expr.sites]
    refine .nested span (.bind ihc fun f => ?_)
    refine .before (.ofRule (Rule.callee_typing f).calm) fun sig => ?_
    exact .last (passArguments_nests (checkExprs_nests ihs)) fun xs => .pure _
  | subscript array index span iha ihi =>
    rw [checkExpr, Expr.sites]
    refine .nested span (.bind iha fun x => .last ihi fun i => ?_)
    exact .before (.ofRule (Rule.subscript_typing _ _).calm) fun ty => .pure _
  | array elements span ihs =>
    rw [checkExpr, Expr.sites]
    refine .nested span (.last (checkExprs_nests ihs) fun xs => ?_)
    exact .before (.ofRule (Rule.elements_typing _ _).calm) fun ty => .pure _
  | map entries span ihs =>
    rw [checkExpr, Expr.sites]
    exact .nested span (.last (checkEntries_nests ihs .any .any) fun r => .pure _)
  | member object name span ih =>
    rw [checkExpr, Expr.sites]
    refine .nested span (.last ih fun x => ?_)
    refine .before (.ofRule (Rule.object_typing x).calm) fun cls => ?_
    refine .before (.classInfo cls) fun info => ?_
    exact .before (.require (by simp) span) fun ty => .pure _
  | methodCall object name args span ih ihs =>
    rw [checkExpr, Expr.sites]
    refine .nested span (.bind ih fun x => ?_)
    refine .before (.ofRule (Rule.object_typing x).calm) fun cls => ?_
    refine .before (.classInfo cls) fun info => .before (.require (by simp) span) fun sig => ?_
    exact .last (passArguments_nests (checkExprs_nests ihs)) fun xs => .pure _
  | construct className args span ihs =>
    rw [checkExpr, Expr.sites]
    refine .nested span (.before (.resolve id className span) fun entity => ?_)
    refine .before (.require (by simp) span) fun cls => .before (.classInfo cls) fun info => ?_
    exact .last (passArguments_nests (checkExprs_nests ihs)) fun xs => .pure _

/-! ### Statements -/

/-- The check of a statement nests like the statement, in any scope. -/
def Stmt.ChecksNest (x : Stmt) : Prop := ∀ id, Nests x.sites (checkStmt id x)

theorem variableType_nests (typeExpr : Option TypeExpr) (value : Checked.Expr) :
    Nests [] (variableType id typeExpr value) := by
  cases typeExpr with
  | none => exact .op (.ofRule (Rule.inferred_typing value).calm)
  | some a =>
    refine .last (convert_nests a) fun ty => ?_
    exact .before (.ofRule (Rule.assignable_typing value ty).calm) fun _ => .pure _

theorem loopVariableType_nests (typeExpr : Option TypeExpr) (iterable : Checked.Expr) :
    Nests [] (loopVariableType id typeExpr iterable) := by
  refine .before (.ofRule (Rule.iterated_typing iterable).calm) fun element => ?_
  cases typeExpr with
  | none => exact .op (.ofRule (Rule.inferredElement_typing iterable element).calm)
  | some a =>
    refine .last (convert_nests a) fun ty => ?_
    exact .op (.ofRule (Rule.declaredElement_typing iterable element ty).calm)

theorem declareParams_nests (params : List Param) (tys : List Ty) :
    Nests [] (declareParams id params tys) := by
  fun_induction declareParams id params tys with
  | case1 param params ty tys ih =>
    refine .before (.newEntity _) fun entity => ?_
    exact .before (.declare id param.name entity param.span) fun _ => .last ih fun _ => .pure _
  | case2 => exact .pure _

theorem declareMethod_nests (owner : Option ClassRef) (name : String) (signature : Signature)
    (span : Span) : Nests [] (declareMethod owner name signature span) := by
  cases owner with
  | none => exact .pure _
  | some cls =>
    refine .before (.addMethod cls name signature) fun free => ?_
    cases free with
    | true => exact .pure _
    | false => exact .op (.refuse (by simp) span)

theorem checkStmts_nests {xs : List Stmt} (hxs : ∀ x ∈ xs, x.ChecksNest) :
    Nests (stmtsSites xs) (checkStmts id xs) := by
  induction xs with
  | nil =>
    rw [checkStmts, stmtsSites]
    exact .pure _
  | cons x xs ih =>
    obtain ⟨hx, hxs⟩ := List.forall_mem_cons.mp hxs
    rw [checkStmts, stmtsSites]
    exact .bind (hx id) fun y => .last (ih hxs) fun ys => .pure _

theorem checkBlock_nests {b : Block Stmt} (hb : ∀ x ∈ b.body, x.ChecksNest) :
    Nests (blockSites b) (checkBlock id b) := by
  obtain ⟨body, span⟩ := b
  rw [checkBlock, blockSites]
  exact .last (checkStmts_nests hb) fun ys => .pure _

/-- A block in a scope of its own. -/
theorem childBlock_nests {b : Block Stmt} (hb : ∀ x ∈ b.body, x.ChecksNest)
    (changes : Overrides) :
    Nests (blockSites b) (Check.withChild id changes fun inner => checkBlock inner b) :=
  .withChild id changes fun _ => checkBlock_nests hb

/-- The body of a loop, in a scope that begins with the variable of the loop. -/
theorem loopBody_nests {b : Block Stmt} (hb : ∀ x ∈ b.body, x.ChecksNest)
    (name : String) (ty : Ty) (span : Span) :
    Nests (blockSites b) (Check.withChild id { inLoop := some true } fun inner => do
      let entity ← Check.newEntity (.var name ty)
      Check.declare inner name entity span
      let body ← checkBlock inner b
      return (entity, body)) := by
  refine .withChild id _ fun inner => .before (.newEntity _) fun entity => ?_
  refine .before (.declare inner name entity span) fun _ => ?_
  exact .last (checkBlock_nests hb) fun _ => .pure _

theorem checkFunction_nests {decl : FnDecl Stmt}
    (hbody : ∀ x ∈ decl.body.body, x.ChecksNest)
    (owner : Option ClassRef) : Nests (blockSites decl.body) (checkFunction owner id decl) := by
  obtain ⟨name, params, result, body, span⟩ := decl
  rw [checkFunction]
  refine .level (convertResult_nests result) fun ty => ?_
  refine .level (convertParams_nests params) fun tys => ?_
  refine .before (.newEntity _) fun entity => .withChild id _ fun inner => ?_
  refine .level (declareParams_nests params tys) fun entities => ?_
  refine .level (declareMethod_nests owner name _ span) fun _ => ?_
  refine .before (.declare id name entity span) fun _ => ?_
  exact .last (checkBlock_nests hbody) fun _ => .pure _

theorem checkMethods_nests {methods : List (FnDecl Stmt)}
    (hms : ∀ f ∈ methods, ∀ x ∈ f.body.body, x.ChecksNest)
    (cls : ClassRef) : Nests (methodsSites methods) (checkMethods cls id methods) := by
  induction methods with
  | nil =>
    rw [checkMethods, methodsSites]
    exact .pure _
  | cons decl decls ih =>
    obtain ⟨hdecl, hms⟩ := List.forall_mem_cons.mp hms
    rw [checkMethods, methodsSites]
    exact .bind (checkFunction_nests hdecl (some cls)) fun f => .last (ih hms) fun fs => .pure _

theorem checkClass_nests {decl : ClassDecl Stmt}
    (hbody : ∀ x ∈ decl.body.body, x.ChecksNest)
    (hms : ∀ f ∈ decl.methods, ∀ x ∈ f.body.body, x.ChecksNest) :
    Nests (blockSites decl.body ++ methodsSites decl.methods) (checkClass id decl) := by
  obtain ⟨name, params, body, ctorSpan, methods, span⟩ := decl
  rw [checkClass]
  refine .before (.newClass name) fun cls => .last (.withChild id _ fun inside => ?_) fun r => ?_
  · refine .level (convertParams_nests params) fun tys => .before (.setCtor cls _) fun _ => ?_
    refine .before (.newEntity _) fun ctor => ?_
    refine .bind (.withChild inside _ fun inner => ?_) fun r => ?_
    · refine .level (declareParams_nests params tys) fun entities => ?_
      exact .last (checkBlock_nests hbody) fun _ => .pure _
    · exact .last (checkMethods_nests hms cls) fun _ => .pure _
  · refine .before (.newEntity _) fun entity => ?_
    exact .before (.declare id name entity span) fun _ => .pure _

theorem checkBranches_nests {branches : List (Branch Expr Stmt)}
    (hbs : ∀ b ∈ branches, ∀ x ∈ b.body.body, x.ChecksNest) :
    Nests (branchesSites branches) (checkBranches id branches) := by
  induction branches with
  | nil =>
    rw [checkBranches, branchesSites]
    exact .pure _
  | cons branch branches ih =>
    obtain ⟨test, body⟩ := branch
    obtain ⟨hb, hbs⟩ := List.forall_mem_cons.mp hbs
    rw [checkBranches, branchesSites]
    refine .bind (checkExpr_nests test) fun t => ?_
    refine .before (.ofRule (Rule.boolean_typing t).calm) fun _ => ?_
    exact .bind (childBlock_nests hb {}) fun b => .last (ih hbs) fun bs => .pure _

theorem checkAlternate_nests {alternate : Option (Block Stmt)}
    (hb : ∀ b ∈ alternate, ∀ x ∈ b.body, x.ChecksNest) :
    Nests (alternateSites alternate) (checkAlternate id alternate) := by
  cases alternate with
  | none =>
    rw [checkAlternate, alternateSites]
    exact .pure _
  | some body =>
    rw [checkAlternate, alternateSites]
    exact .last (childBlock_nests (hb body rfl) {}) fun _ => .pure _

theorem checkReturn_nests (function : Entity) (value : Option Expr) (span : Span) :
    Nests ((value.map Expr.sites).getD []) (checkReturn id function value span) := by
  cases value with
  | none => exact .before (.ofRule (Rule.returns_typing function false span).calm) fun _ => .pure _
  | some e =>
    refine .before (.ofRule (Rule.returns_typing function true span).calm) fun _ => ?_
    refine .last (checkExpr_nests e) fun v => ?_
    exact .before (.ofRule (Rule.assignable_typing v _).calm) fun _ => .pure _

/-- **The check of a statement nests like the statement.** -/
theorem checkStmt_nests (x : Stmt) : x.ChecksNest := by
  intro id
  induction x generalizing id with
  | var name typeExpr value span =>
    rw [checkStmt, Stmt.sites]
    refine .nested span (.last (checkExpr_nests value) fun v => ?_)
    refine .level (variableType_nests typeExpr v) fun ty => .before (.newEntity _) fun entity => ?_
    exact .before (.declare id name entity span) fun _ => .pure _
  | function decl hbody =>
    rw [checkStmt, Stmt.sites]
    exact .nested decl.span (.last (checkFunction_nests hbody none) fun _ => .pure _)
  | classDecl decl hbody hms =>
    rw [checkStmt, Stmt.sites]
    exact .nested decl.span (.last (checkClass_nests hbody hms) fun _ => .pure _)
  | field typeExpr name value span =>
    rw [checkStmt, Stmt.sites]
    refine .nested span (.before (.scope id) fun scope => ?_)
    refine .before (.require (by simp) span) fun cls => ?_
    refine .last (checkExpr_nests value) fun v => .last (convert_nests typeExpr) fun ty => ?_
    refine .before (.ofRule (Rule.assignable_typing v ty).calm) fun _ => ?_
    refine .before (.addField cls name ty) fun free => ?_
    cases free with
    | true =>
      refine .before (.newEntity _) fun entity => ?_
      exact .before (.declare id name entity span) fun _ => .pure _
    | false => exact .op (.refuse (by simp) span)
  | assign target value span =>
    rw [checkStmt, Stmt.sites]
    refine .nested span (.bind (checkExpr_nests value) fun v => ?_)
    refine .last (checkExpr_nests target) fun t => ?_
    exact .before (.ofRule (Rule.assignable_typing v t.ty).calm) fun _ => .pure _
  | print value span =>
    rw [checkStmt, Stmt.sites]
    exact .nested span (.last (checkExpr_nests value) fun _ => .pure _)
  | expr value span =>
    rw [checkStmt, Stmt.sites]
    exact .nested span (.last (checkExpr_nests value) fun _ => .pure _)
  | ifElse branches alternate span hbs halt =>
    rw [checkStmt, Stmt.sites]
    refine .nested span (.bind (checkBranches_nests hbs) fun bs => ?_)
    exact .last (checkAlternate_nests halt) fun _ => .pure _
  | whileLoop test body span hbody =>
    rw [checkStmt, Stmt.sites]
    refine .nested span (.bind (checkExpr_nests test) fun t => ?_)
    refine .before (.ofRule (Rule.boolean_typing t).calm) fun _ => ?_
    exact .last (childBlock_nests hbody _) fun _ => .pure _
  | forLoop name start stop body span hbody =>
    rw [checkStmt, Stmt.sites]
    refine .nested span (.bind (checkExpr_nests start) fun i => ?_)
    refine .before (.ofRule (Rule.integer_typing i).calm) fun _ => ?_
    refine .bind (checkExpr_nests stop) fun j => ?_
    refine .before (.ofRule (Rule.integer_typing j).calm) fun _ => ?_
    exact .last (loopBody_nests hbody name .int span) fun _ => .pure _
  | forEach name typeExpr iterable body span hbody =>
    rw [checkStmt, Stmt.sites]
    refine .nested span (.bind (checkExpr_nests iterable) fun xs => ?_)
    refine .level (loopVariableType_nests typeExpr xs) fun ty => ?_
    exact .last (loopBody_nests hbody name ty span) fun _ => .pure _
  | breakLoop span =>
    rw [checkStmt, Stmt.sites]
    refine .nested span (.before (.scope id) fun scope => ?_)
    split
    · exact .pure _
    · exact .op (.refuse (by simp) span)
  | ret value span =>
    have hsites :
        (Stmt.ret value span).sites = Site.under span ((value.map Expr.sites).getD []) := by
      cases value <;> rw [Stmt.sites] <;> rfl
    rw [checkStmt, hsites]
    refine .nested span (.before (.scope id) fun scope => ?_)
    refine .before (.require (by simp) span) fun f => ?_
    exact .last (checkReturn_nests f value span) fun _ => .pure _

end Shipshape
