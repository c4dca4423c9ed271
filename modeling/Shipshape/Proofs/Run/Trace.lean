import Shipshape.Proofs.Frame.Expr
import Shipshape.Proofs.Refusal.Tree
import Shipshape.Proofs.Run.Comes

/-!
# Where a complaint comes from

A program is refused with one diagnostic, and some computation is the first to give it. To find it,
the diagnostic is followed from the program through the blocks around the place that it is about.

* `Shipshape.Check.Traces` – what is known of the diagnostics that a computation gives from a
  state;
* `Shipshape.Stmt.Asks` – what the check of a statement asks of the expressions in it and of their
  types;
* `Shipshape.checkStmt_traces` – one step: a statement that is refused is so for what it asks, or a
  block of it is refused;
* `Shipshape.Check.Comes.traces`, `Shipshape.checkProgram_traces` – all steps: what is known of the
  diagnostics of all that the statements ask to which a check comes is known of its own.

## Two directions

`Shipshape.Stmt.Way.leads` says that what a block complains about is complained about by the
statement. Here it is the other way around. A statement has reasons of its own to fail that have
nothing to do with types, such as a name that is taken. They are not followed: whatever is to be
known has to hold of them from the start (`Shipshape.Diagnostic.AdmitsPlain`).
-/

namespace Shipshape

variable {α β : Type} {s t : State} {id : ScopeId} {P Q : Diagnostic → Prop}

open Diagnostic (AdmitsPlain)

/-! ### Computations -/

namespace Check

/-- **What is known of the diagnostics** that a computation gives from the state `s`. -/
def Traces (m : Check α) (s : State) (P : Diagnostic → Prop) : Prop :=
  ∀ d t, m s = .error (.refused d) t → P d

namespace Traces

theorem pure (a : α) : Traces (pure a) s P := fun _ _ h => nomatch h

theorem of_only {m : Check α} (h : m.Only P) : Traces m s P := fun _ _ hrun => h.refused hrun

theorem ofRule {result : Except Diagnostic α} (h : Rule.Only result P) :
    Traces (ofRule result) s P :=
  of_only (.ofRule h)

theorem mono {m : Check α} (h : Traces m s P) (hP : ∀ d, P d → Q d) : Traces m s Q :=
  fun d t hrun => hP d (h d t hrun)

/-- One computation after another. The second one starts where the first one ends. -/
theorem bind {m : Check α} {f : α → Check β} (hm : Traces m s P)
    (hf : ∀ a t, m s = .ok a t → Traces (f a) t P) : Traces (m >>= f) s P := by
  intro d u hrun
  rcases bind_eq_error hrun with hrun | ⟨a, t, ha, hrun⟩
  · exact hm d u hrun
  · exact hf a t ha d u hrun

/-- A computation that is looked at in every state may come first. -/
theorem after {m : Check α} {f : α → Check β} (hm : m.Only P)
    (hf : ∀ a t, m s = .ok a t → Traces (f a) t P) : Traces (m >>= f) s P :=
  bind (of_only hm) hf

/-- Computations that are looked at in every state may come last. -/
theorem first {m : Check α} {f : α → Check β} (hm : Traces m s P) (hf : ∀ a, (f a).Only P) :
    Traces (m >>= f) s P :=
  bind hm fun a _ _ => of_only (hf a)

/-- A computation that leaves the state as it is may come first. -/
theorem keeps {m : Check α} {f : α → Check β} (hkeeps : Keeps m) (hm : Traces m s P)
    (hf : ∀ a, m s = .ok a s → Traces (f a) s P) : Traces (m >>= f) s P :=
  bind hm fun a t ha => by
    obtain rfl := hkeeps.eq_of_ok ha
    exact hf a ha

/-- The result of a rule may come first. -/
theorem rule {result : Except Diagnostic α} {f : α → Check β} (h : Rule.Only result P)
    (hf : ∀ a, result = .ok a → Traces (f a) s P) : Traces (Check.ofRule result >>= f) s P :=
  keeps (.ofRule result) (ofRule h) fun a ha => by
    cases result with
    | ok b =>
      cases ha
      exact hf a rfl
    | error d => cases ha

/-- What surrounds a scope may be looked at first. -/
theorem scope {f : Scope → Check α}
    (hf : ∀ scope, s.arena.get id = .ok scope → Traces (f scope) s P) :
    Traces (Check.scope id >>= f) s P := by
  refine keeps (.scope id) (of_only (.scope id)) fun scope hscope => hf scope ?_
  rw [Check.scope] at hscope
  split at hscope
  · next hget =>
    cases hscope
    exact hget
  · cases hscope

/-- A value that is asked for may come first. -/
theorem require {value : Option α} {cause : Cause} {span : Span} {f : α → Check β}
    (h : P (.located cause span)) (hf : ∀ a, value = some a → Traces (f a) s P) :
    Traces (Check.require value cause span >>= f) s P := by
  refine keeps (.require value cause span) (of_only (.require h)) fun a ha => hf a ?_
  cases value with
  | some b =>
    cases ha
    rfl
  | none => cases ha

/-- A computation one level deeper, unless it lies too deep. -/
theorem nested {m : Check α} {span : Span} (hspan : AdmitsPlain P span)
    (h : s.depth < s.limit → Traces m s.deeper P) : Traces (nested span m) s P := by
  intro d t hrun
  rw [Check.nested] at hrun
  split at hrun
  · next hroom =>
    split at hrun
    · cases hrun
    · next hm =>
      cases hrun
      exact h hroom d _ hm
  · cases hrun
    exact hspan _ rfl rfl

/-- A computation in a new scope starts where the scope has been opened. -/
theorem withChild {changes : Overrides} {act : ScopeId → Check α}
    (h : ∀ inner t, openScope id changes s = .ok inner t → Traces (act inner) t P) :
    Traces (withChild id changes act) s P :=
  after (.openScope id changes) fun inner t hopen =>
    first (h inner t hopen) fun _ => .next (.closeScope inner) fun _ => .pure trivial

/-- A block complains about what its statements do. -/
theorem block {body : Block Stmt} (h : Traces (checkStmts id body.body) s P) :
    Traces (checkBlock id body) s P := by
  rw [checkBlock]
  exact first h fun _ => .pure trivial

end Traces

end Check

open Check (Traces Comes bind_eq_of_left)

/-! ### Names -/

section Heads

variable (hP : ∀ span, AdmitsPlain P span)
include hP

theorem declare_only (id : ScopeId) (name : String) (entity : Entity) (span : Span) :
    (Check.declare id name entity span).Only P :=
  .declare (hP span _ rfl rfl) id entity

theorem convert_traces (a : TypeExpr) : Traces (convert id a) s P :=
  .of_only (convert_only (fun span _ => hP span) id)

theorem functionHead_only (owner : Option ClassRef) (id : ScopeId) (name : String)
    (params : List Param) (result : Option TypeExpr) (span : Span) :
    (functionHead owner id name params result span).Only P := by
  have hresult : (convertResult id result).Only P := convertResult_only fun _ _ span _ => hP span
  have hparams : (convertParams id params).Only P := convertParams_only fun _ _ span _ => hP span
  rw [functionHead]
  refine .next hresult fun ty => .next hparams fun tys => ?_
  refine .next (.newEntity _) fun entity => .next (.openScope id _) fun inner => ?_
  refine .next (declareParams_only (fun p _ => hP p.span) tys) fun _ => ?_
  refine .next (declareMethod_only (hP span) owner name _) fun _ => ?_
  exact .next (declare_only hP id name entity span) fun _ => .pure trivial

theorem classHead_only (id : ScopeId) (name : String) (params : List Param) :
    (classHead id name params).Only P := by
  rw [classHead]
  refine .next (.newClass name) fun cls => .next (.openScope id _) fun inside => ?_
  refine .next (convertParams_only fun _ _ span _ => hP span) fun tys => ?_
  exact .next (.setCtor cls _) fun _ => .next (.newEntity _) fun ctor => .pure trivial

/-- The body of a loop that declares a variable. -/
theorem loopBody_traces {name : String} {ty : Ty} {span : Span} {body : Block Stmt}
    (h : ∀ inner t, loopHead id name ty span s = .ok inner t →
      Traces (checkStmts inner body.body) t P) :
    Traces (Check.withChild id { inLoop := some true } fun inner => do
      let entity ← Check.newEntity (.var name ty)
      Check.declare inner name entity span
      let body ← checkBlock inner body
      return (entity, body)) s P := by
  refine .withChild fun inner t hopen => .after (.newEntity _) fun entity u hentity => ?_
  refine .after (declare_only hP inner name entity span) fun _ v hdeclare => ?_
  refine .first (.block (h inner v ?_)) fun _ => .pure trivial
  rw [loopHead, bind_eq_of_left hopen, bind_eq_of_left hentity, bind_eq_of_left hdeclare]
  rfl

theorem checkFunction_traces {owner : Option ClassRef} {f : FnDecl Stmt}
    (h : ∀ r t, functionHead owner id f.name f.params f.result f.span s = .ok r t →
      Traces (checkStmts r.1 f.body.body) t P) :
    Traces (checkFunction owner id f) s P := by
  obtain ⟨name, params, result, body, span⟩ := f
  rw [checkFunction_eq]
  refine .after (functionHead_only hP owner id name params result span) fun r t hhead => ?_
  exact .first (.block (h r t hhead)) fun _ => .next (.closeScope _) fun _ => .pure trivial

theorem checkCtor_traces {params : List Param} {tys : List Ty} {ctor : Entity} {body : Block Stmt}
    (h : ∀ inner t, ctorHead id params tys ctor s = .ok inner t →
      Traces (checkStmts inner body.body) t P) :
    Traces (checkCtor id params tys ctor body) s P := by
  refine .withChild fun inner t hopen => ?_
  refine .after (declareParams_only (fun p _ => hP p.span) tys) fun _ u hparams => ?_
  refine .first (.block (h inner u ?_)) fun _ => .pure trivial
  rw [ctorHead, bind_eq_of_left hopen, bind_eq_of_left hparams]
  rfl

omit hP in
/-- Methods complain where one of them does, after those before it. -/
theorem checkMethods_traces {cls : ClassRef} {methods : List (FnDecl Stmt)}
    (h : ∀ before f after, methods = before ++ f :: after →
      ∀ fs t, checkMethods cls id before s = .ok fs t →
        Traces (checkFunction (some cls) id f) t P) :
    Traces (checkMethods cls id methods) s P := by
  induction methods generalizing s with
  | nil =>
    rw [checkMethods]
    exact .pure _
  | cons f methods ih =>
    rw [checkMethods]
    refine .bind (h [] f methods rfl [] s (by rw [checkMethods]; rfl)) fun g t hf => ?_
    refine .first (ih fun before f' after hmethods fs u hbefore => ?_) fun _ => .pure trivial
    refine h (f :: before) f' after (congrArg _ hmethods) (g :: fs) u ?_
    rw [checkMethods, bind_eq_of_left hf, bind_eq_of_left hbefore]
    rfl

/-- Branches complain where the test or the block of one of them does, after those before it. -/
theorem checkBranches_traces {branches : List (Branch Expr Stmt)}
    (htest : ∀ before test body after, branches = before ++ ⟨test, body⟩ :: after →
      ∀ bs t, checkBranches id before s = .ok bs t → Traces (checkExpr id test) t P)
    (hbody : ∀ before test body after, branches = before ++ ⟨test, body⟩ :: after →
      ∀ bs t, checkBranches id before s = .ok bs t →
      ∀ inner u, (do
        let test ← checkExpr id test
        Check.ofRule (Rule.boolean test)
        Check.openScope id {}) t = .ok inner u →
      Traces (checkStmts inner body.body) u P) :
    Traces (checkBranches id branches) s P := by
  induction branches generalizing s with
  | nil =>
    rw [checkBranches]
    exact .pure _
  | cons b branches ih =>
    obtain ⟨test, body⟩ := b
    have hnone : checkBranches id [] s = .ok [] s := by
      rw [checkBranches]
      rfl
    rw [checkBranches]
    refine .bind (htest [] test body branches rfl [] s hnone) fun test' t hchecks => ?_
    refine .after (.ofRule (.test (hP _ _ rfl rfl))) fun _ u hboolean => ?_
    refine .bind (.withChild fun inner v hopen => .block ?_) fun body' v hblock => ?_
    · refine hbody [] test body branches rfl [] s hnone inner v ?_
      rw [bind_eq_of_left hchecks, bind_eq_of_left hboolean, hopen]
    · have hfirst : ∀ before bs w, checkBranches id before v = .ok bs w →
          checkBranches id (⟨test, body⟩ :: before) s = .ok (⟨test', body'⟩ :: bs) w := by
        intro before bs w hbefore
        rw [checkBranches, bind_eq_of_left hchecks, bind_eq_of_left hboolean,
          bind_eq_of_left hblock, bind_eq_of_left hbefore]
        rfl
      refine .first (ih (fun before test₂ body₂ after hbranches bs w hbefore => ?_)
        fun before test₂ body₂ after hbranches bs w hbefore => ?_) fun _ => .pure trivial
      · exact htest (⟨test, body⟩ :: before) test₂ body₂ after (congrArg _ hbranches) _ w
          (hfirst before bs w hbefore)
      · exact hbody (⟨test, body⟩ :: before) test₂ body₂ after (congrArg _ hbranches) _ w
          (hfirst before bs w hbefore)

end Heads

/-! ### One statement -/

/-- **Something that a statement asks** of an expression in it, or of the type of one. -/
inductive Query where
  /-- Whether an expression is accepted. -/
  | expr (e : Expr)
  /-- Whether a value fits a place of the type `target`. -/
  | assignable (value : Checked.Expr) (target : Ty)
  /-- What type a value gives to a variable. -/
  | inferred (value : Checked.Expr)
  /-- Whether what is run over fits the type that is declared. -/
  | declaredElement (iterable : Checked.Expr) (element declared : Ty)
  /-- What type the elements that are run over give to a variable. -/
  | inferredElement (iterable : Checked.Expr) (element : Ty)

/-- **What is known of the diagnostics** with which a query is answered in the scope `id` and in the
state `s`. -/
def Query.Traces (id : ScopeId) (s : State) (P : Diagnostic → Prop) : Query → Prop
  | .expr e => Check.Traces (checkExpr id e) s P
  | .assignable value target => Rule.Only (Rule.assignable value target) P
  | .inferred value => Rule.Only (Rule.inferred value) P
  | .declaredElement iterable element declared =>
    Rule.Only (Rule.declaredElement iterable element declared) P
  | .inferredElement iterable element => Rule.Only (Rule.inferredElement iterable element) P

theorem Query.Traces.mono {q : Query} (h : q.Traces id s P) (hP : ∀ d, P d → Q d) :
    q.Traces id s Q := by
  cases q with
  | expr => exact fun d t hrun => hP d (h d t hrun)
  | _ => exact fun d hd => hP d (h d hd)

/-- **What a statement asks**: when it is checked in the scope `id`, and the state is `s` one level
deeper, then the check comes to the query in the state `t`. -/
inductive Stmt.Asks (id : ScopeId) (s : State) : Stmt → Query → State → Prop
  /-- The value of a variable. -/
  | var (name : String) (typeExpr : Option TypeExpr) (value : Expr) (span : Span) :
      Asks id s (.var name typeExpr value span) (.expr value) s
  /-- The value of a variable has the type that is written. -/
  | declared (name : String) {typeExpr : TypeExpr} {ty : Ty} {value : Expr}
      {value' : Checked.Expr} (span : Span) :
      s.Checks id value value' → convert id typeExpr s = .ok ty s →
      Asks id s (.var name (some typeExpr) value span)
        (.assignable value' ty) s
  /-- The value of a variable has a type that need not be written. -/
  | inferred (name : String) {value : Expr} {value' : Checked.Expr} (span : Span) :
      s.Checks id value value' →
      Asks id s (.var name none value span) (.inferred value') s
  /-- The value of a field. -/
  | field (typeExpr : TypeExpr) (name : String) (value : Expr) (span : Span) :
      Asks id s (.field typeExpr name value span) (.expr value) s
  /-- The value of a field has the type that is written. -/
  | fieldType {typeExpr : TypeExpr} {ty : Ty} (name : String) {value : Expr}
      {value' : Checked.Expr} (span : Span) :
      s.Checks id value value' → convert id typeExpr s = .ok ty s →
      Asks id s (.field typeExpr name value span) (.assignable value' ty) s
  /-- What is assigned. -/
  | assigned (target value : Expr) (span : Span) :
      Asks id s (.assign target value span) (.expr value) s
  /-- What is assigned to. -/
  | target (target value : Expr) (span : Span) :
      Asks id s (.assign target value span) (.expr target) s
  /-- What is assigned has the type of what it is assigned to. -/
  | assign {target value : Expr} {target' value' : Checked.Expr} (span : Span) :
      s.Checks id value value' → s.Checks id target target' →
      Asks id s (.assign target value span)
        (.assignable value' target'.ty) s
  /-- What is printed. -/
  | print (value : Expr) (span : Span) : Asks id s (.print value span) (.expr value) s
  /-- An expression that stands for itself. -/
  | expr (value : Expr) (span : Span) : Asks id s (.expr value span) (.expr value) s
  /-- The test of a branch, after the branches before it. -/
  | branch {before : List (Branch Expr Stmt)} {bs : List (Branch Checked.Expr Checked.Stmt)}
      {t : State} (test : Expr) (body : Block Stmt) (after : List (Branch Expr Stmt))
      (alternate : Option (Block Stmt)) (span : Span) :
      checkBranches id before s = .ok bs t →
      Asks id s (.ifElse (before ++ ⟨test, body⟩ :: after) alternate span) (.expr test) t
  /-- The test of a loop. -/
  | whileLoop (test : Expr) (body : Block Stmt) (span : Span) :
      Asks id s (.whileLoop test body span) (.expr test) s
  /-- The number from which a loop counts. -/
  | start (name : String) (start stop : Expr) (body : Block Stmt) (span : Span) :
      Asks id s (.forLoop name start stop body span) (.expr start) s
  /-- The number up to which a loop counts. -/
  | stop (name : String) (start stop : Expr) (body : Block Stmt) (span : Span) :
      Asks id s (.forLoop name start stop body span) (.expr stop) s
  /-- What a loop runs over. -/
  | iterable (name : String) (typeExpr : Option TypeExpr) (iterable : Expr) (body : Block Stmt)
      (span : Span) :
      Asks id s (.forEach name typeExpr iterable body span) (.expr iterable) s
  /-- The elements that a loop runs over have the type that is written. -/
  | declaredElement (name : String) {typeExpr : TypeExpr} {element ty : Ty} {iterable : Expr}
      {iterable' : Checked.Expr} (body : Block Stmt) (span : Span) :
      s.Checks id iterable iterable' → Rule.iterated iterable' = .ok element →
      convert id typeExpr s = .ok ty s →
      Asks id s (.forEach name (some typeExpr) iterable body span)
        (.declaredElement iterable' element ty) s
  /-- The elements that a loop runs over have a type that need not be written. -/
  | inferredElement (name : String) {element : Ty} {iterable : Expr} {iterable' : Checked.Expr}
      (body : Block Stmt) (span : Span) :
      s.Checks id iterable iterable' → Rule.iterated iterable' = .ok element →
      Asks id s (.forEach name none iterable body span)
        (.inferredElement iterable' element) s
  /-- The value of a return. -/
  | ret (value : Expr) (span : Span) : Asks id s (.ret (some value) span) (.expr value) s
  /-- The value of a return has the type that the function around it returns. -/
  | returned {scope : Scope} {function : Entity} {value : Expr} {value' : Checked.Expr}
      (span : Span) :
      s.arena.get id = .ok scope → scope.function = some function → s.Checks id value value' →
      Asks id s (.ret (some value) span)
        (.assignable value' function.resultType) s

section Stmt

variable {x : Stmt} (hP : ∀ span, AdmitsPlain P span)
include hP

/-- The type of a variable is read from a type expression, or from the value. -/
theorem variableType_traces {typeExpr : Option TypeExpr} {value : Checked.Expr}
    (hsome : ∀ a ∈ typeExpr, ∀ ty, convert id a s = .ok ty s →
      Rule.Only (Rule.assignable value ty) P)
    (hnone : typeExpr = none → Rule.Only (Rule.inferred value) P) :
    Traces (variableType id typeExpr value) s P := by
  cases typeExpr with
  | none => exact .ofRule (hnone rfl)
  | some a =>
    exact .keeps (convert_keeps id a) (convert_traces hP a) fun ty hty =>
      .first (.ofRule (hsome a rfl ty hty)) fun _ => .pure trivial

theorem loopVariableType_traces {typeExpr : Option TypeExpr} {iterable : Checked.Expr}
    (hsome : ∀ element, Rule.iterated iterable = .ok element → ∀ a ∈ typeExpr, ∀ ty,
      convert id a s = .ok ty s → Rule.Only (Rule.declaredElement iterable element ty) P)
    (hnone : ∀ element, Rule.iterated iterable = .ok element → typeExpr = none →
      Rule.Only (Rule.inferredElement iterable element) P) :
    Traces (loopVariableType id typeExpr iterable) s P := by
  have hiterated : Rule.Only (Rule.iterated iterable) P :=
    Rule.iterated_only ((hP iterable.span).allows rfl)
  refine .rule hiterated fun element helement => ?_
  cases typeExpr with
  | none => exact .ofRule (hnone element helement rfl)
  | some a =>
    exact .keeps (convert_keeps id a) (convert_traces hP a) fun ty hty =>
      .ofRule (hsome element helement a rfl ty hty)

/-- **A statement that is refused** is so for what it asks, or a block of it is refused. -/
theorem checkStmt_traces
    (hasks : ∀ q t, s.depth < s.limit → x.Asks id s.deeper q t → q.Traces id t P)
    (hblocks : ∀ m ys inner t, s.depth < s.limit → x.Way id m ys → m s.deeper = .ok inner t →
      Traces (checkStmts inner ys) t P) :
    Traces (checkStmt id x) s P := by
  have hexpr {e : Expr} {t : State} (hroom : s.depth < s.limit)
      (h : x.Asks id s.deeper (.expr e) t) : Traces (checkExpr id e) t P :=
    hasks _ t hroom h
  have hfits {value : Checked.Expr} {target : Ty} (hroom : s.depth < s.limit)
      (h : x.Asks id s.deeper (.assignable value target) s.deeper) :
      Rule.Only (Rule.assignable value target) P :=
    hasks _ s.deeper hroom h
  cases x with
  | var name typeExpr value span =>
    rw [checkStmt]
    refine .nested (hP span) fun hroom => .keeps (checkExpr_keeps id value)
      (hexpr hroom (.var ..)) fun value' hvalue => .first (variableType_traces hP ?_ ?_) ?_
    · rintro a rfl ty hty
      exact hfits hroom (.declared name span hvalue hty)
    · rintro rfl
      exact hasks (.inferred value') _ hroom (.inferred name span hvalue)
    · exact fun ty => .next (.newEntity _) fun entity =>
        .next (declare_only hP id name entity span) fun _ => .pure trivial
  | function decl =>
    rw [checkStmt]
    refine .nested (hP decl.span) fun hroom => .first (checkFunction_traces hP fun r t hhead => ?_)
      fun _ => .pure trivial
    refine hblocks _ _ r.1 t hroom (.function _ _ _ _ _) ?_
    rw [bind_eq_of_left hhead]
    rfl
  | classDecl decl =>
    obtain ⟨name, params, body, ctorSpan, methods, span⟩ := decl
    rw [checkStmt, checkClass_eq]
    refine .nested (hP span) fun hroom => .first (.after (classHead_only hP id name params)
      fun r t hhead => ?_) fun _ => .pure trivial
    refine .bind (checkCtor_traces hP fun inner u hctor => ?_) fun c u hctor => ?_
    · refine hblocks _ _ inner u hroom (.ctor _ _ _ _ _ _) ?_
      rw [bind_eq_of_left hhead]
      exact hctor
    · refine .first (checkMethods_traces ?_) fun _ => .next (.closeScope _) fun _ =>
        .next (.newEntity _) fun entity => .next (declare_only hP id name entity span) fun _ =>
          .pure trivial
      rintro before f after rfl fs v hbefore
      refine checkFunction_traces hP fun q w hq => ?_
      refine hblocks _ _ q.1 w hroom (.method _ _ _ _ before f after _) ?_
      exact (bind_eq_of_left hhead _).trans <| (bind_eq_of_left hctor _).trans <|
        (bind_eq_of_left hbefore _).trans <| bind_eq_of_left hq _
  | field typeExpr name value span =>
    rw [checkStmt]
    refine .nested (hP span) fun hroom => .scope fun scope _ => ?_
    refine .keeps (.require _ _ _) (.of_only (.require (hP _ _ rfl rfl))) fun cls _ => ?_
    refine .keeps (checkExpr_keeps id value) (hexpr hroom (.field ..)) fun value' hvalue => ?_
    refine .keeps (convert_keeps id typeExpr) (convert_traces hP typeExpr) fun ty hty => ?_
    refine .first (.ofRule (hfits hroom (.fieldType name span hvalue hty))) fun _ =>
      .next (.addField cls name ty) fun free => ?_
    split
    · exact .next (.newEntity _) fun entity => .next (declare_only hP id name entity span) fun _ =>
        .pure trivial
    · exact .refuse (hP _ _ rfl rfl)
  | assign target value span =>
    rw [checkStmt]
    refine .nested (hP span) fun hroom => ?_
    refine .keeps (checkExpr_keeps id value) (hexpr hroom (.assigned ..)) fun value' hvalue => ?_
    refine .keeps (checkExpr_keeps id target) (hexpr hroom (.target ..))
      fun target' htarget => ?_
    exact .first (.ofRule (hfits hroom (.assign span hvalue htarget))) fun _ => .pure trivial
  | print value span =>
    rw [checkStmt]
    exact .nested (hP span) fun hroom => .first (hexpr hroom (.print ..)) fun _ => .pure trivial
  | expr value span =>
    rw [checkStmt]
    exact .nested (hP span) fun hroom => .first (hexpr hroom (.expr ..)) fun _ => .pure trivial
  | ifElse branches alternate span =>
    rw [checkStmt]
    refine .nested (hP span) fun hroom => ?_
    refine .bind (checkBranches_traces hP ?_ ?_) fun bs t hbranches => .first ?_ fun _ =>
      .pure trivial
    · rintro before test body after rfl bs t hbefore
      exact hexpr hroom (.branch test body after alternate span hbefore)
    · rintro before test body after rfl bs t hbefore inner u hhead
      refine hblocks _ _ inner u hroom (.branch before test body after _ _) ?_
      rw [bind_eq_of_left hbefore]
      exact hhead
    · cases alternate with
      | none =>
        rw [checkAlternate]
        exact .pure _
      | some body =>
        rw [checkAlternate]
        refine .first (.withChild fun inner u hopen => .block ?_) fun _ => .pure trivial
        refine hblocks _ _ inner u hroom (.alternate branches body span) ?_
        rw [bind_eq_of_left hbranches]
        exact hopen
  | whileLoop test body span =>
    rw [checkStmt]
    refine .nested (hP span) fun hroom => ?_
    refine .keeps (checkExpr_keeps id test) (hexpr hroom (.whileLoop ..)) fun test' htest => ?_
    refine .after (.ofRule (.test (hP _ _ rfl rfl))) fun _ u hboolean => ?_
    refine .first (.withChild fun inner v hopen => .block ?_) fun _ => .pure trivial
    refine hblocks _ _ inner v hroom (.whileLoop test body span) ?_
    rw [bind_eq_of_left htest, bind_eq_of_left hboolean]
    exact hopen
  | forLoop name start stop body span =>
    rw [checkStmt]
    refine .nested (hP span) fun hroom => ?_
    refine .keeps (checkExpr_keeps id start) (hexpr hroom (.start ..)) fun start' hstart => ?_
    refine .keeps (.ofRule _) (.ofRule (.test (hP _ _ rfl rfl))) fun _ hinteger => ?_
    refine .keeps (checkExpr_keeps id stop) (hexpr hroom (.stop ..)) fun stop' hstop => ?_
    refine .keeps (.ofRule _) (.ofRule (.test (hP _ _ rfl rfl))) fun _ hinteger' => ?_
    refine .first (loopBody_traces hP fun inner z hhead => ?_) fun _ => .pure trivial
    refine hblocks _ _ inner z hroom (.forLoop name start stop body span) ?_
    rw [bind_eq_of_left hstart, bind_eq_of_left hinteger, bind_eq_of_left hstop,
      bind_eq_of_left hinteger']
    exact hhead
  | forEach name typeExpr iterable body span =>
    rw [checkStmt]
    refine .nested (hP span) fun hroom => ?_
    refine .keeps (checkExpr_keeps id iterable) (hexpr hroom (.iterable ..))
      fun iterable' hiter => ?_
    refine .bind (loopVariableType_traces hP ?_ ?_) fun ty u hty => ?_
    · rintro element helement a rfl ty hty
      exact hasks (.declaredElement iterable' element ty) _ hroom
        (.declaredElement name body span hiter helement hty)
    · rintro element helement rfl
      exact hasks (.inferredElement iterable' element) _ hroom
        (.inferredElement name body span hiter helement)
    · refine .first (loopBody_traces hP fun inner v hhead => ?_) fun _ => .pure trivial
      refine hblocks _ _ inner v hroom (.forEach name typeExpr iterable body span) ?_
      rw [bind_eq_of_left hiter, bind_eq_of_left hty]
      exact hhead
  | breakLoop span =>
    rw [checkStmt]
    refine .nested (hP span) fun _ => .after (.scope id) fun scope _ _ => ?_
    split
    · exact .pure _
    · exact .of_only (.refuse (hP _ _ rfl rfl))
  | ret value span =>
    rw [checkStmt]
    refine .nested (hP span) fun hroom => .scope fun scope hscope => ?_
    refine .require (hP _ _ rfl rfl) fun function hfunction => ?_
    have hreturns (hasValue : Bool) : Rule.Only (Rule.returns function hasValue span) P :=
      Rule.returns_only (fun _ _ => hP _ _ rfl rfl) function hasValue
    refine .first ?_ fun _ => .pure trivial
    cases value with
    | none => exact .of_only (.next (.ofRule (hreturns false)) fun _ => .pure trivial)
    | some value =>
      refine .rule (hreturns true) fun _ _ => ?_
      refine .keeps (checkExpr_keeps id value) (hexpr hroom (.ret ..)) fun value' hvalue => ?_
      exact .first (.ofRule (hfits hroom (.returned span hscope hfunction hvalue))) fun _ =>
        .pure trivial

end Stmt

/-! ### All statements -/

section Run

variable {id₀ : ScopeId} {xs₀ xs : List Stmt} {s₀ : State} (hP : ∀ span, AdmitsPlain P span)
  (hasks : ∀ {id x xs s}, Comes id₀ xs₀ s₀ id (x :: xs) s → s.depth < s.limit →
    ∀ q t, x.Asks id s.deeper q t → q.Traces id t P)

/-- Statements in a row, of each of which it is known. -/
theorem Check.Comes.traces_stmts
    (hxs : ∀ x ∈ xs, ∀ {ys s}, Comes id₀ xs₀ s₀ id (x :: ys) s → Traces (checkStmt id x) s P)
    (h : Comes id₀ xs₀ s₀ id xs s) : Traces (checkStmts id xs) s P := by
  induction xs generalizing s with
  | nil =>
    rw [checkStmts]
    exact .pure _
  | cons x xs ih =>
    obtain ⟨hx, hxs⟩ := List.forall_mem_cons.mp hxs
    rw [checkStmts]
    exact .bind (hx h) fun y t hy => .first (ih hxs (.next h hy)) fun _ => .pure trivial

include hP hasks

/-- **What is known of all that is asked on the way** is known of the diagnostics of a statement
that the check comes to. -/
theorem Check.Comes.traces (x : Stmt) {ys : List Stmt} (h : Comes id₀ xs₀ s₀ id (x :: ys) s) :
    Traces (checkStmt id x) s P := by
  induction x using Stmt.bodies_ind generalizing id ys s with
  | step x ih =>
    refine checkStmt_traces hP (fun q t hroom => hasks h hroom q t)
      fun m zs inner t hroom hway hm => ?_
    -- The block is entered on the way.
    obtain ⟨b, hb, rfl⟩ := hway.exists_body
    exact traces_stmts (fun y hy => ih b hb y hy) (.enter h hroom hway hm)

end Run

/-- **What is known of all that the statements of a program ask** is known of the diagnostic with
which the program is refused. -/
theorem checkProgram_traces {limit : Nat} {p : Program} (hP : ∀ span, AdmitsPlain P span)
    (hasks : ∀ {id x xs s}, p.Comes limit id (x :: xs) s → s.depth < s.limit →
      ∀ q t, x.Asks id s.deeper q t → q.Traces id t P)
    {d : Diagnostic} (h : checkProgram limit p = .error (.refused d)) : P d := by
  rw [checkProgram] at h
  split at h
  · cases h
  · next failure t hrun =>
    cases h
    exact Comes.traces_stmts (fun x _ => Comes.traces hP hasks x) .start d t hrun

end Shipshape
