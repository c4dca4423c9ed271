import Shipshape.Proofs.Frame.Computation
import Shipshape.Proofs.Lexical.Typed
import Shipshape.Proofs.Tree.Declared

/-!
# What the check of a statement leaves behind

* `Shipshape.Stmt.Binds` – the scope at hand has gained the name that a statement
  declares, if it declares one, and nothing else;
* `Shipshape.checkStmt_ends` – what the check of a statement leaves, whether it succeeds
  or fails.

A statement that succeeds leaves no scope of its own. One that fails may leave scopes
behind, but it has declared nothing in the scope at hand, with one exception: the name of
a function is declared there before the body is checked. `Shipshape.functionHead` is the
part of a function up to that point.
-/

namespace Shipshape

open Check (Ends)

variable {s : State} {id : ScopeId}

/-- **The scope at hand gains what a statement declares**: its name, which was free,
stands for the entity of the checked statement. -/
def Stmt.Binds (x : Stmt) (y : Checked.Stmt) (id : ScopeId) (a b : Arena) : Prop :=
  match x.declared? with
  | none => b = a
  | some name => ∃ entity, y.declared? = some entity ∧ a.Free id name ∧
      b = a.extend id [(name, entity)]

theorem Stmt.Binds.exists_names {x : Stmt} {y : Checked.Stmt} {a b : Arena}
    (h : x.Binds y id a b) : ∃ names, b = a.extend id names := by
  rw [Stmt.Binds] at h
  split at h
  · exact ⟨[], h.trans (a.extend_nil id).symm⟩
  · obtain ⟨entity, -, -, hb⟩ := h
    exact ⟨_, hb⟩

/-- **What a statement that fails leaves**: it has declared nothing in the scope at hand,
unless it is a function. -/
def Stmt.Fails (x : Stmt) (id : ScopeId) (a : Arena) (c : ClassTable) (b : Arena)
    (d : ClassTable) : Prop :=
  ∃ names, (names = [] ∨ ∃ decl, x = .function decl) ∧ a.Leaves c id names x.fieldDecls [] b d

/-- A statement may fail before it has done anything. -/
theorem Stmt.Fails.start {a : Arena} (h : a.Live id) (x : Stmt) (c : ClassTable) :
    x.Fails id a c a c :=
  ⟨[], .inl rfl, .refl h _ _⟩

/-- What is left by a statement, in every state and every scope that is alive. -/
def Stmt.Framed (x : Stmt) : Prop :=
  ∀ {s : State} {id : ScopeId}, s.arena.Live id → Ends (checkStmt id x) s
    (fun y b c => x.Binds y id s.arena b ∧ s.arena.Adds id x.fieldDecls [] s.classes c)
    (fun _ b c => x.Fails id s.arena s.classes b c)

/-! ### Blocks -/

theorem checkStmts_ends {xs : List Stmt} (hxs : ∀ x ∈ xs, x.Framed) (h : s.arena.Live id) :
    Ends (checkStmts id xs) s
      (fun _ b c => ∃ names, b = s.arena.extend id names ∧
        s.arena.Leaves s.classes id names (stmtsFieldDecls xs) [] b c)
      (fun _ b c => ∃ names, s.arena.Leaves s.classes id names (stmtsFieldDecls xs) [] b c) := by
  induction xs generalizing s with
  | nil =>
    rw [checkStmts]
    exact .pure ⟨[], (s.arena.extend_nil id).symm, .refl h _ _⟩
  | cons x xs ih =>
    obtain ⟨hx, hxs⟩ := List.forall_mem_cons.mp hxs
    rw [checkStmts, stmtsFieldDecls]
    refine .bind ((hx h).mono (fun _ _ _ hy => hy) fun _ b c he => ?_) fun y t hy => ?_
    · obtain ⟨names, -, he⟩ := he
      exact ⟨names, he.mono fun p hp => List.mem_append_left _ hp⟩
    · obtain ⟨hbinds, hadds⟩ := hy
      obtain ⟨names, harena⟩ := hbinds.exists_names
      have hgrows : s.arena.Grows id names t.arena := harena ▸ .extend h.wellFormed id names
      have hfirst : s.arena.Leaves s.classes id names x.fieldDecls [] t.arena t.classes :=
        ⟨hgrows, hadds⟩
      have hrest := ih hxs (hgrows.live h)
      refine .bind (hrest.mono (fun _ _ _ hz => hz) fun _ b c he => ?_) fun ys u hz => ?_
      · obtain ⟨more, he⟩ := he
        exact ⟨_, hfirst.trans h he⟩
      · obtain ⟨more, hu, hlast⟩ := hz
        refine .pure ⟨more ++ names, ?_, hfirst.trans h hlast⟩
        rw [hu, harena, Arena.extend_extend]

theorem checkBlock_ends {body : Block Stmt} (hbody : ∀ x ∈ body.body, x.Framed)
    (h : s.arena.Live id) :
    Ends (checkBlock id body) s
      (fun _ b c => ∃ names, s.arena.Leaves s.classes id names (blockFieldDecls body) [] b c)
      (fun _ b c => ∃ names, s.arena.Leaves s.classes id names (blockFieldDecls body) [] b c) := by
  obtain ⟨xs, span⟩ := body
  rw [checkBlock, blockFieldDecls]
  refine .bind (checkStmts_ends hbody h) fun ys t hys => ?_
  obtain ⟨names, -, hleaves⟩ := hys
  exact .pure ⟨names, hleaves⟩

/-- A region in a scope of its own, inside the same class, leaves the scopes as they are
when it succeeds. -/
theorem Check.Ends.region {α : Type} {changes : Overrides} {act : ScopeId → Check α}
    {decls : List (String × TypeExpr)} (h : s.arena.Live id) (hcls : changes.cls = none)
    (hact : ∀ scope : Scope, scope.parent = some id → Ends (act s.arena.size) (s.push scope)
      (fun _ b c => ∃ names,
        (s.arena.push scope).Leaves s.classes s.arena.size names decls [] b c)
      (fun _ b c => ∃ names,
        (s.arena.push scope).Leaves s.classes s.arena.size names decls [] b c)) :
    Ends (Check.withChild id changes act) s
      (fun _ b c => b = s.arena ∧ s.arena.Adds id decls [] s.classes c)
      (fun _ b c => s.arena.Leaves s.classes id [] decls [] b c) := by
  refine .withChild h fun scope hparent hscope => ?_
  rw [hcls, Option.none_or] at hscope
  refine (hact scope hparent).mono (fun _ b c hb => ?_) fun _ b c hb => ?_
  · obtain ⟨names, hleaves⟩ := hb
    have hleaves := hleaves.of_push hscope
    exact ⟨hleaves.scopes, hleaves.classes⟩
  · obtain ⟨names, hleaves⟩ := hb
    exact hleaves.of_push hscope

/-- A block in a scope of its own. -/
theorem childBlock_ends {body : Block Stmt} (hbody : ∀ x ∈ body.body, x.Framed)
    {changes : Overrides} (hcls : changes.cls = none) (h : s.arena.Live id) :
    Ends (Check.withChild id changes fun inner => checkBlock inner body) s
      (fun _ b c => b = s.arena ∧ s.arena.Adds id (blockFieldDecls body) [] s.classes c)
      (fun _ b c => s.arena.Leaves s.classes id [] (blockFieldDecls body) [] b c) :=
  .region h hcls fun scope hparent =>
    checkBlock_ends (s := s.push scope) hbody (h.push hparent)

/-- The body of a loop, in a scope that begins with the variable of the loop. -/
theorem loopBody_ends {body : Block Stmt} (hbody : ∀ x ∈ body.body, x.Framed)
    (name : String) (ty : Ty) (span : Span) (h : s.arena.Live id) :
    Ends (Check.withChild id { inLoop := some true } fun inner => do
        let entity ← Check.newEntity (.var name ty)
        Check.declare inner name entity span
        let body ← checkBlock inner body
        return (entity, body)) s
      (fun _ b c => b = s.arena ∧ s.arena.Adds id (blockFieldDecls body) [] s.classes c)
      (fun _ b c => s.arena.Leaves s.classes id [] (blockFieldDecls body) [] b c) := by
  refine .region h rfl fun scope hparent => .newEntity fun entity => ?_
  have hlive : (s.arena.push scope).Live s.arena.size := h.push hparent
  refine .declare hlive (fun _ => ⟨[], .refl hlive _ _⟩) fun _ => ?_
  have hvar := Arena.Leaves.extend hlive [(name, entity)] [] s.classes
  refine .bind ((checkBlock_ends hbody (hlive.extend _ _)).mono (fun _ _ _ hb => hb)
    fun _ b c he => ?_) fun b t hb => ?_
  · obtain ⟨names, he⟩ := he
    exact ⟨_, hvar.trans hlive he⟩
  · obtain ⟨names, hb⟩ := hb
    exact .pure ⟨_, hvar.trans hlive hb⟩

theorem declareParams_ends (params : List Param) (tys : List Ty) (h : s.arena.Live id) :
    Ends (declareParams id params tys) s
      (fun _ b c => c = s.classes ∧ ∃ names, b = s.arena.extend id names)
      (fun _ b c => c = s.classes ∧ ∃ names, s.arena.Grows id names b) := by
  induction params generalizing s tys with
  | nil =>
    rw [declareParams.eq_def]
    exact .pure ⟨rfl, [], (s.arena.extend_nil id).symm⟩
  | cons param params ih =>
    cases tys with
    | nil => exact .pure ⟨rfl, [], (s.arena.extend_nil id).symm⟩
    | cons ty tys =>
      rw [declareParams]
      refine .newEntity fun entity => ?_
      refine .declare (s := s.fresh) h (fun _ => ⟨rfl, [], .refl h.wellFormed id⟩) fun _ => ?_
      have hgrows : s.arena.Grows id [(param.name, entity)] _ := .extend h.wellFormed id _
      refine .bind ((ih tys (h.extend id _)).mono (fun _ _ _ hb => hb) fun _ b c he => ?_)
        fun es t hb => ?_
      · obtain ⟨hc, names, he⟩ := he
        exact ⟨hc, _, hgrows.trans he⟩
      · obtain ⟨hc, names, hb⟩ := hb
        exact .pure ⟨hc, _, hb.trans (s.arena.extend_extend id _ names)⟩

/-! ### Functions -/

/-- A method is added to the class that the scope lies in, or nothing is. -/
theorem declareMethod_ends {owner : Option ClassRef} {a : Arena}
    (howner : ∀ cls ∈ owner, a.cls? id = some cls) (name : String) (signature : Signature)
    (span : Span) :
    Ends (declareMethod owner name signature span) s
      (fun _ b c => b = s.arena ∧ ∃ methods, (owner = none → methods = []) ∧
        a.Adds id [] methods s.classes c)
      (fun _ b c => b = s.arena ∧ c = s.classes) := by
  cases owner with
  | none => exact .pure ⟨rfl, [], fun _ => rfl, .refl ..⟩
  | some cls =>
    cases hadd : s.classes.addMethod? cls name signature with
    | none =>
      have hrun : declareMethod (some cls) name signature span s =
          .error (.refused (.located (.duplicateDeclaration name) span)) s := by
        simp only [declareMethod, Bind.bind, EStateM.bind, Check.addMethod, hadd]
        rfl
      exact .of_error hrun ⟨rfl, rfl⟩
    | some classes =>
      have hrun : declareMethod (some cls) name signature span s = .ok () { s with classes } := by
        simp only [declareMethod, Bind.bind, EStateM.bind, Check.addMethod, hadd]
        rfl
      have hgains := ClassTable.gains_of_addMethod? hadd
      rw [← howner cls rfl] at hgains
      exact .of_ok hrun ⟨rfl, [(name, signature)], fun hnone => (by cases hnone), .of_gains hgains⟩

/-- **The part of a function before its body**: it ends when the name is declared in the
scope around, and the scope of the body is open and has the parameters. -/
def functionHead (owner : Option ClassRef) (id : ScopeId) (name : String) (params : List Param)
    (result : Option TypeExpr) (span : Span) : Check (ScopeId × Entity × List Entity × Ty) := do
  let result ← convertResult id result
  let tys ← convertParams id params
  let entity ← Check.newEntity (.function name ⟨tys, result⟩)
  let inner ← Check.openScope id { inLoop := some false, function := some entity }
  let params ← declareParams inner params tys
  declareMethod owner name ⟨tys, result⟩ span
  Check.declare id name entity span
  return (inner, entity, params, result)

/-- A function is checked up to its body, then its body is, and then the scope of the body
is closed. -/
theorem checkFunction_eq (owner : Option ClassRef) (id : ScopeId) (name : String)
    (params : List Param) (result : Option TypeExpr) (body : Block Stmt) (span : Span) :
    checkFunction owner id ⟨name, params, result, body, span⟩ =
      (functionHead owner id name params result span >>= fun r => do
        let body ← checkBlock r.1 body
        Check.closeScope r.1
        return ⟨r.2.1, r.2.2.1, r.2.2.2, body, span⟩) := by
  simp only [checkFunction, functionHead, Check.withChild, bind_assoc, pure_bind]

/-- The scopes after the part of a function before its body. -/
structure FunctionHead (a : Arena) (id : ScopeId) (name : String)
    (r : ScopeId × Entity × List Entity × Ty) (b : Arena) : Prop where
  /-- The scope of the body is the last. -/
  inner : r.1 = a.size
  /-- The name was free. -/
  free : a.Free id name
  /-- The name is declared in the scope around, and the scope of the body is open. -/
  scopes : ∃ scope : Scope, scope.parent = some id ∧ scope.cls = a.cls? id ∧
    b = (a.extend id [(name, r.2.1)]).push scope

theorem functionHead_ends {owner : Option ClassRef} (h : s.arena.Live id)
    (howner : ∀ cls ∈ owner, s.arena.cls? id = some cls) (name : String) (params : List Param)
    (result : Option TypeExpr) (span : Span) :
    Ends (functionHead owner id name params result span) s
      (fun r b c => FunctionHead s.arena id name r b ∧
        ∃ methods, (owner = none → methods = []) ∧ s.arena.Adds id [] methods s.classes c)
      (fun _ b c => ∃ methods, (owner = none → methods = []) ∧
        s.arena.Leaves s.classes id [] [] methods b c) := by
  obtain ⟨env, henv⟩ := h.exists_mirrors
  have hstart (failure : Failure) : ∃ methods, (owner = none → methods = []) ∧
      s.arena.Leaves s.classes id [] [] methods s.arena s.classes := ⟨[], fun _ => rfl, .refl h _ _⟩
  refine .reads (convertResult_reads henv result) hstart fun ty _ => ?_
  refine .reads (convertParams_reads henv params) hstart fun tys _ => ?_
  refine .newEntity fun entity => .openScope (s := s.fresh) h fun scope hparent hcls => ?_
  replace hcls : scope.cls = s.arena.cls? id := by rw [hcls]; rfl
  have hinner : (s.arena.push scope).Live s.arena.size := h.push hparent
  refine .bind ((declareParams_ends params tys hinner).mono (fun _ _ _ hb => hb)
    fun _ b c he => ?_) fun entities t ht => ?_
  · obtain ⟨hc, names, hgrows⟩ := he
    exact ⟨[], fun _ => rfl, hgrows.of_push id, hc ▸ .refl ..⟩
  · obtain ⟨hc, names, harena⟩ := ht
    replace harena : t.arena = s.arena.push (scope.extend names) :=
      harena.trans (s.arena.extend_push_size scope names)
    have hc : t.classes = s.classes := hc
    -- The scope around has not changed yet, and neither have the classes.
    have hparent' : (scope.extend names).parent = some id := hparent
    have hopen : s.arena.Grows id [] t.arena :=
      harena ▸ Arena.Grows.of_push (.refl (h.push hparent').wellFormed s.arena.size) id
    have hmethod := declareMethod_ends (s := t) howner name ⟨tys, ty⟩ span
    refine .bind (hmethod.mono (fun _ _ _ hb => hb) fun _ b c he => ?_) fun _ u hu => ?_
    · obtain ⟨rfl, rfl⟩ := he
      exact ⟨[], fun _ => rfl, hopen, hc ▸ .refl ..⟩
    · obtain ⟨hu, methods, hmethods, hadds⟩ := hu
      rw [hc] at hadds
      have hlive : u.arena.Live id := hu ▸ hopen.live h
      refine .declare hlive (fun _ => ⟨methods, hmethods, hu ▸ hopen, hadds⟩) fun hfree => ?_
      refine .pure ⟨⟨rfl, hopen.free h.lt_size (hu ▸ hfree), scope.extend names, hparent, hcls, ?_⟩,
        methods, hmethods, hadds⟩
      show u.arena.extend id _ = _
      rw [hu, harena, Arena.extend_push_of_lt _ _ h.lt_size]

/-- What the body of a function leaves, seen from the scope around. -/
theorem FunctionHead.body_leaves {name : String} {r : ScopeId × Entity × List Entity × Ty}
    {a b d : Arena} {c c' e : ClassTable} {names : List (String × Entity)}
    {decls : List (String × TypeExpr)} {methods : List (String × Signature)}
    (hhead : FunctionHead a id name r b) (h : a.Live id) (hadds : a.Adds id [] methods c c')
    (hbody : b.Leaves c' r.1 names decls [] d e) :
    a.Leaves c id [(name, r.2.1)] decls methods d e := by
  obtain ⟨hinner, -, scope, -, hcls, rfl⟩ := hhead
  have hdeclared : a.Leaves c id [(name, r.2.1)] [] methods (a.extend id [(name, r.2.1)]) c' :=
    ⟨.extend h.wellFormed id _, hadds⟩
  have hsize : a.size = (a.extend id [(name, r.2.1)]).size := (Arena.size_extend ..).symm
  rw [hinner, hsize] at hbody
  have hcls' : scope.cls = (a.extend id [(name, r.2.1)]).cls? id :=
    hcls.trans (hdeclared.scopes.cls?_eq h.lt_size).symm
  simpa using hdeclared.trans h (hbody.of_push hcls')

/-- The scope of the body is alive when the body is checked. -/
theorem FunctionHead.live {name : String} {r : ScopeId × Entity × List Entity × Ty} {a b : Arena}
    (hhead : FunctionHead a id name r b) (h : a.Live id) : b.Live r.1 := by
  obtain ⟨hinner, -, scope, hparent, -, rfl⟩ := hhead
  have hlive := (h.extend id [(name, r.2.1)]).push hparent
  rw [Arena.size_extend] at hlive
  rw [hinner]
  exact hlive

theorem checkFunction_ends {decl : FnDecl Stmt} (hbody : ∀ x ∈ decl.body.body, x.Framed)
    {owner : Option ClassRef} (h : s.arena.Live id)
    (howner : ∀ cls ∈ owner, s.arena.cls? id = some cls) :
    Ends (checkFunction owner id decl) s
      (fun f b c => s.arena.Free id decl.name ∧ b = s.arena.extend id [(decl.name, f.entity)] ∧
        ∃ methods, (owner = none → methods = []) ∧
          s.arena.Adds id (blockFieldDecls decl.body) methods s.classes c)
      (fun _ b c => ∃ names methods, (owner = none → methods = []) ∧
        s.arena.Leaves s.classes id names (blockFieldDecls decl.body) methods b c) := by
  obtain ⟨name, params, result, body, span⟩ := decl
  rw [checkFunction_eq]
  refine .bind ((functionHead_ends h howner name params result span).mono (fun _ _ _ hb => hb)
    fun _ b c he => ?_) fun r t ht => ?_
  · obtain ⟨methods, hmethods, he⟩ := he
    exact ⟨[], methods, hmethods, he.mono fun _ hp => nomatch hp⟩
  · obtain ⟨hhead, methods, hmethods, hadds⟩ := ht
    refine .bind ((checkBlock_ends hbody (hhead.live h)).mono (fun _ _ _ hb => hb)
      fun _ b c he => ?_) fun bs u hu => ?_
    · obtain ⟨names, he⟩ := he
      exact ⟨_, methods, hmethods, hhead.body_leaves h hadds he⟩
    · obtain ⟨names, hu⟩ := hu
      have hleaves := hhead.body_leaves h hadds hu
      have hclose : u.arena.leave r.1 = s.arena.extend id [(name, r.2.1)] := by
        rw [hhead.inner]
        exact hleaves.scopes.leave_eq h.wellFormed.size_pos
      exact .of_ok (t := { u with arena := u.arena.leave r.1 }) rfl
        ⟨hhead.free, hclose, methods, hmethods, hleaves.classes⟩

/-! ### Classes -/

theorem checkMethods_ends {decls : List (FnDecl Stmt)} {cls : ClassRef}
    (hdecls : ∀ f ∈ decls, ∀ x ∈ f.body.body, x.Framed) (h : s.arena.Live id)
    (hcls : s.arena.cls? id = some cls) :
    Ends (checkMethods cls id decls) s
      (fun _ b c => ∃ names fields methods, s.arena.Leaves s.classes id names fields methods b c)
      (fun _ b c => ∃ names fields methods,
        s.arena.Leaves s.classes id names fields methods b c) := by
  induction decls generalizing s with
  | nil =>
    rw [checkMethods]
    exact .pure ⟨[], [], [], .refl h _ _⟩
  | cons decl decls ih =>
    obtain ⟨hdecl, hdecls⟩ := List.forall_mem_cons.mp hdecls
    have howner : ∀ k ∈ some cls, s.arena.cls? id = some k := by
      rintro k ⟨⟩
      exact hcls
    rw [checkMethods]
    refine .bind ((checkFunction_ends hdecl h howner).mono (fun _ _ _ hb => hb)
      fun _ b c he => ?_) fun f t ht => ?_
    · obtain ⟨names, methods, -, he⟩ := he
      exact ⟨names, _, methods, he⟩
    · obtain ⟨-, harena, methods, -, hadds⟩ := ht
      have hgrows : s.arena.Grows id [(decl.name, f.entity)] t.arena :=
        harena ▸ .extend h.wellFormed id _
      have hfirst : s.arena.Leaves s.classes id _ _ methods t.arena t.classes := ⟨hgrows, hadds⟩
      have hcls' : t.arena.cls? id = some cls := (hgrows.cls?_eq h.lt_size).trans hcls
      refine .bind ((ih hdecls (hgrows.live h) hcls').mono (fun _ _ _ hb => hb)
        fun _ b c he => ?_) fun fs u hu => ?_
      · obtain ⟨names, fields, others, he⟩ := he
        exact ⟨_, _, _, hfirst.trans h he⟩
      · obtain ⟨names, fields, others, hu⟩ := hu
        exact .pure ⟨_, _, _, hfirst.trans h hu⟩

/-- The constructor of a class, in a scope of its own that begins with the parameters. -/
theorem constructor_ends {body : Block Stmt} (hbody : ∀ x ∈ body.body, x.Framed)
    (params : List Param) (tys : List Ty) (ctor : Entity) (h : s.arena.Live id) :
    Ends (Check.withChild id { inLoop := some false, function := some ctor } fun inner => do
        let params ← declareParams inner params tys
        let body ← checkBlock inner body
        return (params, body)) s
      (fun _ b c => b = s.arena ∧ s.arena.Adds id (blockFieldDecls body) [] s.classes c)
      (fun _ b c => s.arena.Leaves s.classes id [] (blockFieldDecls body) [] b c) := by
  refine .region h rfl fun scope hparent => ?_
  have hlive : (s.arena.push scope).Live s.arena.size := h.push hparent
  refine .bind ((declareParams_ends params tys hlive).mono (fun _ _ _ hb => hb)
    fun _ b c he => ?_) fun entities t ht => ?_
  · obtain ⟨hc, names, hgrows⟩ := he
    exact ⟨names, hgrows, hc ▸ .refl ..⟩
  · obtain ⟨hc, names, harena⟩ := ht
    have hparams : (s.arena.push scope).Leaves s.classes s.arena.size names [] [] t.arena
        t.classes := by
      rw [harena, hc]
      exact .extend hlive names [] s.classes
    refine .bind ((checkBlock_ends hbody (hparams.scopes.live hlive)).mono (fun _ _ _ hb => hb)
      fun _ b c he => ?_) fun b u hu => ?_
    · obtain ⟨more, he⟩ := he
      exact ⟨_, hparams.trans hlive he⟩
    · obtain ⟨more, hu⟩ := hu
      exact .pure ⟨_, hparams.trans hlive hu⟩

/-- The part of a class that is checked in its own scope changes no class that was there
before. -/
theorem classBody_ends {body : Block Stmt} {methods : List (FnDecl Stmt)} {cls : ClassRef}
    (hbody : ∀ x ∈ body.body, x.Framed) (hmethods : ∀ f ∈ methods, ∀ x ∈ f.body.body, x.Framed)
    {c : ClassTable} {other : Option ClassRef} (hsize : c.size ≤ cls.id)
    (hnew : c.Gains other [] [] s.classes)
    (hctor : ∀ signature, c.Gains other [] [] (s.classes.setCtor cls signature))
    (name : String) (params : List Param) (h : s.arena.Live id) :
    Ends (Check.withChild id { cls := some cls } fun inside => do
        let tys ← convertParams inside params
        let signature : Signature := ⟨tys, .none⟩
        Check.setCtor cls signature
        let ctor ← Check.newEntity (.function name signature)
        let (params, body) ←
          Check.withChild inside { inLoop := some false, function := some ctor } fun inner => do
            let params ← declareParams inner params tys
            let body ← checkBlock inner body
            return (params, body)
        let methods ← checkMethods cls inside methods
        return (ctor, params, body, methods)) s
      (fun _ b d => b = s.arena ∧ c.Gains other [] [] d)
      (fun _ b d => s.arena.Grows id [] b ∧ c.Gains other [] [] d) := by
  refine .withChild h fun scope hparent hscope => ?_
  have hlive : (s.arena.push scope).Live s.arena.size := h.push hparent
  have hopen : s.arena.Grows id [] (s.arena.push scope) :=
    Arena.Grows.of_push (.refl hlive.wellFormed s.arena.size) id
  have hcls : (s.arena.push scope).cls? s.arena.size = some cls :=
    (s.arena.cls?_push scope).trans hscope
  obtain ⟨env, henv⟩ := Arena.Live.exists_mirrors (s := s.push scope) hlive
  refine .reads (convertParams_reads henv params) (fun _ => ⟨hopen, hnew⟩) fun tys _ => ?_
  refine .setCtor (.newEntity fun ctor => ?_)
  refine .bind ((constructor_ends hbody params tys ctor hlive).mono (fun _ _ _ hb => hb)
    fun _ b d he => ?_) fun r t ht => ?_
  · exact he.elsewhere hscope (hctor _) hsize id
  · obtain ⟨harena, hadds⟩ := ht
    replace harena : t.arena = s.arena.push scope := harena
    have hfirst : (s.arena.push scope).Leaves (s.classes.setCtor cls ⟨tys, .none⟩) s.arena.size []
        (blockFieldDecls body) [] t.arena t.classes :=
      ⟨harena ▸ .refl hlive.wellFormed _, hadds⟩
    have hrest := checkMethods_ends (s := t) hmethods (harena ▸ hlive) (harena ▸ hcls)
    refine .bind (hrest.mono (fun _ _ _ hb => hb) fun _ b d he => ?_) fun fs u hu => ?_
    · obtain ⟨names, fields, others, he⟩ := he
      exact (hfirst.trans hlive he).elsewhere hscope (hctor _) hsize id
    · obtain ⟨names, fields, others, hu⟩ := hu
      exact .pure ((hfirst.trans hlive hu).elsewhere hscope (hctor _) hsize id)

theorem checkClass_ends {decl : ClassDecl Stmt} (hbody : ∀ x ∈ decl.body.body, x.Framed)
    (hmethods : ∀ f ∈ decl.methods, ∀ x ∈ f.body.body, x.Framed) (h : s.arena.Live id) :
    Ends (checkClass id decl) s
      (fun k b c => s.arena.Free id decl.name ∧ b = s.arena.extend id [(decl.name, k.entity)] ∧
        s.classes.Gains (s.arena.cls? id) [] [] c)
      (fun _ b c => s.arena.Grows id [] b ∧ s.classes.Gains (s.arena.cls? id) [] [] c) := by
  obtain ⟨name, params, body, ctorSpan, methods, span⟩ := decl
  rw [checkClass]
  -- The new class has a number that no class had before, so its members are no gain for
  -- any of those.
  have hnew : s.classes.Gains (s.arena.cls? id) [] [] (s.classes.add name).1 :=
    s.classes.gains_enter _ name ⟨[], .none⟩
  have hctor (signature : Signature) : s.classes.Gains (s.arena.cls? id) [] []
      ((s.classes.add name).1.setCtor (s.classes.add name).2 signature) := by
    rw [ClassTable.setCtor_add]
    exact s.classes.gains_enter _ name signature
  refine .newClass (.bind (classBody_ends hbody hmethods (Nat.le_refl _) hnew hctor name params h)
    fun r t ht => .newEntity fun entity => ?_)
  obtain ⟨harena, hgains⟩ := ht
  replace harena : t.arena = s.arena := harena
  refine .declare (s := t.fresh) (harena ▸ h) (fun _ => ⟨harena ▸ .refl h.wellFormed id, hgains⟩)
    fun hfree => ?_
  exact .pure ⟨harena ▸ hfree, congrArg (Arena.extend · id [(name, entity)]) harena, hgains⟩

/-! ### Choices -/

theorem checkBranches_ends {branches : List (Branch Expr Stmt)}
    (hbranches : ∀ b ∈ branches, ∀ x ∈ b.body.body, x.Framed) (h : s.arena.Live id) :
    Ends (checkBranches id branches) s
      (fun _ b c => b = s.arena ∧ s.arena.Adds id (branchFieldDecls branches) [] s.classes c)
      (fun _ b c => s.arena.Leaves s.classes id [] (branchFieldDecls branches) [] b c) := by
  induction branches generalizing s with
  | nil =>
    rw [checkBranches]
    exact .pure ⟨rfl, .refl ..⟩
  | cons branch branches ih =>
    obtain ⟨test, body⟩ := branch
    obtain ⟨hbody, hbranches⟩ := List.forall_mem_cons.mp hbranches
    obtain ⟨env, henv⟩ := h.exists_mirrors
    rw [checkBranches, branchFieldDecls]
    refine .reads (checkExpr_reads test henv) (fun _ => .refl h _ _) fun test _ => ?_
    refine .reads (.of_rule _ s) (fun _ => .refl h _ _) fun _ _ => ?_
    refine .bind ((childBlock_ends hbody rfl h).mono (fun _ _ _ hb => hb)
      fun _ b c he => he.mono fun p hp => List.mem_append_left _ hp) fun b t ht => ?_
    obtain ⟨harena, hadds⟩ := ht
    have hfirst : s.arena.Leaves s.classes id [] (blockFieldDecls body) [] t.arena t.classes :=
      ⟨harena ▸ .refl h.wellFormed id, hadds⟩
    refine .bind ((ih hbranches (harena ▸ h)).mono (fun _ _ _ hb => hb)
      fun _ b c he => hfirst.trans h he) fun bs u hu => ?_
    obtain ⟨hu, hadds'⟩ := hu
    exact .pure ⟨hu.trans harena, hadds.trans h.lt_size hfirst.scopes hadds'⟩

theorem checkAlternate_ends {alternate : Option (Block Stmt)}
    (halternate : ∀ b ∈ alternate, ∀ x ∈ b.body, x.Framed) (h : s.arena.Live id) :
    Ends (checkAlternate id alternate) s
      (fun _ b c => b = s.arena ∧ s.arena.Adds id (alternateFieldDecls alternate) [] s.classes c)
      (fun _ b c => s.arena.Leaves s.classes id [] (alternateFieldDecls alternate) [] b c) := by
  cases alternate with
  | none =>
    rw [checkAlternate]
    exact .pure ⟨rfl, .refl ..⟩
  | some body =>
    rw [checkAlternate, alternateFieldDecls]
    exact .bind (childBlock_ends (halternate body rfl) rfl h) fun b t ht => .pure ht

/-! ### Statements -/

/-- A statement that declares nothing and whose parts declare nothing in the scope at
hand. -/
theorem Stmt.Framed.of_region {x : Stmt} (hx : x.declared? = none)
    (h : ∀ {s : State} {id : ScopeId}, s.arena.Live id → Ends (checkStmt id x) s
      (fun _ b c => b = s.arena ∧ s.arena.Adds id x.fieldDecls [] s.classes c)
      (fun _ b c => s.arena.Leaves s.classes id [] x.fieldDecls [] b c)) : x.Framed := by
  intro s id hlive
  refine (h hlive).mono (fun y b c hy => ⟨?_, hy.2⟩) fun _ b c he => ⟨[], .inl rfl, he⟩
  rw [Stmt.Binds, hx]
  exact hy.1

/-- **What the check of a statement leaves**, whether it succeeds or fails. -/
theorem checkStmt_ends (x : Stmt) : x.Framed := by
  induction x with
  | var name typeExpr value span =>
    intro s id h
    obtain ⟨env, henv⟩ := Arena.Live.exists_mirrors (s := s.deeper) h
    have hstart (_ : Failure) := Stmt.Fails.start h (.var name typeExpr value span) s.classes
    rw [checkStmt]
    refine .nested hstart (.reads (checkExpr_reads value henv) hstart fun v _ => ?_)
    refine .reads (variableType_reads henv typeExpr v) hstart fun ty _ => ?_
    refine .newEntity fun entity => ?_
    refine .declare (s := s.deeper.fresh) h hstart fun hfree => ?_
    exact .pure ⟨⟨entity, rfl, hfree, rfl⟩, .refl ..⟩
  | function decl hbody =>
    intro s id h
    have hfunction : Ends (checkFunction none id decl) s.deeper _ _ :=
      checkFunction_ends hbody h fun _ hcls => by cases hcls
    rw [checkStmt]
    refine .nested (fun _ => .start h _ _) (.bind (hfunction.mono (fun _ _ _ hb => hb)
      fun _ b c he => ?_) fun f t ht => ?_)
    · obtain ⟨names, methods, hnone, he⟩ := he
      rw [hnone rfl, ← Stmt.fieldDecls_function] at he
      exact ⟨names, .inr ⟨decl, rfl⟩, he⟩
    · obtain ⟨hfree, harena, methods, hnone, hadds⟩ := ht
      rw [hnone rfl, ← Stmt.fieldDecls_function] at hadds
      exact .pure ⟨⟨f.entity, rfl, hfree, harena⟩, hadds⟩
  | classDecl decl hbody hmethods =>
    intro s id h
    have hclass := checkClass_ends (s := s.deeper) hbody hmethods h
    rw [checkStmt]
    refine .nested (fun _ => .start h _ _) (.bind (hclass.mono (fun _ _ _ hb => hb)
      fun _ b c he => ?_) fun k t ht => ?_)
    · exact ⟨[], .inl rfl, he.1, .of_gains he.2⟩
    · obtain ⟨hfree, harena, hgains⟩ := ht
      exact .pure ⟨⟨k.entity, rfl, hfree, harena⟩, .of_gains hgains⟩
  | field typeExpr name value span =>
    intro s id h
    obtain ⟨env, henv⟩ := Arena.Live.exists_mirrors (s := s.deeper) h
    have hstart (_ : Failure) := Stmt.Fails.start h (.field typeExpr name value span) s.classes
    rw [checkStmt]
    refine .nested hstart (.scope (s := s.deeper) h fun scope hscope => ?_)
    refine .reads (.require ..) hstart fun cls hcls => ?_
    refine .reads (checkExpr_reads value henv) hstart fun v _ => ?_
    refine .reads (convert_reads henv typeExpr) hstart fun ty _ => ?_
    refine .reads (.of_rule _ s.deeper) hstart fun _ _ => .addField hstart fun classes hadd => ?_
    have hscopeCls : s.arena.cls? id = some cls := by
      rw [Arena.cls?, show s.arena.scopes[id]? = some scope from hscope]
      exact Lexical.require_eq_ok_iff.mp hcls
    have hgains := hscopeCls ▸ ClassTable.gains_of_addField? hadd
    -- The field stays with its class even if its name turns out to be taken in the scope.
    have hadds : s.arena.Adds id (Stmt.field typeExpr name value span).fieldDecls [] s.classes
        classes := by
      rw [Stmt.fieldDecls]
      exact ⟨[(name, ty)], hgains, List.forall_mem_singleton.mpr (List.mem_singleton_self name)⟩
    refine .newEntity fun entity => ?_
    refine .declare (s := State.fresh { s.deeper with classes }) h
      (fun _ => ⟨[], .inl rfl, .refl h.wellFormed id, hadds⟩) fun hfree => ?_
    exact .pure ⟨⟨entity, rfl, hfree, rfl⟩, hadds⟩
  | assign target value span =>
    refine Stmt.Framed.of_region rfl fun {s id} h => ?_
    obtain ⟨env, henv⟩ := Arena.Live.exists_mirrors (s := s.deeper) h
    rw [checkStmt]
    refine .nested (fun _ => .refl h _ _) ?_
    refine .reads (checkExpr_reads value henv) (fun _ => .refl h _ _) fun v _ => ?_
    refine .reads (checkExpr_reads target henv) (fun _ => .refl h _ _) fun e _ => ?_
    refine .reads (.of_rule _ s.deeper) (fun _ => .refl h _ _) fun _ _ => ?_
    exact .pure ⟨rfl, .refl ..⟩
  | print value span =>
    refine Stmt.Framed.of_region rfl fun {s id} h => ?_
    obtain ⟨env, henv⟩ := Arena.Live.exists_mirrors (s := s.deeper) h
    rw [checkStmt]
    refine .nested (fun _ => .refl h _ _) ?_
    refine .reads (checkExpr_reads value henv) (fun _ => .refl h _ _) fun v _ => ?_
    exact .pure ⟨rfl, .refl ..⟩
  | expr value span =>
    refine Stmt.Framed.of_region rfl fun {s id} h => ?_
    obtain ⟨env, henv⟩ := Arena.Live.exists_mirrors (s := s.deeper) h
    rw [checkStmt]
    refine .nested (fun _ => .refl h _ _) ?_
    refine .reads (checkExpr_reads value henv) (fun _ => .refl h _ _) fun v _ => ?_
    exact .pure ⟨rfl, .refl ..⟩
  | ifElse branches alternate span hbranches halternate =>
    refine Stmt.Framed.of_region rfl fun {s id} h => ?_
    rw [checkStmt, Stmt.fieldDecls]
    refine .nested (fun _ => .refl h _ _) (.bind ((checkBranches_ends hbranches (s := s.deeper)
      h).mono (fun _ _ _ hb => hb) fun _ b c he => he.mono fun p hp => List.mem_append_left _ hp)
      fun bs t ht => ?_)
    obtain ⟨harena, hadds⟩ := ht
    have hgrows : s.arena.Grows id [] t.arena := harena ▸ .refl h.wellFormed id
    have hfirst : s.arena.Leaves s.classes id [] (branchFieldDecls branches) [] t.arena t.classes :=
      ⟨hgrows, hadds⟩
    refine .bind ((checkAlternate_ends halternate (hgrows.live h)).mono (fun _ _ _ hb => hb)
      fun _ b c he => hfirst.trans h he) fun o u hu => ?_
    obtain ⟨hu, hadds'⟩ := hu
    exact .pure ⟨hu.trans harena, hadds.trans h.lt_size hgrows hadds'⟩
  | whileLoop test body span hbody =>
    refine Stmt.Framed.of_region rfl fun {s id} h => ?_
    obtain ⟨env, henv⟩ := Arena.Live.exists_mirrors (s := s.deeper) h
    rw [checkStmt, Stmt.fieldDecls]
    refine .nested (fun _ => .refl h _ _) ?_
    refine .reads (checkExpr_reads test henv) (fun _ => .refl h _ _) fun v _ => ?_
    refine .reads (.of_rule _ s.deeper) (fun _ => .refl h _ _) fun _ _ => ?_
    exact .bind (childBlock_ends hbody rfl h) fun b t ht => .pure ht
  | forLoop name start stop body span hbody =>
    refine Stmt.Framed.of_region rfl fun {s id} h => ?_
    obtain ⟨env, henv⟩ := Arena.Live.exists_mirrors (s := s.deeper) h
    rw [checkStmt, Stmt.fieldDecls]
    refine .nested (fun _ => .refl h _ _) ?_
    refine .reads (checkExpr_reads start henv) (fun _ => .refl h _ _) fun v _ => ?_
    refine .reads (.of_rule _ s.deeper) (fun _ => .refl h _ _) fun _ _ => ?_
    refine .reads (checkExpr_reads stop henv) (fun _ => .refl h _ _) fun v _ => ?_
    refine .reads (.of_rule _ s.deeper) (fun _ => .refl h _ _) fun _ _ => ?_
    exact .bind (loopBody_ends hbody name .int span h) fun r t ht => .pure ht
  | forEach name typeExpr iterable body span hbody =>
    refine Stmt.Framed.of_region rfl fun {s id} h => ?_
    obtain ⟨env, henv⟩ := Arena.Live.exists_mirrors (s := s.deeper) h
    rw [checkStmt, Stmt.fieldDecls]
    refine .nested (fun _ => .refl h _ _) ?_
    refine .reads (checkExpr_reads iterable henv) (fun _ => .refl h _ _) fun v _ => ?_
    refine .reads (loopVariableType_reads henv typeExpr v) (fun _ => .refl h _ _) fun ty _ => ?_
    exact .bind (loopBody_ends hbody name ty span h) fun r t ht => .pure ht
  | breakLoop span =>
    refine Stmt.Framed.of_region rfl fun {s id} h => ?_
    rw [checkStmt]
    refine .nested (fun _ => .refl h _ _) (.scope (s := s.deeper) h fun scope _ => ?_)
    split
    · exact .pure ⟨rfl, .refl ..⟩
    · exact .refuse fun _ => .refl h _ _
  | ret value span =>
    refine Stmt.Framed.of_region rfl fun {s id} h => ?_
    obtain ⟨env, henv⟩ := Arena.Live.exists_mirrors (s := s.deeper) h
    rw [checkStmt]
    refine .nested (fun _ => .refl h _ _) (.scope (s := s.deeper) h fun scope _ => ?_)
    refine .reads (.require ..) (fun _ => .refl h _ _) fun f _ => ?_
    refine .reads (checkReturn_reads henv f value span) (fun _ => .refl h _ _) fun v _ => ?_
    exact .pure ⟨rfl, .refl ..⟩

end Shipshape
