import Shipshape.Proofs.Run.Arises

/-!
# Inside a class

While the declaration of a class is checked, the check comes to its constructor and to its
methods, one after the other, and in their bodies to statements at any depth.

* `Shipshape.Program.OpensClass` – the check of a program makes a class and opens its scope;
* `Shipshape.Program.ComesToMethods` – it comes to the methods of the class that are left;
* `Shipshape.Program.ComesInside` – it comes to statements in a body of the class;
* `Shipshape.ClassDecl.Passes` – a point in the check of a class, up to its bodies;
* `Shipshape.State.InClass` – a state in which the check is in the class.

The statements inside a class are statements of the program
(`Shipshape.Program.ComesInside.comes`), and all of them are there: statements that the check
comes to in a scope of a class are inside that class (`Shipshape.Program.Comes.exists_inside`).

## The class and its scope

A class is inside the classes around it, and its own scope comes with a number that no scope
had when their scopes were opened. So the way to a block, however deep, touches the scopes that
were there only by the names of functions, each declared in the scope that the function stands
in (`Shipshape.Stmt.Way.descends`), and a method that is added on the way goes to a class that
was not there.
-/

namespace Shipshape

open Check (Ends bind_eq_of_left bind_eq_ok)

/-! ### Where a check comes to inside a class -/

/-- A function up to the point where it gets its name: its types are read, its entity is made,
and the scope of its body is open and has the parameters. -/
def functionOpening (id : ScopeId) (name : String) (params : List Param)
    (result : Option TypeExpr) : Check (ScopeId × Entity × List Entity × Signature) := do
  let result ← convertResult id result
  let tys ← convertParams id params
  let entity ← Check.newEntity (.function name ⟨tys, result⟩)
  let inner ← Check.openScope id { inLoop := some false, function := some entity }
  let params ← declareParams inner params tys
  return (inner, entity, params, ⟨tys, result⟩)

/-- **The check of a program opens a class.** It comes to the declaration `decl`, makes the class
`cls` and opens its scope `inside`. In the state `t` the constructor is next, which is the entity
`ctor` and has parameters of the types `tys`. -/
def Program.OpensClass (limit : Nat) (p : Program) (decl : ClassDecl Stmt) (cls : ClassRef)
    (inside : ScopeId) (tys : List Ty) (ctor : Entity) (t : State) : Prop :=
  ∃ id xs s, p.Comes limit id (.classDecl decl :: xs) s ∧ s.depth < s.limit ∧
    classHead id decl.name decl.params s.deeper = .ok (cls, inside, tys, ctor) t

/-- **The check of a program comes to methods** of the class `cls`, which are next in its scope
`inside`. -/
inductive Program.ComesToMethods (limit : Nat) (p : Program) (cls : ClassRef)
    (inside : ScopeId) : List (FnDecl Stmt) → State → Prop
  /-- The constructor is accepted, and all methods are next. -/
  | start {decl : ClassDecl Stmt} {tys : List Ty} {ctor : Entity} {s t : State}
      {r : List Entity × Block Checked.Stmt} :
      p.OpensClass limit decl cls inside tys ctor s →
      checkCtor inside decl.params tys ctor decl.body s = .ok r t →
      ComesToMethods limit p cls inside decl.methods t
  /-- A method is accepted, and those after it are next. -/
  | next {f : FnDecl Stmt} {fs : List (FnDecl Stmt)} {s t : State}
      {g : Checked.Function Checked.Stmt} : ComesToMethods limit p cls inside (f :: fs) s →
      checkFunction (some cls) inside f s = .ok g t → ComesToMethods limit p cls inside fs t

/-- **The check of a program comes to statements inside the class** `cls`, whose scope is
`inside`: in the state `s` the statements `xs` are next, in the scope `id`. They stand in the
body of the constructor or of a method, at any depth. -/
inductive Program.ComesInside (limit : Nat) (p : Program) (cls : ClassRef) (inside : ScopeId) :
    ScopeId → List Stmt → State → Prop
  /-- The body of the constructor is entered. -/
  | ctor {decl : ClassDecl Stmt} {tys : List Ty} {ctor : Entity} {inner : ScopeId} {s t : State} :
      p.OpensClass limit decl cls inside tys ctor s →
      ctorHead inside decl.params tys ctor s = .ok inner t →
      ComesInside limit p cls inside inner decl.body.body t
  /-- The body of a method is entered. -/
  | method {f : FnDecl Stmt} {fs : List (FnDecl Stmt)} {s t : State}
      {r : ScopeId × Entity × List Entity × Ty} : p.ComesToMethods limit cls inside (f :: fs) s →
      functionHead (some cls) inside f.name f.params f.result f.span s = .ok r t →
      ComesInside limit p cls inside r.1 f.body.body t
  /-- A statement is accepted, and those after it are next. -/
  | next {id : ScopeId} {x : Stmt} {xs : List Stmt} {s t : State} {y : Checked.Stmt} :
      ComesInside limit p cls inside id (x :: xs) s → checkStmt id x s = .ok y t →
      ComesInside limit p cls inside id xs t
  /-- A block of the next statement is entered. -/
  | enter {id inner : ScopeId} {x : Stmt} {xs ys : List Stmt} {s t : State} {m : Check ScopeId} :
      ComesInside limit p cls inside id (x :: xs) s → s.depth < s.limit → x.Way id m ys →
      m s.deeper = .ok inner t → ComesInside limit p cls inside inner ys t

/-- **A point in the check of a class.** The class is declared in the scope `id`, its check has
begun in the state `s`, and it comes to the last state. -/
inductive ClassDecl.Passes (decl : ClassDecl Stmt) (id : ScopeId) (s : State) : State → Prop
  /-- The constructor is next. -/
  | opened {r : ClassRef × ScopeId × List Ty × Entity} {t : State} :
      classHead id decl.name decl.params s = .ok r t → Passes decl id s t
  /-- A method is next, or all methods are accepted. -/
  | methods {r : ClassRef × ScopeId × List Ty × Entity} {c : List Entity × Block Checked.Stmt}
      {before after : List (FnDecl Stmt)} {gs : List (Checked.Function Checked.Stmt)}
      {t u v : State} : decl.methods = before ++ after →
      classHead id decl.name decl.params s = .ok r t →
      checkCtor r.2.1 decl.params r.2.2.1 r.2.2.2 decl.body t = .ok c u →
      checkMethods r.1 r.2.1 before u = .ok gs v → Passes decl id s v
  /-- A method is about to get its name. -/
  | opening {r : ClassRef × ScopeId × List Ty × Entity} {c : List Entity × Block Checked.Stmt}
      {before after : List (FnDecl Stmt)} {gs : List (Checked.Function Checked.Stmt)}
      {f : FnDecl Stmt} {q : ScopeId × Entity × List Entity × Signature} {t u v w : State} :
      decl.methods = before ++ f :: after →
      classHead id decl.name decl.params s = .ok r t →
      checkCtor r.2.1 decl.params r.2.2.1 r.2.2.2 decl.body t = .ok c u →
      checkMethods r.1 r.2.1 before u = .ok gs v →
      functionOpening r.2.1 f.name f.params f.result v = .ok q w → Passes decl id s w

/-- **The check of a program is in the class** `cls`, whose scope is `inside`. -/
inductive State.InClass (limit : Nat) (p : Program) (cls : ClassRef) (inside : ScopeId) :
    State → Prop
  /-- The constructor is next. -/
  | opened {decl : ClassDecl Stmt} {tys : List Ty} {ctor : Entity} {s : State} :
      p.OpensClass limit decl cls inside tys ctor s → InClass limit p cls inside s
  /-- A method is next, or all methods are accepted. -/
  | methods {fs : List (FnDecl Stmt)} {s : State} : p.ComesToMethods limit cls inside fs s →
      InClass limit p cls inside s
  /-- A method is about to get its name. -/
  | opening {f : FnDecl Stmt} {fs : List (FnDecl Stmt)} {s t : State}
      {r : ScopeId × Entity × List Entity × Signature} :
      p.ComesToMethods limit cls inside (f :: fs) s →
      functionOpening inside f.name f.params f.result s = .ok r t → InClass limit p cls inside t
  /-- A method has been refused. -/
  | refused {f : FnDecl Stmt} {fs : List (FnDecl Stmt)} {failure : Failure} {s t : State} :
      p.ComesToMethods limit cls inside (f :: fs) s →
      checkFunction (some cls) inside f s = .error failure t → InClass limit p cls inside t
  /-- Statements of a body are next. -/
  | stmts {id : ScopeId} {xs : List Stmt} {s : State} : p.ComesInside limit cls inside id xs s →
      InClass limit p cls inside s
  /-- A branch of a choice is next, after the branches before it. -/
  | branch {id : ScopeId} {before after : List (Branch Expr Stmt)}
      {alternate : Option (Block Stmt)} {span : Span} {xs : List Stmt} {s t : State}
      {bs : List (Branch Checked.Expr Checked.Stmt)} :
      p.ComesInside limit cls inside id (.ifElse (before ++ after) alternate span :: xs) s →
      s.depth < s.limit → checkBranches id before s.deeper = .ok bs t →
      InClass limit p cls inside t
  /-- A class that a body declares is being checked. -/
  | classDecl {id : ScopeId} {decl : ClassDecl Stmt} {xs : List Stmt} {s t : State} :
      p.ComesInside limit cls inside id (.classDecl decl :: xs) s → s.depth < s.limit →
      decl.Passes id s.deeper t → InClass limit p cls inside t
  /-- The check goes one level deeper, for a statement or for an expression in it. -/
  | deeper {s : State} : InClass limit p cls inside s → s.depth < s.limit →
      InClass limit p cls inside s.deeper

variable {limit : Nat} {p : Program} {cls : ClassRef} {inside id inner : ScopeId} {s t : State}
  {xs : List Stmt}

/-! ### Methods in a row -/

theorem checkMethods_concat {before : List (FnDecl Stmt)} {f : FnDecl Stmt}
    {gs : List (Checked.Function Checked.Stmt)} {g : Checked.Function Checked.Stmt} {u : State}
    (hbefore : checkMethods cls id before s = .ok gs t)
    (hf : checkFunction (some cls) id f t = .ok g u) :
    checkMethods cls id (before ++ [f]) s = .ok (gs ++ [g]) u := by
  induction before generalizing s gs with
  | nil =>
    rw [checkMethods] at hbefore
    cases hbefore
    rw [List.nil_append, checkMethods, bind_eq_of_left hf, checkMethods]
    rfl
  | cons e before ih =>
    rw [checkMethods] at hbefore
    obtain ⟨e', v, he, hbefore⟩ := bind_eq_ok hbefore
    obtain ⟨gs, w, hgs, hpure⟩ := bind_eq_ok hbefore
    cases hpure
    rw [List.cons_append, checkMethods, bind_eq_of_left he, bind_eq_of_left (ih hgs)]
    rfl

namespace Program

/-- The check comes past methods that are accepted. -/
theorem ComesToMethods.past {before fs : List (FnDecl Stmt)}
    {gs : List (Checked.Function Checked.Stmt)}
    (h : p.ComesToMethods limit cls inside (before ++ fs) s)
    (hbefore : checkMethods cls inside before s = .ok gs t) :
    p.ComesToMethods limit cls inside fs t := by
  induction before generalizing s gs with
  | nil =>
    rw [checkMethods] at hbefore
    cases hbefore
    exact h
  | cons e before ih =>
    rw [checkMethods] at hbefore
    obtain ⟨e', u, he, hbefore⟩ := bind_eq_ok hbefore
    obtain ⟨gs, v, hgs, hpure⟩ := bind_eq_ok hbefore
    cases hpure
    exact ih (.next h he) hgs

/-- Before the methods that are next, the constructor and the methods before them were
accepted. -/
theorem ComesToMethods.exists_before {fs : List (FnDecl Stmt)}
    (h : p.ComesToMethods limit cls inside fs s) :
    ∃ decl tys ctor t r u before gs, p.OpensClass limit decl cls inside tys ctor t ∧
      checkCtor inside decl.params tys ctor decl.body t = .ok r u ∧
      decl.methods = before ++ fs ∧ checkMethods cls inside before u = .ok gs s := by
  induction h with
  | start hopens hctor =>
    exact ⟨_, _, _, _, _, _, [], [], hopens, hctor, rfl, by rw [checkMethods]; rfl⟩
  | next _ hrun ih =>
    obtain ⟨decl, tys, ctor, t, r, u, before, gs, hopens, hctor, hdecl, hbefore⟩ := ih
    refine ⟨decl, tys, ctor, t, r, u, before ++ [_], _, hopens, hctor, ?_,
      checkMethods_concat hbefore hrun⟩
    rw [hdecl, List.append_assoc, List.singleton_append]

/-- **What is refused among the methods that the check comes to is refused in the program.** -/
theorem ComesToMethods.checkProgram_eq_error {fs : List (FnDecl Stmt)}
    (h : p.ComesToMethods limit cls inside fs s) {failure : Failure}
    (hfs : checkMethods cls inside fs s = .error failure t) :
    checkProgram limit p = .error failure := by
  induction h generalizing t with
  | @start decl tys ctor s u r hopens hctor =>
    obtain ⟨id, xs, v, hcomes, hroom, hhead⟩ := hopens
    have hclass : checkClass id decl v.deeper = .error failure t := by
      obtain ⟨name, params, body, ctorSpan, methods, span⟩ := decl
      rw [checkClass_eq, bind_eq_of_left hhead, bind_eq_of_left hctor]
      exact Check.bind_eq_error_of_left hfs _
    obtain ⟨w, hstmt⟩ := Check.nested_eq_error_of_lt hroom
      (Check.bind_eq_error_of_left hclass fun c => pure (Checked.Stmt.classDecl c)) decl.span
    have hrest : checkStmts id (.classDecl decl :: xs) v = .error failure w := by
      rw [checkStmts, checkStmt]
      exact Check.bind_eq_error_of_left hstmt _
    exact hcomes.checkProgram_eq_error hrest
  | @next f fs s u g _ hrun ih =>
    have hrest : checkMethods cls inside (f :: fs) s = .error failure t := by
      rw [checkMethods, bind_eq_of_left hrun]
      exact Check.bind_eq_error_of_left hfs _
    exact ih hrest

/-- **Statements inside a class are statements of the program.** -/
theorem ComesInside.comes (h : p.ComesInside limit cls inside id xs s) : p.Comes limit id xs s := by
  induction h with
  | @ctor decl tys ctor inner s t hopens hctor =>
    obtain ⟨id, xs, u, hcomes, hroom, hhead⟩ := hopens
    obtain ⟨name, params, body, ctorSpan, methods, span⟩ := decl
    exact .enter hcomes hroom (.ctor ..) ((bind_eq_of_left hhead _).trans hctor)
  | @method f fs s t r hmethods hhead =>
    obtain ⟨decl, tys, ctor, u, c, v, before, gs, hopens, hctor, hdecl, hbefore⟩ :=
      hmethods.exists_before
    obtain ⟨id, xs, w, hcomes, hroom, hclass⟩ := hopens
    obtain ⟨name, params, body, ctorSpan, methods, span⟩ := decl
    obtain rfl : methods = before ++ f :: fs := hdecl
    refine .enter hcomes hroom (.method ..) ?_
    exact (bind_eq_of_left hclass _).trans <| (bind_eq_of_left hctor _).trans <|
      (bind_eq_of_left hbefore _).trans <| bind_eq_of_left hhead _
  | next _ hrun ih => exact .next ih hrun
  | enter _ hroom hway hrun ih => exact .enter ih hroom hway hrun

/-- The scope of the statements that a check comes to is alive. -/
theorem Comes.live (h : p.Comes limit id xs s) : s.arena.Live id := by
  obtain ⟨hreach, env, henv⟩ := h.opens
  exact ⟨(hreach.founded Arena.founded_initial).wellFormed, henv.sees.lt_size⟩

end Program

/-! ### Entering a block

On the way to a block the scopes that are there are left alone, up to the name of the function
whose body it is. -/

namespace Arena

variable {a b : Arena}

/-- **A block is entered from a scope**: the scope of the block is the last one and lies in the
same class. The scope around has gained the given names. -/
structure Enters (a : Arena) (id : ScopeId) (names : List (String × Entity)) (inner : ScopeId)
    (b : Arena) : Prop where
  /-- The scope of the block is new. -/
  inner : inner = a.size
  /-- It stands in the scope around, in the same class. -/
  scopes : ∃ scope : Scope, scope.parent = some id ∧ scope.cls = a.cls? id ∧
    b = (a.extend id names).push scope

namespace Enters

variable {names : List (String × Entity)}

theorem grows (h : a.Enters id names inner b) (hid : a.Live id) : a.Grows id names b := by
  obtain ⟨-, scope, hparent, -, rfl⟩ := h
  have hlive := (hid.extend id names).push hparent
  have hpush : (a.extend id names).Grows id [] ((a.extend id names).push scope) :=
    Grows.of_push (.refl hlive.wellFormed _) id
  exact (Grows.extend hid.wellFormed id names).trans hpush

/-- The scope of the block is alive. -/
theorem live (h : a.Enters id names inner b) (hid : a.Live id) : b.Live inner := by
  obtain ⟨rfl, scope, hparent, -, rfl⟩ := h
  have hlive := (hid.extend id names).push hparent
  rw [size_extend] at hlive
  exact hlive

/-- The block lies in the class that the scope around lies in. -/
theorem cls?_eq (h : a.Enters id names inner b) : b.cls? inner = a.cls? id := by
  obtain ⟨rfl, scope, -, hcls, rfl⟩ := h
  have hpush := (a.extend id names).cls?_push scope
  rw [size_extend] at hpush
  exact hpush.trans hcls

/-- The block may begin with names of its own. -/
theorem of_push {scope : Scope} (hparent : scope.parent = some id) (hcls : scope.cls = a.cls? id)
    (names : List (String × Entity)) :
    a.Enters id [] a.size ((a.push scope).extend a.size names) := by
  refine ⟨rfl, scope.extend names, hparent, hcls, ?_⟩
  rw [extend_push_size, extend_nil]

end Enters

end Arena

theorem FunctionHead.enters {a b : Arena} {name : String}
    {r : ScopeId × Entity × List Entity × Ty} (h : FunctionHead a id name r b) :
    a.Enters id [(name, r.2.1)] r.1 b := by
  obtain ⟨hinner, -, scope, hparent, hcls, hb⟩ := h
  exact ⟨hinner, scope, hparent, hcls, hb⟩

theorem openScope_enters (h : s.arena.Live id) {changes : Overrides} (hcls : changes.cls = none) :
    Ends (Check.openScope id changes) s
      (fun inner b c => s.arena.Enters id [] inner b ∧ c = s.classes) (fun _ _ _ => True) := by
  rw [← bind_pure (Check.openScope id changes)]
  refine .openScope h fun scope hparent hscope => .pure ⟨⟨rfl, scope, hparent, ?_, ?_⟩, rfl⟩
  · rw [hscope, hcls, Option.none_or]
  · rw [Arena.extend_nil]
    rfl

theorem loopHead_enters (h : s.arena.Live id) (name : String) (ty : Ty) (span : Span) :
    Ends (loopHead id name ty span) s
      (fun inner b c => s.arena.Enters id [] inner b ∧ c = s.classes) (fun _ _ _ => True) := by
  rw [loopHead]
  refine .openScope h fun scope hparent hcls => .newEntity fun entity => ?_
  refine .declare (h.push hparent) (fun _ => trivial) fun _ => .pure ⟨?_, rfl⟩
  exact .of_push hparent hcls [(name, entity)]

theorem ctorHead_enters (h : s.arena.Live id) (params : List Param) (tys : List Ty)
    (ctor : Entity) :
    Ends (ctorHead id params tys ctor) s
      (fun inner b c => s.arena.Enters id [] inner b ∧ c = s.classes) (fun _ _ _ => True) := by
  rw [ctorHead]
  refine .openScope h fun scope hparent hcls => ?_
  refine .bind ((declareParams_ends params tys (h.push hparent)).mono (fun _ _ _ hb => hb)
    fun _ _ _ _ => trivial) fun entities t ht => ?_
  obtain ⟨hclasses, names, harena⟩ := ht
  refine .pure ⟨?_, hclasses⟩
  rw [harena]
  exact .of_push hparent hcls names

/-- **Before a function gets its name** nothing has changed but that the scope of its body is
open. -/
structure FunctionOpening (s : State) (id : ScopeId) (name : String)
    (r : ScopeId × Entity × List Entity × Signature) (b : Arena) (c : ClassTable) : Prop where
  /-- The scope of the body is open. -/
  enters : s.arena.Enters id [] r.1 b
  /-- No class has changed. -/
  classes : c = s.classes
  /-- The entity is a function with its name and signature. -/
  binding : r.2.1.binding = .function name r.2.2.2

theorem functionOpening_ends (h : s.arena.Live id) (name : String) (params : List Param)
    (result : Option TypeExpr) :
    Ends (functionOpening id name params result) s (FunctionOpening s id name)
      (fun _ b c => s.arena.Grows id [] b ∧ c = s.classes) := by
  obtain ⟨env, henv⟩ := h.exists_mirrors
  have hstart (failure : Failure) : s.arena.Grows id [] s.arena ∧ s.classes = s.classes :=
    ⟨.refl h.wellFormed id, rfl⟩
  rw [functionOpening]
  refine .reads (convertResult_reads henv result) hstart fun ty _ => ?_
  refine .reads (convertParams_reads henv params) hstart fun tys _ => ?_
  refine .numbered fun n => .openScope (s := s.fresh) h fun scope hparent hcls => ?_
  refine .bind ((declareParams_ends params tys (h.push hparent)).mono (fun _ _ _ hb => hb)
    fun _ b c he => ?_) fun entities t ht => ?_
  · obtain ⟨hclasses, names, hgrows⟩ := he
    exact ⟨hgrows.of_push id, hclasses⟩
  · obtain ⟨hclasses, names, harena⟩ := ht
    refine .pure ⟨?_, hclasses, rfl⟩
    rw [harena]
    exact .of_push hparent hcls names

/-- A block that is entered after parts of a statement that leave all scopes alone. -/
theorem Check.Ends.entered {m : Check ScopeId} {fields : List (String × Ty)}
    (harena : t.arena = s.arena) (hgains : s.classes.Gains (s.arena.cls? id) fields [] t.classes)
    (hm : Ends m t (fun inner b c => t.arena.Enters id [] inner b ∧ c = t.classes)
      fun _ _ _ => True) :
    Ends m t (fun inner b c => (∃ names, s.arena.Enters id names inner b) ∧
      ∃ fields, s.classes.Gains (s.arena.cls? id) fields [] c) (fun _ _ _ => True) := by
  refine hm.mono (fun inner b c hb => ?_) fun _ _ _ _ => trivial
  obtain ⟨henters, rfl⟩ := hb
  exact ⟨⟨[], harena ▸ henters⟩, fields, hgains⟩

/-- **A block of a statement that is no class** lies in the class that the statement stands
in. -/
theorem Stmt.Way.enters {x : Stmt} {m : Check ScopeId} (hx : x.Way id m xs)
    (hdecl : ∀ decl, x ≠ .classDecl decl) (h : s.arena.Live id) :
    Ends m s (fun inner b c => (∃ names, s.arena.Enters id names inner b) ∧
      ∃ fields, s.classes.Gains (s.arena.cls? id) fields [] c) (fun _ _ _ => True) := by
  obtain ⟨env, henv⟩ := h.exists_mirrors
  have hnone : s.classes.Gains (s.arena.cls? id) [] [] s.classes := .refl _ _
  have hframed (branches : List (Branch Expr Stmt)) :
      ∀ b ∈ branches, ∀ x ∈ b.body.body, x.Framed := fun _ _ x _ => checkStmt_ends x
  cases hx with
  | ctor | method => exact absurd rfl (hdecl _)
  | function name params result body span =>
    have howner : ∀ c ∈ none, s.arena.cls? id = some c := fun _ hc => nomatch hc
    refine .bind ((functionHead_ends h howner name params result span).mono (fun _ _ _ hb => hb)
      fun _ _ _ _ => trivial) fun r t ht => .pure ?_
    obtain ⟨hhead, methods, hmethods, fields, hgains, -⟩ := ht
    obtain rfl : methods = [] := hmethods rfl
    exact ⟨⟨_, hhead.enters⟩, fields, hgains⟩
  | branch before test body after alternate span =>
    refine .bind ((checkBranches_ends (hframed before) h).mono (fun _ _ _ hb => hb)
      fun _ _ _ _ => trivial) fun _ t ht => ?_
    obtain ⟨harena, fields, hgains, -⟩ := ht
    have hlive : t.arena.Live id := harena ▸ h
    obtain ⟨env, henv⟩ := hlive.exists_mirrors
    refine .reads (checkExpr_reads test henv) (fun _ => trivial) fun _ _ =>
      .reads (.of_rule ..) (fun _ => trivial) fun _ _ => ?_
    exact .entered harena hgains (openScope_enters hlive rfl)
  | alternate branches body span =>
    refine .bind ((checkBranches_ends (hframed branches) h).mono (fun _ _ _ hb => hb)
      fun _ _ _ _ => trivial) fun _ t ht => ?_
    obtain ⟨harena, fields, hgains, -⟩ := ht
    exact .entered harena hgains (openScope_enters (harena ▸ h) rfl)
  | whileLoop test body span =>
    refine .reads (checkExpr_reads test henv) (fun _ => trivial) fun _ _ =>
      .reads (.of_rule ..) (fun _ => trivial) fun _ _ => ?_
    exact .entered rfl hnone (openScope_enters h rfl)
  | forLoop name start stop body span =>
    refine .reads (checkExpr_reads start henv) (fun _ => trivial) fun _ _ =>
      .reads (.of_rule ..) (fun _ => trivial) fun _ _ => ?_
    refine .reads (checkExpr_reads stop henv) (fun _ => trivial) fun _ _ =>
      .reads (.of_rule ..) (fun _ => trivial) fun _ _ => ?_
    exact .entered rfl hnone (loopHead_enters h name .int span)
  | forEach name typeExpr iterable body span =>
    refine .reads (checkExpr_reads iterable henv) (fun _ => trivial) fun e _ => ?_
    refine .reads (loopVariableType_reads henv typeExpr e) (fun _ => trivial) fun ty _ => ?_
    exact .entered rfl hnone (loopHead_enters h name ty span)

/-! ### Entering a class -/

/-- **A class is opened**: it is the last one and has no members yet, and its scope is the last
one and has no names yet. -/
structure ClassOpening (s : State) (id : ScopeId) (name : String)
    (r : ClassRef × ScopeId × List Ty × Entity) (b : Arena) (c : ClassTable) : Prop where
  /-- The class is new. -/
  cls : r.1 = ⟨s.classes.size, name⟩
  /-- The scope of the class is new. -/
  inside : r.2.1 = s.arena.size
  /-- The scope stands in the scope around, and lies in the class. -/
  scopes : ∃ scope : Scope, scope.names = [] ∧ scope.parent = some id ∧ scope.cls = some r.1 ∧
    b = s.arena.push scope
  /-- Nothing is known about the class but its constructor. -/
  classes : ∃ ctor, c = s.classes.enter name ctor

theorem classHead_ends (h : s.arena.Live id) (name : String) (params : List Param) :
    Ends (classHead id name params) s (ClassOpening s id name) (fun _ _ _ => True) := by
  obtain ⟨frame, frames, hsees⟩ := h.wellFormed.exists_sees h.lt_size
  obtain ⟨parent, -, hchild⟩ := Arena.child_eq hsees { cls := some (s.classes.add name).2 }
  rw [classHead]
  refine .newClass (.bind (P := fun inside b c => inside = s.arena.size ∧ b = s.arena.push
    (parent.child id { cls := some (s.classes.add name).2 }) ∧ c = (s.classes.add name).1)
    (.of_ok (t := { s with
      arena := s.arena.push (parent.child id { cls := some (s.classes.add name).2 })
      classes := (s.classes.add name).1 }) ?_ ⟨rfl, rfl, rfl⟩) ?_)
  · simp only [Check.openScope, hchild]
  · rintro _ t ⟨rfl, harena, hclasses⟩
    have hlive : t.arena.Live s.arena.size := harena ▸ h.push rfl
    obtain ⟨env, henv⟩ := hlive.exists_mirrors
    refine .reads (convertParams_reads henv params) (fun _ => trivial) fun tys _ => ?_
    refine .setCtor (.newEntity fun ctor => .pure ⟨rfl, rfl, ⟨_, rfl, rfl, rfl, harena⟩, ?_⟩)
    refine ⟨⟨tys, .none⟩, ?_⟩
    show t.classes.setCtor _ _ = _
    rw [hclasses, ClassTable.setCtor_add]

namespace ClassOpening

variable {name : String} {r : ClassRef × ScopeId × List Ty × Entity} {b d : Arena}
  {c e : ClassTable}

theorem live (h : ClassOpening s id name r b c) (hid : s.arena.Live id) : b.Live r.2.1 := by
  obtain ⟨-, hinside, ⟨scope, -, hparent, -, rfl⟩, -⟩ := h
  rw [hinside]
  exact hid.push hparent

theorem cls?_eq (h : ClassOpening s id name r b c) : b.cls? r.2.1 = some r.1 := by
  obtain ⟨-, hinside, ⟨scope, -, -, hcls, rfl⟩, -⟩ := h
  rw [hinside, Arena.cls?_push, hcls]

/-- **What is done in the scope of a class** is no change for the scopes and the classes that were
there before. -/
theorem elsewhere (h : ClassOpening s id name r b c) {names : List (String × Entity)}
    {decls : List (String × TypeExpr)} {methods : List (String × Signature)}
    (hleaves : b.Leaves c r.2.1 names decls methods d e) :
    s.arena.Grows id [] d ∧ s.classes.Gains (s.arena.cls? id) [] [] e := by
  obtain ⟨hcls, hinside, ⟨scope, -, -, hscope, rfl⟩, ctor, rfl⟩ := h
  rw [hinside] at hleaves
  rw [hcls] at hscope
  exact hleaves.elsewhere hscope (s.classes.gains_enter _ name ctor) (Nat.le_refl _) id

end ClassOpening

/-- **The check goes down into a block**: the scope of the block is new, the scope `id` may have
gained names and no other has, and no class has gained a method. -/
structure State.Descends (s : State) (id inner : ScopeId) (b : Arena) (c : ClassTable) : Prop where
  /-- The scope of the block is new. -/
  size_le : s.arena.size ≤ inner
  /-- The scopes that were there. -/
  scopes : ∃ names, s.arena.Grows id names b
  /-- The classes that were there. -/
  classes : ∃ fields, s.classes.Gains (s.arena.cls? id) fields [] c

/-- What happens from the scope of a class down into a body of it. -/
theorem ClassOpening.descends {name : String} {r : ClassRef × ScopeId × List Ty × Entity}
    {b d : Arena} {c e : ClassTable} {names : List (String × Entity)}
    {decls : List (String × TypeExpr)} {methods : List (String × Signature)}
    (h : ClassOpening s id name r b c) (hleaves : b.Leaves c r.2.1 names decls methods d e)
    (hinner : b.size ≤ inner) : s.Descends id inner d e := by
  obtain ⟨hgrows, hgains⟩ := h.elsewhere hleaves
  obtain ⟨-, -, ⟨scope, -, -, -, rfl⟩, -⟩ := h
  have hsize : (s.arena.push scope).size = s.arena.size + 1 := by simp [Arena.push, Arena.size]
  exact ⟨by omega, ⟨[], hgrows⟩, [], hgains⟩

/-- What the constructor and the first methods of a class leave. -/
theorem ClassOpening.leaves {name : String} {r : ClassRef × ScopeId × List Ty × Entity}
    {params : List Param} {body : Block Stmt} {before : List (FnDecl Stmt)} {u v : State}
    {c : List Entity × Block Checked.Stmt} {gs : List (Checked.Function Checked.Stmt)}
    (h : ClassOpening s id name r t.arena t.classes) (hid : s.arena.Live id)
    (hctor : checkCtor r.2.1 params r.2.2.1 r.2.2.2 body t = .ok c u)
    (hbefore : checkMethods r.1 r.2.1 before u = .ok gs v) :
    ∃ names decls methods,
      t.arena.Leaves t.classes r.2.1 names decls methods v.arena v.classes := by
  have hlive := h.live hid
  have hbody : ∀ x ∈ body.body, x.Framed := fun x _ => checkStmt_ends x
  have hbodies : ∀ f ∈ before, ∀ x ∈ f.body.body, x.Framed := fun _ _ x _ => checkStmt_ends x
  obtain ⟨harena, hadds⟩ := (constructor_ends hbody params r.2.2.1 r.2.2.2 hlive).ok c u hctor
  have hfirst : t.arena.Leaves t.classes r.2.1 [] (blockFieldDecls body) [] u.arena u.classes :=
    ⟨harena ▸ .refl hlive.wellFormed _, hadds⟩
  obtain ⟨names, decls, methods, hrest⟩ :=
    (checkMethods_ends hbodies (harena ▸ hlive) (harena ▸ h.cls?_eq)).ok gs v hbefore
  exact ⟨_, _, _, hfirst.trans hlive hrest⟩

/-- **The way to a block** leaves the scopes and the classes that were there alone, up to names in
the scope at hand and fields of the class at hand. -/
theorem Stmt.Way.descends {x : Stmt} {m : Check ScopeId} (hx : x.Way id m xs)
    (h : s.arena.Live id) (hm : m s = .ok inner t) : s.Descends id inner t.arena t.classes := by
  by_cases hdecl : ∃ decl, x = .classDecl decl
  · obtain ⟨decl, rfl⟩ := hdecl
    cases hx with
    | ctor name params body ctorSpan methods span =>
      obtain ⟨r, u, hhead, hctor⟩ := bind_eq_ok hm
      have hopen := (classHead_ends h name params).ok r u hhead
      have hlive := hopen.live h
      obtain ⟨henters, hclasses⟩ :=
        (ctorHead_enters hlive params r.2.2.1 r.2.2.2).ok inner t hctor
      have hleaves : u.arena.Leaves u.classes r.2.1 [] [] [] t.arena t.classes :=
        ⟨henters.grows hlive, hclasses ▸ .refl ..⟩
      exact hopen.descends hleaves (Nat.le_of_eq henters.inner.symm)
    | method name params body ctorSpan before f after span =>
      obtain ⟨r, u, hhead, hm⟩ := bind_eq_ok hm
      obtain ⟨c, v, hctor, hm⟩ := bind_eq_ok hm
      obtain ⟨gs, w, hbefore, hm⟩ := bind_eq_ok hm
      obtain ⟨q, _, hf, hpure⟩ := bind_eq_ok hm
      cases hpure
      have hopen := (classHead_ends h name params).ok r u hhead
      have hlive := hopen.live h
      obtain ⟨names, decls, methods, hleaves⟩ := hopen.leaves h hctor hbefore
      have hlive' := hleaves.scopes.live hlive
      have howner : ∀ c ∈ some r.1, w.arena.cls? r.2.1 = some c := by
        rintro c ⟨⟩
        exact (hleaves.scopes.cls?_eq hlive.lt_size).trans hopen.cls?_eq
      obtain ⟨hfunction, added, -, hadds⟩ :=
        (functionHead_ends hlive' howner f.name f.params f.result f.span).ok q t hf
      have hlast := hfunction.body_leaves hlive' hadds (.refl (hfunction.live hlive') [] t.classes)
      refine hopen.descends (hleaves.trans hlive hlast) ?_
      rw [hfunction.inner]
      exact hleaves.scopes.size_le
  · have hdecl : ∀ decl, x ≠ .classDecl decl := fun decl heq => hdecl ⟨decl, heq⟩
    obtain ⟨⟨names, henters⟩, hgains⟩ := (hx.enters hdecl h).ok inner t hm
    exact ⟨Nat.le_of_eq henters.inner.symm, ⟨names, henters.grows h⟩, hgains⟩

/-- **The check of a class**, wherever it is, is no change for the scopes and the classes that were
there before. -/
theorem ClassDecl.Passes.elsewhere {decl : ClassDecl Stmt} (h : decl.Passes id s t)
    (hid : s.arena.Live id) :
    s.arena.Grows id [] t.arena ∧ s.classes.Gains (s.arena.cls? id) [] [] t.classes := by
  cases h with
  | @opened r _ hhead =>
    have hopen := (classHead_ends hid decl.name decl.params).ok r t hhead
    exact hopen.elsewhere (.refl (hopen.live hid) [] t.classes)
  | @methods r c before after gs u v _ _ hhead hctor hbefore =>
    have hopen := (classHead_ends hid decl.name decl.params).ok r u hhead
    obtain ⟨names, decls, methods, hleaves⟩ := hopen.leaves hid hctor hbefore
    exact hopen.elsewhere hleaves
  | @opening r c before after gs f q u v w _ _ hhead hctor hbefore hf =>
    have hopen := (classHead_ends hid decl.name decl.params).ok r u hhead
    have hlive := hopen.live hid
    obtain ⟨names, decls, methods, hleaves⟩ := hopen.leaves hid hctor hbefore
    have hlive' := hleaves.scopes.live hlive
    obtain ⟨henters, hclasses, -⟩ :=
      (functionOpening_ends hlive' f.name f.params f.result).ok q t hf
    have hlast : w.arena.Leaves w.classes r.2.1 [] [] [] t.arena t.classes :=
      ⟨henters.grows hlive', hclasses ▸ .refl ..⟩
    exact hopen.elsewhere (hleaves.trans hlive hlast)

/-! ### All statements of a class -/

/-- A class that the check of a program opens. -/
theorem Program.OpensClass.exists_opening {decl : ClassDecl Stmt} {tys : List Ty} {ctor : Entity}
    (h : p.OpensClass limit decl cls inside tys ctor t) : ∃ id s, s.arena.Live id ∧
      ClassOpening s id decl.name (cls, inside, tys, ctor) t.arena t.classes := by
  obtain ⟨id, xs, s, hcomes, -, hhead⟩ := h
  have hlive : s.deeper.arena.Live id := hcomes.live
  exact ⟨id, s.deeper, hlive, (classHead_ends hlive decl.name decl.params).ok _ t hhead⟩

/-- The scope of a class is alive while the class is checked, and lies in the class. -/
theorem Program.ComesToMethods.live {fs : List (FnDecl Stmt)}
    (h : p.ComesToMethods limit cls inside fs s) :
    s.arena.Live inside ∧ s.arena.cls? inside = some cls := by
  induction h with
  | @start decl tys ctor s t r hopens hctor =>
    obtain ⟨id, u, hlive, hopening⟩ := hopens.exists_opening
    have hbody : ∀ x ∈ decl.body.body, x.Framed := fun x _ => checkStmt_ends x
    obtain ⟨harena, -⟩ := (constructor_ends hbody decl.params tys ctor
      (hopening.live hlive)).ok r t hctor
    rw [harena]
    exact ⟨hopening.live hlive, hopening.cls?_eq⟩
  | @next f fs s t g _ hrun ih =>
    obtain ⟨hlive, hcls⟩ := ih
    have hbody : ∀ x ∈ f.body.body, x.Framed := fun x _ => checkStmt_ends x
    have howner : ∀ c ∈ some cls, s.arena.cls? inside = some c := fun c hc => hcls.trans hc
    obtain ⟨-, harena, -⟩ := (checkFunction_ends hbody hlive howner).ok g t hrun
    have hgrows : s.arena.Grows inside [(f.name, g.entity)] t.arena :=
      harena ▸ .extend hlive.wellFormed inside _
    exact ⟨hgrows.live hlive, (hgrows.cls?_eq hlive.lt_size).trans hcls⟩

/-- **Statements that the check comes to in a scope of a class are inside the class.** -/
theorem Program.Comes.exists_inside (h : p.Comes limit id xs s)
    (hcls : s.arena.cls? id = some cls) : ∃ inside, p.ComesInside limit cls inside id xs s := by
  induction h with
  | start => cases hcls
  | @next id x xs s t y hcomes hrun ih =>
    have hlive : s.arena.Live id := Program.Comes.live hcomes
    obtain ⟨hbinds, -⟩ := (checkStmt_ends x hlive).ok y t hrun
    obtain ⟨names, harena⟩ := hbinds.exists_names
    have hgrows : s.arena.Grows id names t.arena := harena ▸ .extend hlive.wellFormed id names
    obtain ⟨inside, hinside⟩ := ih ((hgrows.cls?_eq hlive.lt_size).symm.trans hcls)
    exact ⟨inside, .next hinside hrun⟩
  | @enter id inner x xs ys s t m hcomes hroom hway hrun ih =>
    have hlive : s.deeper.arena.Live id := Program.Comes.live (s := s) hcomes
    by_cases hdecl : ∃ decl, x = .classDecl decl
    · -- The block is a body of the class itself.
      obtain ⟨decl, rfl⟩ := hdecl
      cases hway with
      | ctor name params body ctorSpan methods span =>
        obtain ⟨r, u, hhead, hctor⟩ := bind_eq_ok hrun
        have hopen := (classHead_ends hlive name params).ok r u hhead
        obtain ⟨henters, -⟩ :=
          (ctorHead_enters (hopen.live hlive) params r.2.2.1 r.2.2.2).ok inner t hctor
        obtain rfl := Option.some.inj ((henters.cls?_eq.trans hopen.cls?_eq).symm.trans hcls)
        exact ⟨r.2.1, .ctor ⟨id, xs, s, hcomes, hroom, hhead⟩ hctor⟩
      | method name params body ctorSpan before f after span =>
        obtain ⟨r, u, hhead, hrun⟩ := bind_eq_ok hrun
        obtain ⟨c, v, hctor, hrun⟩ := bind_eq_ok hrun
        obtain ⟨gs, w, hbefore, hrun⟩ := bind_eq_ok hrun
        obtain ⟨q, _, hf, hpure⟩ := bind_eq_ok hrun
        cases hpure
        have hclass : p.OpensClass limit ⟨name, params, body, ctorSpan, before ++ f :: after, span⟩
          r.1 r.2.1 r.2.2.1 r.2.2.2 u := ⟨id, xs, s, hcomes, hroom, hhead⟩
        have hmethods : p.ComesToMethods limit r.1 r.2.1 (f :: after) w :=
          .past (.start hclass hctor) hbefore
        obtain ⟨hinside, hself⟩ := hmethods.live
        have howner : ∀ c ∈ some r.1, w.arena.cls? r.2.1 = some c := fun c hc => hself.trans hc
        obtain ⟨hfunction, -⟩ :=
          (functionHead_ends hinside howner f.name f.params f.result f.span).ok q t hf
        obtain rfl := Option.some.inj ((hfunction.enters.cls?_eq.trans hself).symm.trans hcls)
        exact ⟨r.2.1, .method hmethods hf⟩
    · have hdecl : ∀ decl, x ≠ .classDecl decl := fun decl heq => hdecl ⟨decl, heq⟩
      obtain ⟨⟨names, henters⟩, -⟩ := (hway.enters hdecl hlive).ok inner t hrun
      obtain ⟨inside, hinside⟩ := ih (henters.cls?_eq.symm.trans hcls)
      exact ⟨inside, .enter hinside hroom hway hrun⟩

end Shipshape
