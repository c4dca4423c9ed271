import Shipshape.Proofs.Run.Inside

/-!
# The two registries of methods

The methods of a class are registered twice: with their signatures in what is known about the
class, and with their entities as names in the scope of the class. A method is added to the class
first and then declared in the scope, and either may refuse it.

* `Shipshape.Scope.BindsMethods` – the names of a scope are those of given methods, and stand for
  functions with their signatures;
* `Shipshape.MethodsAgree` – the scope of a class binds the methods of the class;
* `Shipshape.checkFunction_agrees` – one step: the check of a method keeps the two in agreement,
  whether it succeeds or fails;
* `Shipshape.State.InClass.agrees` – all steps: they agree wherever the check is in the class;
* `Shipshape.checkClass_registries` – so one refuses a method exactly when the other would.

## What lies in between

Between adding a method and declaring it the two differ by that method, and this is the only time.
The bodies of the class may declare names and fields, and functions and classes of their own. But
they do so in scopes that were opened after that of the class, and methods are added by the
declarations of classes only, each to its own.
-/

namespace Shipshape

open Check (Ends bind_eq_of_left)

/-! ### Names of methods -/

namespace Scope

variable {scope : Scope} {methods : List (String × Ty)} {name : String}

/-- **The names of a scope are those of methods**: each name that is declared in the scope itself
stands for a function, which is one of the methods with its name and the type of its signature, and
each of the methods is a function that is there. -/
structure BindsMethods (scope : Scope) (methods : List (String × Ty)) : Prop where
  /-- What is declared is a method. -/
  bound : ∀ name entity, scope.lookup name = some entity →
    ∃ signature : Signature,
      entity.binding = .function name signature ∧ (name, signature.toTy) ∈ methods
  /-- What is a method is a function that is declared. -/
  listed : ∀ name ty, (name, ty) ∈ methods →
    ∃ (signature : Signature) (entity : Entity), ty = signature.toTy ∧
      scope.lookup name = some entity ∧ entity.binding = .function name signature

namespace BindsMethods

theorem nil (h : scope.names = []) : scope.BindsMethods [] := by
  refine ⟨fun name entity hl => ?_, fun _ _ hmem => nomatch hmem⟩
  rw [lookup, h] at hl
  cases hl

/-- **A name is taken in the scope exactly if it is the name of a method.** -/
theorem lookup_isSome_iff (h : scope.BindsMethods methods) :
    (∃ entity, scope.lookup name = some entity) ↔ name ∈ methods.map Prod.fst := by
  constructor
  · rintro ⟨entity, hl⟩
    obtain ⟨signature, -, hmem⟩ := h.bound name entity hl
    exact List.mem_map.mpr ⟨_, hmem, rfl⟩
  · intro hmem
    obtain ⟨⟨_, ty⟩, hlisted, rfl⟩ := List.mem_map.mp hmem
    obtain ⟨-, entity, -, hl, -⟩ := h.listed _ ty hlisted
    exact ⟨entity, hl⟩

theorem lookup_eq_none (h : scope.BindsMethods methods) (hname : name ∉ methods.map Prod.fst) :
    scope.lookup name = none :=
  Option.eq_none_iff_forall_ne_some.mpr fun entity hl =>
    hname (h.lookup_isSome_iff.mp ⟨entity, hl⟩)

theorem callable {c : ClassInfo} (h : scope.BindsMethods c.methodTypes) : c.Callable := by
  rintro ⟨name, ty⟩ hmem
  obtain ⟨signature, -, hty, -⟩ := h.listed name ty hmem
  exact ⟨signature, hty⟩

/-- **A new method is registered in both.** -/
theorem bind (h : scope.BindsMethods methods) (hname : name ∉ methods.map Prod.fst)
    {entity : Entity} {signature : Signature}
    (hentity : entity.binding = .function name signature) :
    (scope.bind name entity).BindsMethods (methods ++ [(name, signature.toTy)]) := by
  constructor
  · intro other found hl
    by_cases heq : other = name
    · subst heq
      rw [lookup_bind_self] at hl
      obtain rfl := Option.some.inj hl
      exact ⟨signature, hentity, List.mem_append_right _ List.mem_cons_self⟩
    · rw [lookup_bind_of_ne _ _ heq] at hl
      obtain ⟨sig, hfound, hmem⟩ := h.bound other found hl
      exact ⟨sig, hfound, List.mem_append_left _ hmem⟩
  · intro other ty hmem
    rcases List.mem_append.mp hmem with hold | hnew
    · have heq : other ≠ name := by
        rintro rfl
        exact hname (List.mem_map.mpr ⟨_, hold, rfl⟩)
      rw [lookup_bind_of_ne _ _ heq]
      exact h.listed other ty hold
    · obtain ⟨rfl, rfl⟩ := Prod.mk.inj (List.mem_singleton.mp hnew)
      exact ⟨signature, entity, rfl, lookup_bind_self .., hentity⟩

end BindsMethods

end Scope

namespace Arena

variable {a : Arena} {id : ScopeId} {scope : Scope} {name : String}

theorem declare_of_free (hscope : a.scopes[id]? = some scope) (hname : scope.lookup name = none)
    (entity : Entity) (span : Span) :
    a.declare id name entity span = .ok (a.extend id [(name, entity)]) := by
  rw [declare, get, hscope, extend, List.modify_eq_set_getElem?, hscope]
  simp only [hname]
  rfl

theorem declare_of_taken (hscope : a.scopes[id]? = some scope) {found : Entity}
    (hname : scope.lookup name = some found) (entity : Entity) (span : Span) :
    a.declare id name entity span =
      .error (.refused (.located (.duplicateDeclaration name) span)) := by
  rw [declare, get, hscope]
  simp only [hname]

/-- Scopes before one that is closed stay. -/
theorem getElem?_leave (a : Arena) {i : Nat} (h : i < id) :
    (a.leave id).scopes[i]? = a.scopes[i]? := by
  rw [leave]
  split
  · rfl
  · exact List.getElem?_take_of_lt h

end Arena

/-- The state in which a class has one more method. -/
def State.withMethod (s : State) (cls : ClassRef) (name : String) (signature : Signature) : State :=
  { s with classes := s.classes.set cls ((s.classes.info cls).gain [] [(name, signature)]) }

namespace Check

variable {s : State} {cls : ClassRef} {name : String}

theorem addMethod_of_found {found : Signature}
    (h : (s.classes.info cls).method? name = some found) (signature : Signature) :
    addMethod cls name signature s = .ok false s := by
  rw [addMethod, ClassTable.addMethod?, ClassInfo.addMethod?, h]
  rfl

theorem addMethod_of_free (h : (s.classes.info cls).method? name = none) (signature : Signature) :
    addMethod cls name signature s = .ok true (s.withMethod cls name signature) := by
  obtain ⟨d, hd⟩ : ∃ d, (s.classes.info cls).addMethod? name signature = some d := by
    rw [ClassInfo.addMethod?, h]
    exact ⟨_, rfl⟩
  obtain ⟨-, rfl⟩ := ClassInfo.addMethod?_eq_some hd
  rw [addMethod, ClassTable.addMethod?, hd]
  rfl

theorem addMethod_eq_false {t : State} {signature : Signature}
    (h : addMethod cls name signature s = .ok false t) :
    (∃ found, (s.classes.info cls).method? name = some found) ∧ t = s := by
  cases hfound : (s.classes.info cls).method? name with
  | none =>
    rw [addMethod_of_free hfound] at h
    cases h
  | some found =>
    rw [addMethod_of_found hfound] at h
    cases h
    exact ⟨⟨found, rfl⟩, rfl⟩

theorem addMethod_eq_true {t : State} {signature : Signature}
    (h : addMethod cls name signature s = .ok true t) :
    (s.classes.info cls).method? name = none ∧ t = s.withMethod cls name signature := by
  cases hfound : (s.classes.info cls).method? name with
  | none =>
    rw [addMethod_of_free hfound] at h
    cases h
    exact ⟨rfl, rfl⟩
  | some found =>
    rw [addMethod_of_found hfound] at h
    cases h

end Check

/-! ### Agreement -/

/-- No class loses or gains a method when only fields are gained. -/
theorem ClassTable.Gains.methods_eq {c d : ClassTable} {cls : ClassRef} {other : Option ClassRef}
    {fields : List (String × Ty)} (h : c.Gains other fields [] d) (hcls : cls.id < c.size) :
    (d.info cls).methodTypes = (c.info cls).methodTypes := by
  rw [ClassTable.info_of_getElem? (h _ _ (ClassTable.getElem?_of_lt hcls))]
  split
  · exact List.append_nil _
  · rfl

/-- **The two registries of the methods of a class agree**: the scope `inside` binds the methods
that are known of the class `cls`. -/
structure MethodsAgree (cls : ClassRef) (inside : ScopeId) (a : Arena) (c : ClassTable) :
    Prop where
  /-- The class was made. -/
  lt_size : cls.id < c.size
  /-- The scope is there, and binds the methods of the class. -/
  scope : ∃ scope, a.scopes[inside]? = some scope ∧ scope.BindsMethods (c.info cls).methodTypes

variable {limit : Nat} {p : Program} {cls : ClassRef} {inside id : ScopeId} {s t : State}

namespace MethodsAgree

variable {a b : Arena} {c d : ClassTable} {name : String} {entity : Entity} {signature : Signature}

/-- **Only the scope itself and the methods matter.** -/
theorem frame (h : MethodsAgree cls inside a c) (hscope : b.scopes[inside]? = a.scopes[inside]?)
    {other : Option ClassRef} {fields : List (String × Ty)} (hgains : c.Gains other fields [] d) :
    MethodsAgree cls inside b d := by
  obtain ⟨scope, hinside, hbinds⟩ := h.scope
  refine ⟨hgains.grows.lt_size h.lt_size, scope, hscope.trans hinside, ?_⟩
  rw [hgains.methods_eq h.lt_size]
  exact hbinds

/-- What is done in another scope does not matter. -/
theorem of_grows (h : MethodsAgree cls inside a c) {names : List (String × Entity)}
    (hgrows : a.Grows id names b) (hid : inside ≠ id) {other : Option ClassRef}
    {fields : List (String × Ty)} (hgains : c.Gains other fields [] d) :
    MethodsAgree cls inside b d := by
  obtain ⟨scope, hinside, -⟩ := h.scope
  have hlt : inside < a.size := (List.getElem?_eq_some_iff.mp hinside).1
  refine h.frame ?_ hgains
  rw [hgrows.scopes inside hlt, Arena.getElem?_extend_of_ne a names hid]

/-- So do statements that declare nothing in the scope itself. -/
theorem of_grows_nil (h : MethodsAgree cls inside a c) (hgrows : a.Grows inside [] b)
    {other : Option ClassRef} {fields : List (String × Ty)} (hgains : c.Gains other fields [] d) :
    MethodsAgree cls inside b d := by
  obtain ⟨scope, hinside, -⟩ := h.scope
  exact h.frame (hgrows.scopes_eq (List.getElem?_eq_some_iff.mp hinside).1) hgains

/-- A class that was just opened has no methods, and its scope has no names. -/
theorem of_opening {name : String} {r : ClassRef × ScopeId × List Ty × Entity}
    (h : ClassOpening s id name r b d) : MethodsAgree r.1 r.2.1 b d := by
  obtain ⟨hcls, hinside, ⟨scope, hnames, -, -, rfl⟩, ctor, rfl⟩ := h
  rw [hcls, hinside]
  refine ⟨?_, scope, ?_, ?_⟩
  · rw [ClassTable.size_enter]
    exact Nat.lt_succ_self _
  · simp [Arena.push, Arena.size]
  · rw [ClassTable.info_enter]
    exact .nil hnames

/-- **A method that is new to one registry is new to the other**, and they agree again when both
have it. -/
theorem register (h : MethodsAgree cls inside a c) (hfree : (c.info cls).method? name = none)
    (hentity : entity.binding = .function name signature) :
    MethodsAgree cls inside (a.extend inside [(name, entity)])
      (c.set cls ((c.info cls).gain [] [(name, signature)])) := by
  have hgains := c.gains_set cls [] [(name, signature)]
  obtain ⟨scope, hinside, hbinds⟩ := h.scope
  refine ⟨hgains.grows.lt_size h.lt_size, _, Arena.getElem?_extend_self hinside _, ?_⟩
  rw [hgains.info_self h.lt_size]
  exact hbinds.bind (hbinds.callable.method?_eq_none_iff.mp hfree) hentity

theorem declare_of_found (h : MethodsAgree cls inside s.arena c) {found : Signature}
    (hfound : (c.info cls).method? name = some found) (entity : Entity) (span : Span) :
    Check.declare inside name entity span s =
      .error (.refused (.located (.duplicateDeclaration name) span)) s := by
  obtain ⟨scope, hinside, hbinds⟩ := h.scope
  have hmem : name ∈ (c.info cls).methodTypes.map Prod.fst :=
    List.mem_map_of_mem (ClassInfo.mem_of_method? hfound)
  obtain ⟨old, hold⟩ := hbinds.lookup_isSome_iff.mpr hmem
  rw [Check.declare, Arena.declare_of_taken hinside hold]

theorem declare_of_free (h : MethodsAgree cls inside s.arena c)
    (hfree : (c.info cls).method? name = none) (entity : Entity) (span : Span) :
    Check.declare inside name entity span s =
      .ok () { s with arena := s.arena.extend inside [(name, entity)] } := by
  obtain ⟨scope, hinside, hbinds⟩ := h.scope
  have hname := hbinds.callable.method?_eq_none_iff.mp hfree
  rw [Check.declare, Arena.declare_of_free hinside (hbinds.lookup_eq_none hname)]

/-- **One registry refuses a method exactly when the other would.** -/
theorem addMethod_refuses_iff (h : MethodsAgree cls inside s.arena s.classes) (name : String)
    (signature : Signature) (entity : Entity) (span : Span) :
    (∃ t, Check.addMethod cls name signature s = .ok false t) ↔
      ∃ failure t, Check.declare inside name entity span s = .error failure t := by
  cases hfound : (s.classes.info cls).method? name with
  | some found =>
    rw [Check.addMethod_of_found hfound, h.declare_of_found hfound]
    exact ⟨fun _ => ⟨_, _, rfl⟩, fun _ => ⟨_, rfl⟩⟩
  | none =>
    rw [Check.addMethod_of_free hfound, h.declare_of_free hfound]
    constructor
    · rintro ⟨_, ⟨⟩⟩
    · rintro ⟨_, _, ⟨⟩⟩

/-- **A method that was added can be declared.** -/
theorem declare_of_addMethod (h : MethodsAgree cls inside s.arena s.classes)
    (hadd : Check.addMethod cls name signature s = .ok true t) (entity : Entity) (span : Span) :
    ∃ u, Check.declare inside name entity span t = .ok () u := by
  obtain ⟨hfree, rfl⟩ := Check.addMethod_eq_true hadd
  have hscopes : MethodsAgree cls inside (s.withMethod cls name signature).arena s.classes := h
  exact ⟨_, hscopes.declare_of_free hfree entity span⟩

end MethodsAgree

/-! ### One method -/

theorem declareMethod_of_found {name : String} {found : Signature}
    (h : (s.classes.info cls).method? name = some found) (signature : Signature) (span : Span) :
    declareMethod (some cls) name signature span s =
      .error (.refused (.located (.duplicateDeclaration name) span)) s := by
  rw [declareMethod, bind_eq_of_left (Check.addMethod_of_found h signature)]
  rfl

theorem declareMethod_of_free {name : String}
    (h : (s.classes.info cls).method? name = none) (signature : Signature) (span : Span) :
    declareMethod (some cls) name signature span s = .ok () (s.withMethod cls name signature) := by
  rw [declareMethod, bind_eq_of_left (Check.addMethod_of_free h signature)]
  rfl

/-- A function up to its body gets its name last: as a method of its class, and in the scope
around. -/
theorem functionHead_eq_opening (owner : Option ClassRef) (id : ScopeId) (name : String)
    (params : List Param) (result : Option TypeExpr) (span : Span) :
    functionHead owner id name params result span =
      (functionOpening id name params result >>= fun r => do
        declareMethod owner name r.2.2.2 span
        Check.declare id name r.2.1 span
        return (r.1, r.2.1, r.2.2.1, r.2.2.2.result)) := by
  simp only [functionHead, functionOpening, bind_assoc, pure_bind]

theorem MethodsAgree.of_opening_function (h : MethodsAgree cls inside s.arena s.classes)
    (hlive : s.arena.Live inside) {name : String} {r : ScopeId × Entity × List Entity × Signature}
    {b : Arena} {c : ClassTable} (hopening : FunctionOpening s inside name r b c) :
    MethodsAgree cls inside b c := by
  obtain ⟨henters, rfl, -⟩ := hopening
  exact h.of_grows_nil (henters.grows hlive) (.refl _ none)

/-- **The part of a method before its body** keeps the registries in agreement. -/
theorem functionHead_agrees (hlive : s.arena.Live inside)
    (h : MethodsAgree cls inside s.arena s.classes) (name : String) (params : List Param)
    (result : Option TypeExpr) (span : Span) :
    Ends (functionHead (some cls) inside name params result span) s
      (fun r b c => MethodsAgree cls inside b c ∧ inside < r.1 ∧ b.Live r.1)
      (fun _ b c => MethodsAgree cls inside b c) := by
  rw [functionHead_eq_opening]
  refine .bind ((functionOpening_ends hlive name params result).mono (fun _ _ _ hb => hb)
    fun _ b c he => ?_) fun r t hopening => ?_
  · obtain ⟨hgrows, rfl⟩ := he
    exact h.of_grows_nil hgrows (.refl _ none)
  · have hagree := h.of_opening_function hlive hopening
    cases hfound : (t.classes.info cls).method? name with
    | some found =>
      exact .of_error (Check.bind_eq_error_of_left (declareMethod_of_found hfound _ span) _) hagree
    | none =>
      have hscopes : MethodsAgree cls inside (t.withMethod cls name r.2.2.2).arena t.classes :=
        hagree
      have hdeclare := hscopes.declare_of_free hfound r.2.1 span
      refine .of_run ?_ (bind_eq_of_left (declareMethod_of_free hfound r.2.2.2 span) _)
      refine .of_run ?_ (bind_eq_of_left hdeclare _)
      refine .pure ⟨hagree.register hfound hopening.binding, ?_, ?_⟩
      · rw [hopening.enters.inner]
        exact hlive.lt_size
      · exact (hopening.enters.live hlive).extend inside _

/-- **The check of a method keeps the registries in agreement**, whether it succeeds or fails. -/
theorem checkFunction_agrees (hlive : s.arena.Live inside)
    (h : MethodsAgree cls inside s.arena s.classes) (f : FnDecl Stmt) :
    Ends (checkFunction (some cls) inside f) s (fun _ b c => MethodsAgree cls inside b c)
      (fun _ b c => MethodsAgree cls inside b c) := by
  obtain ⟨name, params, result, body, span⟩ := f
  rw [checkFunction_eq]
  refine .bind ((functionHead_agrees hlive h name params result span).mono (fun _ _ _ hb => hb)
    fun _ _ _ he => he) fun r t ht => ?_
  obtain ⟨hagree, hlt, hinner⟩ := ht
  have hleft {names : List (String × Entity)} {decls : List (String × TypeExpr)} {b : Arena}
      {c : ClassTable} (hleaves : t.arena.Leaves t.classes r.1 names decls [] b c) :
      MethodsAgree cls inside b c := by
    obtain ⟨fields, hgains, -⟩ := hleaves.classes
    exact hagree.of_grows hleaves.scopes (Nat.ne_of_lt hlt) hgains
  refine .bind ((checkBlock_ends (fun x _ => checkStmt_ends x) hinner).mono (fun _ _ _ hb => hb)
    fun _ b c he => ?_) fun block u hu => ?_
  · obtain ⟨names, he⟩ := he
    exact hleft he
  · -- Closing the scope of the body keeps that of the class, which was opened before.
    obtain ⟨names, hu⟩ := hu
    have hclosed : MethodsAgree cls inside (u.arena.leave r.1) u.classes :=
      (hleft hu).frame (u.arena.getElem?_leave hlt) (.refl _ none)
    exact .of_ok (t := { u with arena := u.arena.leave r.1 }) rfl hclosed

/-! ### All of a class -/

theorem Program.OpensClass.agrees {decl : ClassDecl Stmt} {tys : List Ty} {ctor : Entity}
    (h : p.OpensClass limit decl cls inside tys ctor s) :
    MethodsAgree cls inside s.arena s.classes := by
  obtain ⟨id, t, -, hopening⟩ := h.exists_opening
  exact .of_opening hopening

/-- **Before and after each method the registries agree.** -/
theorem Program.ComesToMethods.agrees {fs : List (FnDecl Stmt)}
    (h : p.ComesToMethods limit cls inside fs s) : MethodsAgree cls inside s.arena s.classes := by
  induction h with
  | @start decl tys ctor s t r hopens hctor =>
    obtain ⟨id, u, hlive, hopening⟩ := hopens.exists_opening
    have hbody : ∀ x ∈ decl.body.body, x.Framed := fun x _ => checkStmt_ends x
    obtain ⟨harena, fields, hgains, -⟩ :=
      (constructor_ends hbody decl.params tys ctor (hopening.live hlive)).ok r t hctor
    exact hopens.agrees.frame (by rw [harena]) hgains
  | @next f fs s t g hmethods hrun ih =>
    exact (checkFunction_agrees hmethods.live.1 ih f).ok g t hrun

/-- **In the bodies of a class the registries agree**, and statements stand in other scopes than
that of the class. -/
theorem Program.ComesInside.agrees {xs : List Stmt}
    (h : p.ComesInside limit cls inside id xs s) :
    MethodsAgree cls inside s.arena s.classes ∧ inside < id := by
  induction h with
  | @ctor decl tys ctor inner s t hopens hctor =>
    obtain ⟨id, u, hlive, hopening⟩ := hopens.exists_opening
    have hinside := hopening.live hlive
    obtain ⟨henters, hclasses⟩ := (ctorHead_enters hinside decl.params tys ctor).ok inner t hctor
    have hgains : s.classes.Gains none [] [] t.classes := hclasses ▸ .refl _ none
    refine ⟨hopens.agrees.of_grows_nil (henters.grows hinside) hgains, ?_⟩
    rw [henters.inner]
    exact hinside.lt_size
  | @method f fs s t r hmethods hhead =>
    obtain ⟨hagree, hlt, -⟩ := (functionHead_agrees hmethods.live.1 hmethods.agrees f.name f.params
      f.result f.span).ok r t hhead
    exact ⟨hagree, hlt⟩
  | @next id x xs s t y hcomes hrun ih =>
    obtain ⟨hagree, hlt⟩ := ih
    have hlive := hcomes.comes.live
    obtain ⟨hbinds, fields, hgains, -⟩ := (checkStmt_ends x hlive).ok y t hrun
    obtain ⟨names, harena⟩ := hbinds.exists_names
    have hgrows : s.arena.Grows id names t.arena := harena ▸ .extend hlive.wellFormed id names
    exact ⟨hagree.of_grows hgrows (Nat.ne_of_lt hlt) hgains, hlt⟩
  | @enter id inner x xs ys s t m hcomes _ hway hrun ih =>
    obtain ⟨hagree, hlt⟩ := ih
    have hlive : s.deeper.arena.Live id := hcomes.comes.live
    obtain ⟨hle, ⟨names, hgrows⟩, fields, hgains⟩ := hway.descends hlive hrun
    refine ⟨hagree.of_grows hgrows (Nat.ne_of_lt hlt) hgains, ?_⟩
    exact Nat.lt_of_lt_of_le (Nat.lt_trans hlt hlive.lt_size) hle

/-- **Wherever the check is in a class, the registries of its methods agree.** -/
theorem State.InClass.agrees (h : s.InClass limit p cls inside) :
    MethodsAgree cls inside s.arena s.classes := by
  induction h with
  | opened hopens => exact hopens.agrees
  | methods hmethods => exact hmethods.agrees
  | @opening f fs s t r hmethods hrun =>
    have hlive := hmethods.live.1
    exact hmethods.agrees.of_opening_function hlive
      ((functionOpening_ends hlive f.name f.params f.result).ok r t hrun)
  | @refused f fs failure s t hmethods hrun =>
    exact (checkFunction_agrees hmethods.live.1 hmethods.agrees f).error failure t hrun
  | stmts hcomes => exact hcomes.agrees.1
  | @branch id before after alternate span xs s t bs hcomes _ hrun =>
    have hlive : s.deeper.arena.Live id := hcomes.comes.live
    have hbefore : ∀ b ∈ before, ∀ x ∈ b.body.body, x.Framed := fun _ _ x _ => checkStmt_ends x
    obtain ⟨harena, fields, hgains, -⟩ := (checkBranches_ends hbefore hlive).ok bs t hrun
    exact hcomes.agrees.1.frame (by rw [harena]; rfl) hgains
  | @classDecl id decl xs s t hcomes _ hpasses =>
    obtain ⟨hagree, hlt⟩ := hcomes.agrees
    have hlive : s.deeper.arena.Live id := hcomes.comes.live
    obtain ⟨hgrows, hgains⟩ := hpasses.elsewhere hlive
    exact hagree.of_grows hgrows (Nat.ne_of_lt hlt) hgains
  | deeper _ _ ih => exact ih

/-! ### Methods that are refused -/

/-- The complaint about a method whose name is taken. -/
def FnDecl.duplicate (f : FnDecl Stmt) : Failure :=
  .refused (.located (.duplicateDeclaration f.name) f.span)

/-- **A method that the class refuses** ends the check of the class and of the program with a
complaint about that method, and neither the classes nor the scopes have changed. -/
theorem Program.ComesToMethods.refuses {f : FnDecl Stmt} {fs : List (FnDecl Stmt)} {u : State}
    {r : ScopeId × Entity × List Entity × Signature}
    (h : p.ComesToMethods limit cls inside (f :: fs) s)
    (hrun : functionOpening inside f.name f.params f.result s = .ok r t)
    (hadd : Check.addMethod cls f.name r.2.2.2 t = .ok false u) :
    checkFunction (some cls) inside f s = .error f.duplicate u ∧ u.classes = s.classes ∧
      (∀ i < s.arena.size, u.arena.scopes[i]? = s.arena.scopes[i]?) ∧
      checkProgram limit p = .error f.duplicate := by
  obtain ⟨⟨found, hfound⟩, rfl⟩ := Check.addMethod_eq_false hadd
  have hlive := h.live.1
  obtain ⟨henters, hclasses, -⟩ :=
    (functionOpening_ends hlive f.name f.params f.result).ok r u hrun
  have hhead : functionHead (some cls) inside f.name f.params f.result f.span s =
      .error f.duplicate u := by
    rw [functionHead_eq_opening, bind_eq_of_left hrun]
    exact Check.bind_eq_error_of_left (declareMethod_of_found hfound r.2.2.2 f.span) _
  have hfunction : checkFunction (some cls) inside f s = .error f.duplicate u := by
    obtain ⟨name, params, result, body, span⟩ := f
    rw [checkFunction_eq]
    exact Check.bind_eq_error_of_left hhead _
  have hmethods : checkMethods cls inside (f :: fs) s = .error f.duplicate u := by
    rw [checkMethods]
    exact Check.bind_eq_error_of_left hfunction _
  refine ⟨hfunction, hclasses, fun i hi => ?_, h.checkProgram_eq_error hmethods⟩
  exact (henters.grows hlive).scopes_eq hi

/-- **The two registries of the methods of a class agree.** Wherever the check of a program is in a
class, the names in the scope of the class are those of its methods, each of them for a function
with the signature that the class has. So the class refuses a method exactly if the scope would,
and a method that was added to the class can be declared in the scope.

Statements in a scope of the class are among these places. A method that the class refuses ends the
check of the program with a complaint about a duplicate, at that method, and nothing has changed in
either registry. -/
theorem checkClass_registries (limit : Nat) (p : Program) :
    (∀ cls inside s, s.InClass limit p cls inside →
      MethodsAgree cls inside s.arena s.classes ∧
      ∀ name signature entity span,
        ((∃ t, Check.addMethod cls name signature s = .ok false t) ↔
          ∃ failure t, Check.declare inside name entity span s = .error failure t) ∧
        ∀ t, Check.addMethod cls name signature s = .ok true t →
          ∃ u, Check.declare inside name entity span t = .ok () u) ∧
    (∀ cls id xs s, p.Comes limit id xs s → s.arena.cls? id = some cls →
      ∃ inside, p.ComesInside limit cls inside id xs s) ∧
    ∀ cls inside f fs s r t u, p.ComesToMethods limit cls inside (f :: fs) s →
      functionOpening inside f.name f.params f.result s = .ok r t →
      Check.addMethod cls f.name r.2.2.2 t = .ok false u →
      checkFunction (some cls) inside f s = .error f.duplicate u ∧ u.classes = s.classes ∧
        (∀ i < s.arena.size, u.arena.scopes[i]? = s.arena.scopes[i]?) ∧
        checkProgram limit p = .error f.duplicate := by
  refine ⟨fun cls inside s hs => ?_, fun cls id xs s hcomes hcls => hcomes.exists_inside hcls,
    fun cls inside f fs s r t u hmethods hrun hadd => hmethods.refuses hrun hadd⟩
  have hagree := hs.agrees
  refine ⟨hagree, fun name signature entity span => ⟨?_, fun t hadd => ?_⟩⟩
  · exact hagree.addMethod_refuses_iff name signature entity span
  · exact hagree.declare_of_addMethod hadd entity span

/-- A method with nothing in it. -/
def verse : FnDecl Stmt := ⟨"sing", [], none, ⟨[], .null⟩, .null⟩

/-- A method that declares a class of its own, with a method of the same name. -/
def sing : FnDecl Stmt :=
  ⟨"sing", [], none, ⟨[.classDecl ⟨"Shanty", [], ⟨[], .null⟩, .null, [verse], .null⟩], .null⟩,
    .null⟩

/-- Another method of that name. -/
def encore : FnDecl Stmt :=
  ⟨"sing", [⟨"verses", .named "int", .null⟩], none, ⟨[], .null⟩, ⟨⟨120, "crew"⟩, ⟨152, "crew"⟩⟩⟩

/-- A class with a field and with both methods. -/
def crewClass : ClassDecl Stmt :=
  ⟨"Crew", [], ⟨[.field (.named "int") "hands" (.literal (.int 12) .null) .null], .null⟩, .null,
    [sing, encore], .null⟩

/-- A program that declares the class. -/
def crewProgram : Program := ⟨[.classDecl crewClass], .null⟩

/-- The class, when it was made. -/
def crew : ClassRef := ⟨0, "Crew"⟩

/-- The constructor of the class. -/
def muster : Entity := ⟨5, .function "Crew" ⟨[], .none⟩⟩

/-- The state in which the class is open. -/
def enlisted : State := Check.after (classHead Arena.root "Crew" []) (State.initial 8).deeper

/-- The state in which the constructor is accepted. -/
def manned : State := Check.after (checkCtor 1 [] [] muster crewClass.body) enlisted

/-- The state in the body of the first method. -/
def singing : State :=
  Check.after (functionHead (some crew) 1 sing.name sing.params sing.result sing.span) manned

/-- The state in the body of the method inside it. -/
def chanting : State := Check.after (do
  let (cls, inside, tys, ctor) ← classHead 2 "Shanty" []
  let _ ← checkCtor inside [] tys ctor ⟨[], .null⟩
  let _ ← checkMethods cls inside []
  let (inner, _) ← functionHead (some cls) inside verse.name verse.params verse.result verse.span
  return inner) singing.deeper

/-- The state after the first method. -/
def sung : State := Check.after (checkFunction (some crew) 1 sing) manned

/-- The state in which the second method is about to get its name. -/
def encored : State :=
  Check.after (functionOpening 1 encore.name encore.params encore.result) sung

theorem crew_methods : crewProgram.ComesToMethods 8 crew 1 [sing, encore] manned := by
  have hhead : classHead Arena.root "Crew" [] (State.initial 8).deeper =
    .ok (crew, 1, [], muster) enlisted := rfl
  have hopens : crewProgram.OpensClass 8 crewClass crew 1 [] muster enlisted :=
    ⟨Arena.root, [], .initial 8, .start, by decide, hhead⟩
  obtain ⟨r, hctor⟩ : ∃ r, checkCtor 1 [] [] muster crewClass.body enlisted = .ok r manned :=
    ⟨_, rfl⟩
  exact .start hopens hctor

theorem crew_chanting : crewProgram.ComesInside 8 crew 1 4 [] chanting := by
  obtain ⟨r, hrun⟩ : ∃ r, functionHead (some crew) 1 sing.name sing.params sing.result sing.span
      manned = .ok (2, r) singing := ⟨_, rfl⟩
  have hsinging : crewProgram.ComesInside 8 crew 1 2 sing.body.body singing :=
    .method crew_methods hrun
  have hway : Stmt.Way 2 _ _ verse.body.body :=
    .method "Shanty" [] ⟨[], .null⟩ .null [] verse [] .null
  exact .enter hsinging (by decide +kernel) hway (Check.run_eq_ok (by decide +kernel))

/-- In the method of the class inside, the outer class refuses the name of its method, as its scope
does, and both take another. Its second method is refused at its place. -/
theorem crew_registries :
    chanting.InClass 8 crewProgram crew 1 ∧
    (chanting.classes.info crew).methodTypes = [("sing", .function [] .none)] ∧
    MethodsAgree crew 1 chanting.arena chanting.classes ∧
    (∃ t, Check.addMethod crew "sing" ⟨[.int], .none⟩ chanting = .ok false t) ∧
    (∃ failure t, Check.declare 1 "sing" muster .null chanting = .error failure t) ∧
    (∃ t u, Check.addMethod crew "row" ⟨[], .none⟩ chanting = .ok true t ∧
      Check.declare 1 "row" muster .null t = .ok () u) ∧
    chanting.arena.cls? 4 = some ⟨1, "Shanty"⟩ ∧
    (∃ inside, crewProgram.ComesInside 8 ⟨1, "Shanty"⟩ inside 4 [] chanting) ∧
    crewProgram.ComesToMethods 8 crew 1 [encore] sung ∧
    checkFunction (some crew) 1 encore sung = .error encore.duplicate encored ∧
    encored.classes = sung.classes ∧
    checkProgram 8 crewProgram = .error (.refused (.located (.duplicateDeclaration "sing")
      ⟨⟨120, "crew"⟩, ⟨152, "crew"⟩⟩)) := by
  obtain ⟨hagree, hinside, hduplicate⟩ := checkClass_registries 8 crewProgram
  have hchanting : chanting.InClass 8 crewProgram crew 1 := .stmts crew_chanting
  obtain ⟨hmethods, hboth⟩ := hagree crew 1 chanting hchanting
  have hlisted : (chanting.classes.info crew).methodTypes = [("sing", .function [] .none)] := rfl
  have hold : (chanting.classes.info crew).method? "sing" = some ⟨[], .none⟩ := by
    rw [ClassInfo.method?, hlisted]
    rfl
  have hnew : (chanting.classes.info crew).method? "row" = none := by
    rw [ClassInfo.method?, hlisted]
    rfl
  have hrefused : ∃ t, Check.addMethod crew "sing" ⟨[.int], .none⟩ chanting = .ok false t :=
    ⟨_, Check.addMethod_of_found hold _⟩
  have hadded := Check.addMethod_of_free hnew ⟨[], .none⟩
  obtain ⟨u, hdeclared⟩ := (hboth "row" ⟨[], .none⟩ muster .null).2 _ hadded
  have hcls : chanting.arena.cls? 4 = some ⟨1, "Shanty"⟩ := by decide +kernel
  obtain ⟨g, hsung⟩ : ∃ g, checkFunction (some crew) 1 sing manned = .ok g sung :=
    Check.exists_run_eq_ok (by decide +kernel)
  obtain ⟨r, hopening⟩ : ∃ r, functionOpening 1 encore.name encore.params encore.result sung =
    .ok r encored := Check.exists_run_eq_ok (by decide +kernel)
  obtain ⟨first, htaken⟩ : ∃ first, (encored.classes.info crew).method? encore.name = some first :=
    Option.isSome_iff_exists.mp (by decide +kernel)
  have hnext : crewProgram.ComesToMethods 8 crew 1 [encore] sung := .next crew_methods hsung
  obtain ⟨hfunction, hclasses, -, hprogram⟩ := hduplicate crew 1 encore [] sung r encored encored
    hnext hopening (Check.addMethod_of_found htaken _)
  exact ⟨hchanting, hlisted, hmethods, hrefused, (hboth "sing" _ muster .null).1.mp hrefused,
    ⟨_, u, hadded, hdeclared⟩, hcls, hinside _ 4 [] chanting crew_chanting.comes hcls, hnext,
    hfunction, hclasses, hprogram⟩

end Shipshape
