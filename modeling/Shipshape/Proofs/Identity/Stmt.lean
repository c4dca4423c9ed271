import Shipshape.Proofs.Identity.Supply

/-!
# The places that a check builds

* `Shipshape.Lexical.stmt_builds` – by induction over statements: the check of a statement
  builds the places of its result, and the binding that it hands back is that of the
  entity which the result declares;
* `Shipshape.Lexical.FunctionsBuilt` – the same for functions one after the other, each
  seen from those after it;
* `Shipshape.Lexical.classDecl_builds` – the same for a class.

Each statement follows one pattern. What it is made of is checked in order; the entities
are made on the way; and what lies inside is checked in an environment that lists what is
seen there.
-/

namespace Shipshape

open Checked (Place)

/-- **The check of a statement builds the places of its result**, in every environment,
and hands back what the result declares. -/
def Stmt.BuildsPlaces (x : Stmt) : Prop :=
  ∀ {env : Lexical.Env} {seen : List Entity} {σ τ : Lexical.Store} {y : Checked.Stmt}
    {binding : Option (String × Entity)}, env.Lists seen σ.classes.refs → σ.classes.Closed →
    Lexical.stmt env x σ = .ok (y, binding) τ →
    Lexical.Builds σ (⟨seen, y⟩ :: y.inner seen) τ ∧ binding = y.declared?.map Entity.named

namespace Lexical

variable {env : Env} {seen : List Entity} {σ τ : Store}

/-! ### Blocks -/

theorem stmts_build {xs : List Stmt} (hxs : ∀ x ∈ xs, x.BuildsPlaces)
    (henv : env.Lists seen σ.classes.refs) (hσ : σ.classes.Closed) {ys : List Checked.Stmt}
    (h : stmts env xs σ = .ok ys τ) : Builds σ (Checked.stmtsPlaces seen ys) τ := by
  induction xs generalizing env seen σ ys with
  | nil =>
    rw [stmts] at h
    cases h
    rw [Checked.stmtsPlaces]
    exact .nil hσ
  | cons x xs ih =>
    obtain ⟨hx, hxs⟩ := List.forall_mem_cons.mp hxs
    rw [stmts] at h
    obtain ⟨⟨y, binding⟩, ρ, hy, h⟩ := Lex.bind_eq_ok_iff.mp h
    obtain ⟨rest, _, hrest, h⟩ := Lex.bind_eq_ok_iff.mp h
    cases h
    obtain ⟨hfirst, rfl⟩ := hx henv hσ hy
    -- The statements after the first see what it declares.
    have hplace := hfirst.holds _ List.mem_cons_self
    have hdeclared : ∀ e ∈ y.declared?.toList, e.classes ⊆ ρ.classes.refs := fun e he =>
      (Checked.Stmt.classes_subset_iff.mp hplace.classes).1 e
        (Checked.Stmt.mem_entities_of_declared? (Option.mem_toList.mp he))
    have hnext := (henv.mono hfirst.makes.subset).extend y.declared?.toList hdeclared
    rw [← Option.toList_map] at hnext
    rw [Checked.stmtsPlaces]
    exact hfirst.append (ih hxs hnext hfirst.makes.closed hrest)

theorem block_builds {body : Block Stmt} (hbody : ∀ x ∈ body.body, x.BuildsPlaces)
    (henv : env.Lists seen σ.classes.refs) (hσ : σ.classes.Closed) {b : Block Checked.Stmt}
    (h : block env body σ = .ok b τ) : Builds σ (Checked.blockPlaces seen b) τ := by
  obtain ⟨xs, span⟩ := body
  rw [block] at h
  obtain ⟨ys, _, hys, h⟩ := Lex.bind_eq_ok_iff.mp h
  cases h
  rw [Checked.blockPlaces]
  exact stmts_build hbody henv hσ hys

/-- The variable of a loop is made first, and then the body sees it. -/
theorem loopBody_builds {body : Block Stmt} (hbody : ∀ x ∈ body.body, x.BuildsPlaces)
    (henv : env.Lists seen σ.classes.refs) (hσ : σ.classes.Closed) {name : String} {ty : Ty}
    (hty : ty.classes ⊆ σ.classes.refs) {entity : Entity} {b : Block Checked.Stmt}
    (h : loopBody env name ty (fun inner => block inner body) σ = .ok (entity, b) τ) :
    σ.Makes [entity] [] σ.fresh ∧ entity.classes ⊆ σ.classes.refs ∧
      Builds σ.fresh (Checked.blockPlaces (entity :: seen) b) τ := by
  rw [loopBody, Lex.newEntity_bind] at h
  obtain ⟨b, _, hb, h⟩ := Lex.bind_eq_ok_iff.mp h
  cases h
  have hmakes := Store.makes_fresh hσ (.var name ty)
  have hinner := (henv.mono hmakes.subset).push [⟨σ.nextEntity, .var name ty⟩]
    (List.forall_mem_singleton.mpr hty) env.ambient.loop henv.cls
  exact ⟨hmakes, hty, block_builds hbody hinner hmakes.closed hb⟩

/-! ### Functions and methods -/

/-- **Functions were built one after the other**, each seen from those after it. -/
structure FunctionsBuilt (seen : List Entity) (σ : Store)
    (fs : List (Checked.Function Checked.Stmt)) (τ : Store) : Prop where
  /-- The functions, their parameters, and what their bodies declare. -/
  makes : σ.Makes ((fs.flatMap fun f => f.entity :: f.params) ++
      Place.entities (Checked.methodsPlaces seen fs))
    (Place.classDecls (Checked.methodsPlaces seen fs)) τ
  /-- The places in the bodies. -/
  holds : ∀ p ∈ Checked.methodsPlaces seen fs, p.Holds τ.classes.refs
  /-- The classes in the functions and their parameters. -/
  entities : ∀ e ∈ fs.flatMap fun f => f.entity :: f.params, e.classes ⊆ τ.classes.refs
  /-- The classes in the results. -/
  results : ∀ f ∈ fs, f.result.classes ⊆ τ.classes.refs

theorem functionsBuilt_nil (hσ : σ.classes.Closed) : FunctionsBuilt seen σ [] σ := by
  have hplaces : Checked.methodsPlaces seen [] = [] := by rw [Checked.methodsPlaces]
  refine ⟨?_, ?_, fun _ he => (by cases he), fun _ hf => by cases hf⟩
  · rw [hplaces]
    exact .refl hσ
  · rw [hplaces]
    exact fun _ hp => by cases hp

/-- One function, and then those that see it. -/
theorem FunctionsBuilt.cons {ρ : Store} {f : Checked.Function Checked.Stmt}
    {fs : List (Checked.Function Checked.Stmt)} (hf : FunctionsBuilt seen σ [f] ρ)
    (hfs : FunctionsBuilt (f.entity :: seen) ρ fs τ) : FunctionsBuilt seen σ (f :: fs) τ := by
  have hsub := hfs.makes.subset
  have hplaces := Checked.methodsPlaces_cons seen f fs
  have hheads : ((f :: fs).flatMap fun f => f.entity :: f.params) =
      ([f].flatMap fun f => f.entity :: f.params) ++ fs.flatMap fun f => f.entity :: f.params := by
    rw [List.flatMap_cons, List.flatMap_singleton]
  refine ⟨?_, ?_, ?_, ?_⟩
  · -- The heads of the later functions come after the body of the first.
    rw [hplaces, hheads, Place.entities_append, Place.classDecls_append]
    refine (hf.makes.trans hfs.makes).perm ?_
    rw [List.append_assoc, List.append_assoc]
    exact (List.perm_append_comm_assoc ..).append_left _
  · rw [hplaces]
    exact List.forall_mem_append.mpr ⟨fun p hp => (hf.holds p hp).mono hsub, hfs.holds⟩
  · rw [hheads]
    exact List.forall_mem_append.mpr
      ⟨fun e he => List.Subset.trans (hf.entities e he) hsub, hfs.entities⟩
  · refine List.forall_mem_cons.mpr ⟨?_, hfs.results⟩
    exact List.Subset.trans (hf.results f List.mem_cons_self) hsub

/-- A function that is a statement of its own. -/
theorem FunctionsBuilt.stmt {f : Checked.Function Checked.Stmt} (h : FunctionsBuilt seen σ [f] τ) :
    Builds σ (⟨seen, .function f⟩ :: (Checked.Stmt.function f).inner seen) τ := by
  have hinner : (Checked.Stmt.function f).inner seen = Checked.methodsPlaces seen [f] := by
    rw [Checked.Stmt.inner.eq_def, Checked.methodsPlaces, Checked.methodsPlaces, List.append_nil]
  obtain ⟨hmakes, hholds, hentities, hresults⟩ := h
  rw [List.flatMap_singleton] at hmakes hentities
  rw [hinner]
  refine ⟨hmakes, List.forall_mem_cons.mpr ⟨⟨fun _ he => (by cases he), ?_, ?_⟩, hholds⟩⟩
  · exact Checked.Stmt.classes_subset_iff.mpr
      ⟨hentities, List.forall_mem_singleton.mpr (hresults f List.mem_cons_self)⟩
  · exact fun e he => .inl (Option.some.inj he ▸ List.mem_cons_self)

theorem function_builds {decl : FnDecl Stmt} (hbody : ∀ x ∈ decl.body.body, x.BuildsPlaces)
    {owner : Option ClassRef} (henv : env.Lists seen σ.classes.refs) (hσ : σ.classes.Closed)
    {f : Checked.Function Checked.Stmt} {binding : String × Entity}
    (h : function owner env decl σ = .ok (f, binding) τ) :
    FunctionsBuilt seen σ [f] τ ∧ binding = f.entity.named := by
  obtain ⟨name, parameters, result, body, span⟩ := decl
  rw [function] at h
  obtain ⟨result, hresult, h⟩ := Lex.ofRule_bind_eq_ok_iff.mp h
  obtain ⟨tys, htys, h⟩ := Lex.ofRule_bind_eq_ok_iff.mp h
  rw [Lex.newEntity_bind, functionBody] at h
  obtain ⟨⟨frame, es⟩, ρ, hparams, h⟩ := Lex.bind_eq_ok_iff.mp h
  obtain ⟨_, υ, hmethod, h⟩ := Lex.bind_eq_ok_iff.mp h
  obtain ⟨binding, hbinding, h⟩ := Lex.ofRule_bind_eq_ok_iff.mp h
  obtain ⟨b, _, hb, h⟩ := Lex.bind_eq_ok_iff.mp h
  cases h
  obtain rfl := Frame.declare_eq_ok hbinding
  replace hresult := henv.convertResult hresult
  replace htys := henv.convertParams htys
  have hsig : (Signature.mk tys result).toTy.classes ⊆ σ.classes.refs :=
    Ty.classes_function_subset_iff.mpr ⟨htys, hresult⟩
  -- The function is made, then its parameters; that it is a method makes nothing.
  have hentity := Store.makes_fresh hσ (.function name ⟨tys, result⟩)
  obtain ⟨hmakes, hes, rfl⟩ := params_make hentity.closed htys hparams
  replace hmethod :=
    Lex.addMethod_makes hmethod hmakes.closed (List.Subset.trans hsig hmakes.subset)
  have hheads : σ.Makes (⟨σ.nextEntity, .function name ⟨tys, result⟩⟩ :: es) [] υ := by
    simpa using (hentity.trans hmakes).trans hmethod
  -- The body sees the parameters, the function, and what is seen outside.
  rw [Frame.extend_empty] at hb
  have houter := (henv.mono hheads.subset).extend [⟨σ.nextEntity, .function name ⟨tys, result⟩⟩]
    (List.forall_mem_singleton.mpr (List.Subset.trans hsig hheads.subset))
  have hinner := houter.push es.reverse
    (fun e he => List.Subset.trans (hes e (List.mem_reverse.mp he)) hheads.subset)
    (env.ambient.inFunction ⟨σ.nextEntity, .function name ⟨tys, result⟩⟩) houter.cls
  have hbuilt := block_builds hbody hinner hheads.closed hb
  have hsub := List.Subset.trans hheads.subset hbuilt.makes.subset
  refine ⟨⟨?_, ?_, ?_, ?_⟩, rfl⟩
  · simpa [Checked.methodsPlaces] using hheads.trans hbuilt.makes
  · simpa [Checked.methodsPlaces] using hbuilt.holds
  · rw [List.flatMap_singleton]
    exact List.forall_mem_cons.mpr
      ⟨List.Subset.trans hsig hsub, fun e he => List.Subset.trans (hes e he) hsub⟩
  · exact List.forall_mem_singleton.mpr (List.Subset.trans hresult hsub)

theorem methods_build {cls : ClassRef} {decls : List (FnDecl Stmt)}
    (hbodies : ∀ f ∈ decls, ∀ x ∈ f.body.body, x.BuildsPlaces)
    (henv : env.Lists seen σ.classes.refs) (hσ : σ.classes.Closed)
    {fs : List (Checked.Function Checked.Stmt)} (h : methods cls env decls σ = .ok fs τ) :
    FunctionsBuilt seen σ fs τ := by
  induction decls generalizing env seen σ fs with
  | nil =>
    rw [methods] at h
    cases h
    exact functionsBuilt_nil hσ
  | cons decl decls ih =>
    obtain ⟨hbody, hbodies⟩ := List.forall_mem_cons.mp hbodies
    rw [methods] at h
    obtain ⟨⟨f, binding⟩, ρ, hrun, h⟩ := Lex.bind_eq_ok_iff.mp h
    obtain ⟨rest, _, hrest, h⟩ := Lex.bind_eq_ok_iff.mp h
    cases h
    obtain ⟨hf, rfl⟩ := function_builds hbody henv hσ hrun
    have hentity : f.entity.classes ⊆ ρ.classes.refs :=
      hf.entities f.entity (List.mem_flatMap.mpr ⟨f, List.mem_cons_self, List.mem_cons_self⟩)
    have hnext := (henv.mono hf.makes.subset).extend [f.entity]
      (List.forall_mem_singleton.mpr hentity)
    exact hf.cons (ih hbodies hnext hf.makes.closed hrest)

/-! ### Classes -/

/-- The parameters of a constructor are made first, and then the body sees them. -/
theorem ctorBody_builds {body : Block Stmt} (hbody : ∀ x ∈ body.body, x.BuildsPlaces)
    (henv : env.Lists seen σ.classes.refs) (hσ : σ.classes.Closed) {ctor : Entity}
    {parameters : List Param} {tys : List Ty} (htys : ∀ ty ∈ tys, ty.classes ⊆ σ.classes.refs)
    {es : List Entity} {b : Block Checked.Stmt}
    (h : ctorBody env ctor parameters tys (fun inner => block inner body) σ = .ok (es, b) τ) :
    ∃ ρ, σ.Makes es [] ρ ∧ (∀ e ∈ es, e.classes ⊆ σ.classes.refs) ∧
      Builds ρ (Checked.blockPlaces (es.reverse ++ seen) b) τ := by
  rw [ctorBody] at h
  obtain ⟨⟨frame, es⟩, ρ, hparams, h⟩ := Lex.bind_eq_ok_iff.mp h
  obtain ⟨b, _, hb, h⟩ := Lex.bind_eq_ok_iff.mp h
  cases h
  obtain ⟨hmakes, hes, rfl⟩ := params_make hσ htys hparams
  rw [Frame.extend_empty] at hb
  have hinner := (henv.mono hmakes.subset).push es.reverse
    (fun e he => List.Subset.trans (hes e (List.mem_reverse.mp he)) hmakes.subset)
    (env.ambient.inFunction ctor) (List.Subset.trans henv.cls hmakes.subset)
  exact ⟨ρ, hmakes, hes, block_builds hbody hinner hmakes.closed hb⟩

/-- **The inside of a class was built**: the constructor with what lies in it, and then
the methods. -/
structure ClassBodyBuilt (seen : List Entity) (σ : Store) (ctor : Entity) (es : List Entity)
    (b : Block Checked.Stmt) (fs : List (Checked.Function Checked.Stmt)) (τ : Store) : Prop where
  /-- What was made, in order. -/
  makes : σ.Makes ((ctor :: es) ++ (Place.entities (Checked.blockPlaces (es.reverse ++ seen) b) ++
      ((fs.flatMap fun f => f.entity :: f.params) ++
        Place.entities (Checked.methodsPlaces seen fs))))
    (Place.classDecls (Checked.blockPlaces (es.reverse ++ seen) b) ++
      Place.classDecls (Checked.methodsPlaces seen fs)) τ
  /-- The places inside. -/
  holds : ∀ p ∈ Checked.blockPlaces (es.reverse ++ seen) b ++ Checked.methodsPlaces seen fs,
    p.Holds τ.classes.refs
  /-- The classes in the members and their parameters. -/
  entities : ∀ e ∈ (ctor :: es) ++ fs.flatMap fun f => f.entity :: f.params,
    e.classes ⊆ τ.classes.refs
  /-- The classes in the results of methods. -/
  results : ∀ f ∈ fs, f.result.classes ⊆ τ.classes.refs

theorem classBody_builds {body : Block Stmt} {decls : List (FnDecl Stmt)}
    (hbody : ∀ x ∈ body.body, x.BuildsPlaces)
    (hbodies : ∀ f ∈ decls, ∀ x ∈ f.body.body, x.BuildsPlaces)
    (henv : env.Lists seen σ.classes.refs) (hσ : σ.classes.Closed) {cls : ClassRef}
    (hcls : [cls] ⊆ σ.classes.refs) {name : String} {parameters : List Param} {ctor : Entity}
    {es : List Entity} {b : Block Checked.Stmt} {fs : List (Checked.Function Checked.Stmt)}
    (h : classBody env cls name parameters (fun inner => block inner body)
      (fun inside => methods cls inside decls) σ = .ok (ctor, es, b, fs) τ) :
    ClassBodyBuilt seen σ ctor es b fs τ := by
  rw [classBody] at h
  obtain ⟨tys, htys, h⟩ := Lex.ofRule_bind_eq_ok_iff.mp h
  rw [Lex.setCtor_bind, Lex.newEntity_bind] at h
  obtain ⟨⟨es, b⟩, υ, hctor, h⟩ := Lex.bind_eq_ok_iff.mp h
  obtain ⟨fs, _, hfs, h⟩ := Lex.bind_eq_ok_iff.mp h
  cases h
  have hin := henv.push_empty (env.ambient.inClass cls) hcls
  replace htys := hin.convertParams htys
  have hsig : (Signature.mk tys .none).toTy.classes ⊆ σ.classes.refs :=
    Ty.classes_function_subset_iff.mpr ⟨htys, List.nil_subset _⟩
  -- The constructor is made, then its parameters and what its body declares.
  have hset := Store.makes_setCtor hσ cls hsig
  have hentity := hset.entity (.function name ⟨tys, .none⟩)
  obtain ⟨ρ, hparams, hes, hb⟩ := ctorBody_builds hbody (hin.mono hentity.subset) hentity.closed
    (fun ty hty => List.Subset.trans (htys ty hty) hentity.subset) hctor
  have hheads := hentity.trans hparams
  -- The methods see what the constructor sees, but not its parameters.
  have hms := methods_build hbodies (hin.mono (hheads.trans hb.makes).subset) hb.makes.closed hfs
  have hinner := hb.makes.trans hms.makes
  refine ⟨hheads.trans hinner, ?_, ?_, hms.results⟩
  · exact List.forall_mem_append.mpr
      ⟨fun p hp => (hb.holds p hp).mono hms.makes.subset, hms.holds⟩
  · refine List.forall_mem_append.mpr ⟨List.forall_mem_cons.mpr ⟨?_, fun e he => ?_⟩, hms.entities⟩
    · exact List.Subset.trans hsig (hheads.trans hinner).subset
    · exact List.Subset.trans (hes e he) (hparams.trans hinner).subset

/-- The name of a class is made last, though it comes first in the declaration; and the
methods stand there together, though their bodies are checked in between. -/
theorem perm_of_class (entity : Entity) (ctor body methods inner : List Entity) :
    (ctor ++ (body ++ (methods ++ inner)) ++ [entity]).Perm
      ((entity :: (ctor ++ methods)) ++ (body ++ inner)) := by
  have hswap := (List.perm_append_comm_assoc body methods inner).append_left ctor
  have hlast := List.perm_append_singleton entity (ctor ++ (body ++ (methods ++ inner)))
  rw [List.cons_append, List.append_assoc ctor methods]
  exact hlast.trans (hswap.cons entity)

/-- **The check of a class builds its places.** -/
theorem classDecl_builds {decl : ClassDecl Stmt} (hbody : ∀ x ∈ decl.body.body, x.BuildsPlaces)
    (hbodies : ∀ f ∈ decl.methods, ∀ x ∈ f.body.body, x.BuildsPlaces)
    (henv : env.Lists seen σ.classes.refs) (hσ : σ.classes.Closed)
    {c : Checked.Class Checked.Stmt} {binding : String × Entity}
    (h : classDecl env decl σ = .ok (c, binding) τ) :
    Builds σ (⟨seen, .classDecl c⟩ :: (Checked.Stmt.classDecl c).inner seen) τ ∧
      binding = c.entity.named := by
  obtain ⟨name, parameters, body, ctorSpan, decls, span⟩ := decl
  rw [classDecl, Lex.newClass_bind] at h
  obtain ⟨⟨ctor, es, b, fs⟩, ρ, hinside, h⟩ := Lex.bind_eq_ok_iff.mp h
  dsimp only at h
  rw [Lex.newEntity_bind] at h
  obtain ⟨binding, hbinding, h⟩ := Lex.ofRule_bind_eq_ok_iff.mp h
  cases h
  obtain rfl := Frame.declare_eq_ok hbinding
  -- The class is made, then what is inside it, and last its name.
  have hmade := Store.makes_add hσ name
  have hnew : [(σ.classes.add name).2] ⊆ (σ.classes.add name).1.refs := by
    rw [ClassTable.refs_add]
    exact List.subset_append_right _ _
  have hbuilt := classBody_builds hbody hbodies (henv.mono hmade.subset) hmade.closed hnew hinside
  have hcls := List.Subset.trans hnew hbuilt.makes.subset
  have hinner : (Checked.Stmt.classDecl ⟨⟨ρ.nextEntity, .classType (σ.classes.add name).2⟩,
      (σ.classes.add name).2, ctor, es, b, ctorSpan, fs, span⟩).inner seen =
      Checked.blockPlaces (es.reverse ++ seen) b ++ Checked.methodsPlaces seen fs := by
    rw [Checked.Stmt.inner]
  rw [hinner]
  refine ⟨⟨?_, List.forall_mem_cons.mpr ⟨⟨fun _ he => (by cases he), ?_, ?_⟩, hbuilt.holds⟩⟩, rfl⟩
  · have hall := (hmade.trans hbuilt.makes).entity (.classType (σ.classes.add name).2)
    rw [List.nil_append, ← Place.classDecls_append] at hall
    have hordered := hall.perm (perm_of_class ..)
    rw [← Place.entities_append] at hordered
    exact hordered
  · refine Checked.Stmt.classes_subset_iff.mpr ⟨?_, ?_⟩
    · exact List.forall_mem_cons.mpr ⟨hcls, hbuilt.entities⟩
    · refine List.forall_mem_cons.mpr ⟨hcls, List.forall_mem_map.mpr hbuilt.results⟩
  · exact fun e he => .inr (Option.some.inj he ▸ rfl)

/-! ### Choices -/

theorem branches_build {choices : List (Branch Expr Stmt)}
    (hbodies : ∀ b ∈ choices, ∀ x ∈ b.body.body, x.BuildsPlaces)
    (henv : env.Lists seen σ.classes.refs) (hσ : σ.classes.Closed)
    {bs : List (Branch Checked.Expr Checked.Stmt)} (h : branches env choices σ = .ok bs τ) :
    Builds σ (Checked.branchPlaces seen bs) τ ∧
      ∀ b ∈ bs, b.test.Throughout (Checked.Expr.Refers seen τ.classes.refs) := by
  induction choices generalizing σ bs with
  | nil =>
    rw [branches] at h
    cases h
    rw [Checked.branchPlaces]
    exact ⟨.nil hσ, fun _ hb => by cases hb⟩
  | cons choice choices ih =>
    obtain ⟨test, body⟩ := choice
    obtain ⟨hbody, hbodies⟩ := List.forall_mem_cons.mp hbodies
    rw [branches] at h
    obtain ⟨test, htest, h⟩ := Lex.reading_bind_eq_ok_iff.mp h
    obtain ⟨_, -, h⟩ := Lex.ofRule_bind_eq_ok_iff.mp h
    obtain ⟨b, ρ, hb, h⟩ := Lex.bind_eq_ok_iff.mp h
    obtain ⟨rest, _, hrest, h⟩ := Lex.bind_eq_ok_iff.mp h
    cases h
    replace htest := expr_refers _ henv hσ htest
    replace hb := block_builds hbody (henv.push_empty env.ambient henv.cls) hσ hb
    obtain ⟨hrest, htests⟩ := ih hbodies (henv.mono hb.makes.subset) hb.makes.closed hrest
    rw [Checked.branchPlaces]
    refine ⟨hb.append hrest, List.forall_mem_cons.mpr ⟨?_, htests⟩⟩
    exact htest.mono fun _ hd => hd.mono (hb.append hrest).makes.subset

theorem alternate_builds {otherwise : Option (Block Stmt)}
    (hbody : ∀ b ∈ otherwise, ∀ x ∈ b.body, x.BuildsPlaces)
    (henv : env.Lists seen σ.classes.refs) (hσ : σ.classes.Closed)
    {b : Option (Block Checked.Stmt)} (h : alternate env otherwise σ = .ok b τ) :
    Builds σ (Checked.alternatePlaces seen b) τ := by
  cases otherwise with
  | none =>
    rw [alternate] at h
    cases h
    rw [Checked.alternatePlaces]
    exact .nil hσ
  | some body =>
    rw [alternate] at h
    obtain ⟨b, _, hb, h⟩ := Lex.bind_eq_ok_iff.mp h
    cases h
    rw [Checked.alternatePlaces]
    exact block_builds (hbody body rfl) (henv.push_empty env.ambient henv.cls) hσ hb

/-! ### Statements -/

/-- A place that declares nothing, by its expressions. -/
theorem holds_of_exprs {refs : List ClassRef} {x : Checked.Stmt}
    (hexprs : ∀ e ∈ x.exprs, e.Throughout (Checked.Expr.Refers seen refs))
    (hentities : x.entities = []) (htypes : x.types = []) : Place.Holds refs ⟨seen, x⟩ := by
  refine ⟨hexprs, ?_, fun e he => ?_⟩
  · refine Checked.Stmt.classes_subset_iff.mpr ⟨?_, ?_⟩
    · rw [hentities]
      exact fun _ he => nomatch he
    · rw [htypes]
      exact fun _ hty => nomatch hty
  · have hmem := Checked.Stmt.mem_entities_of_declared? he
    rw [hentities] at hmem
    cases hmem

/-- A statement that declares nothing and has nothing inside it, by its expressions. -/
theorem Builds.of_exprs (hσ : σ.classes.Closed) {x : Checked.Stmt}
    (hexprs : ∀ e ∈ x.exprs, e.Throughout (Checked.Expr.Refers seen σ.classes.refs))
    (hentities : x.entities = []) (htypes : x.types = []) (hclass : x.classRef? = none)
    (hinner : x.inner seen = []) : Builds σ (⟨seen, x⟩ :: x.inner seen) σ :=
  .leaf (hentities ▸ .refl hσ) hclass hinner (holds_of_exprs hexprs hentities htypes)

/-- A loop over a variable of its own, by its expressions and its body. -/
theorem Builds.of_loop {ρ : Store} {x : Checked.Stmt} {entity : Entity}
    (hmakes : σ.Makes [entity] [] ρ) (hentity : entity.classes ⊆ σ.classes.refs)
    (hbody : Builds ρ (x.inner seen) τ)
    (hexprs : ∀ e ∈ x.exprs, e.Throughout (Checked.Expr.Refers seen σ.classes.refs))
    (hentities : x.entities = [entity]) (htypes : x.types = []) (hclass : x.classRef? = none)
    (hdeclared : x.declared? = none) : Builds σ (⟨seen, x⟩ :: x.inner seen) τ := by
  have hsub := List.Subset.trans hmakes.subset hbody.makes.subset
  refine .stmt (by rw [hentities, hclass]; exact hmakes) hbody ⟨fun e he => ?_, ?_, ?_⟩
  · exact (hexprs e he).mono fun _ hd => hd.mono hsub
  · refine Checked.Stmt.classes_subset_iff.mpr ⟨?_, ?_⟩
    · rw [hentities]
      exact List.forall_mem_singleton.mpr (List.Subset.trans hentity hsub)
    · rw [htypes]
      exact fun _ hty => nomatch hty
  · rw [hdeclared]
    exact fun _ he => nomatch he

/-- **The check of every statement builds the places of its result.** -/
theorem stmt_builds (x : Stmt) : x.BuildsPlaces := by
  intro env seen σ τ y binding henv hσ h
  induction x generalizing env seen σ τ y binding with
  | var name typeExpr value span =>
    rw [stmt] at h
    obtain ⟨inner, hinner, h⟩ := Lex.ofRule_bind_eq_ok_iff.mp h
    replace hinner := henv.descend hinner
    obtain ⟨v, hv, h⟩ := Lex.reading_bind_eq_ok_iff.mp h
    obtain ⟨ty, hty, h⟩ := Lex.ofRule_bind_eq_ok_iff.mp h
    rw [Lex.newEntity_bind] at h
    obtain ⟨binding, hbinding, h⟩ := Lex.ofRule_bind_eq_ok_iff.mp h
    cases h
    obtain rfl := Frame.declare_eq_ok hbinding
    replace hv := expr_refers value hinner hσ hv
    replace hty := variableType_classes hinner hv.ty_classes hty
    refine ⟨.leaf (Store.makes_fresh hσ _) rfl (by rw [Checked.Stmt.inner]) ⟨?_, ?_, ?_⟩, rfl⟩
    · exact List.forall_mem_singleton.mpr hv
    · exact Checked.Stmt.classes_subset_iff.mpr
        ⟨List.forall_mem_singleton.mpr hty, List.forall_mem_singleton.mpr hty⟩
    · exact fun e he => .inl (Option.some.inj he ▸ List.mem_cons_self)
  | function decl ih =>
    rw [stmt] at h
    obtain ⟨inner, hinner, h⟩ := Lex.ofRule_bind_eq_ok_iff.mp h
    obtain ⟨⟨f, b⟩, _, hrun, h⟩ := Lex.bind_eq_ok_iff.mp h
    cases h
    obtain ⟨hf, rfl⟩ := function_builds ih (henv.descend hinner) hσ hrun
    exact ⟨hf.stmt, rfl⟩
  | classDecl decl ihb ihm =>
    rw [stmt] at h
    obtain ⟨inner, hinner, h⟩ := Lex.ofRule_bind_eq_ok_iff.mp h
    obtain ⟨⟨c, b⟩, _, hrun, h⟩ := Lex.bind_eq_ok_iff.mp h
    cases h
    obtain ⟨hc, rfl⟩ := classDecl_builds ihb ihm (henv.descend hinner) hσ hrun
    exact ⟨hc, rfl⟩
  | field typeExpr name value span =>
    rw [stmt] at h
    obtain ⟨inner, hinner, h⟩ := Lex.ofRule_bind_eq_ok_iff.mp h
    replace hinner := henv.descend hinner
    obtain ⟨cls, -, h⟩ := Lex.ofRule_bind_eq_ok_iff.mp h
    obtain ⟨v, hv, h⟩ := Lex.reading_bind_eq_ok_iff.mp h
    obtain ⟨ty, hty, h⟩ := Lex.ofRule_bind_eq_ok_iff.mp h
    obtain ⟨_, -, h⟩ := Lex.ofRule_bind_eq_ok_iff.mp h
    obtain ⟨_, ρ, hfield, h⟩ := Lex.bind_eq_ok_iff.mp h
    rw [Lex.newEntity_bind] at h
    obtain ⟨binding, hbinding, h⟩ := Lex.ofRule_bind_eq_ok_iff.mp h
    cases h
    obtain rfl := Frame.declare_eq_ok hbinding
    replace hv := expr_refers value hinner hσ hv
    replace hty := hinner.convert hty
    replace hfield := Lex.addField_makes hfield hσ hty
    have hsub := hfield.subset
    refine ⟨.leaf (hfield.entity _) rfl (by rw [Checked.Stmt.inner]) ⟨?_, ?_, ?_⟩, rfl⟩
    · exact List.forall_mem_singleton.mpr (hv.mono fun _ hd => hd.mono hsub)
    · replace hty := List.Subset.trans hty hsub
      exact Checked.Stmt.classes_subset_iff.mpr
        ⟨List.forall_mem_singleton.mpr hty, List.forall_mem_singleton.mpr hty⟩
    · exact fun e he => .inl (Option.some.inj he ▸ List.mem_cons_self)
  | assign target value span =>
    rw [stmt] at h
    obtain ⟨inner, hinner, h⟩ := Lex.ofRule_bind_eq_ok_iff.mp h
    replace hinner := henv.descend hinner
    obtain ⟨v, hv, h⟩ := Lex.reading_bind_eq_ok_iff.mp h
    obtain ⟨e, he, h⟩ := Lex.reading_bind_eq_ok_iff.mp h
    obtain ⟨_, -, h⟩ := Lex.ofRule_bind_eq_ok_iff.mp h
    cases h
    replace hv := expr_refers value hinner hσ hv
    replace he := expr_refers target hinner hσ he
    refine ⟨.of_exprs hσ ?_ rfl rfl rfl (by rw [Checked.Stmt.inner]), rfl⟩
    exact List.forall_mem_cons.mpr ⟨he, List.forall_mem_singleton.mpr hv⟩
  | print value span =>
    rw [stmt] at h
    obtain ⟨inner, hinner, h⟩ := Lex.ofRule_bind_eq_ok_iff.mp h
    obtain ⟨v, hv, h⟩ := Lex.reading_bind_eq_ok_iff.mp h
    cases h
    replace hv := expr_refers value (henv.descend hinner) hσ hv
    refine ⟨.of_exprs hσ ?_ rfl rfl rfl (by rw [Checked.Stmt.inner]), rfl⟩
    exact List.forall_mem_singleton.mpr hv
  | expr value span =>
    rw [stmt] at h
    obtain ⟨inner, hinner, h⟩ := Lex.ofRule_bind_eq_ok_iff.mp h
    obtain ⟨v, hv, h⟩ := Lex.reading_bind_eq_ok_iff.mp h
    cases h
    replace hv := expr_refers value (henv.descend hinner) hσ hv
    refine ⟨.of_exprs hσ ?_ rfl rfl rfl (by rw [Checked.Stmt.inner]), rfl⟩
    exact List.forall_mem_singleton.mpr hv
  | ifElse choices otherwise span ihb iha =>
    rw [stmt] at h
    obtain ⟨inner, hinner, h⟩ := Lex.ofRule_bind_eq_ok_iff.mp h
    replace hinner := henv.descend hinner
    obtain ⟨bs, ρ, hbs, h⟩ := Lex.bind_eq_ok_iff.mp h
    obtain ⟨b, _, hb, h⟩ := Lex.bind_eq_ok_iff.mp h
    cases h
    obtain ⟨hbs, htests⟩ := branches_build ihb hinner hσ hbs
    replace hb := alternate_builds iha (hinner.mono hbs.makes.subset) hbs.makes.closed hb
    refine ⟨.stmt (ρ := σ) (.refl hσ) ?_ (holds_of_exprs ?_ rfl rfl), rfl⟩
    · rw [Checked.Stmt.inner]
      exact hbs.append hb
    · refine List.forall_mem_map.mpr fun c hc => ?_
      exact (htests c hc).mono fun _ hd => hd.mono hb.makes.subset
  | whileLoop test body span ih =>
    rw [stmt] at h
    obtain ⟨inner, hinner, h⟩ := Lex.ofRule_bind_eq_ok_iff.mp h
    replace hinner := henv.descend hinner
    obtain ⟨e, he, h⟩ := Lex.reading_bind_eq_ok_iff.mp h
    obtain ⟨_, -, h⟩ := Lex.ofRule_bind_eq_ok_iff.mp h
    obtain ⟨b, _, hb, h⟩ := Lex.bind_eq_ok_iff.mp h
    cases h
    replace he := expr_refers test hinner hσ he
    replace hb := block_builds ih (hinner.push_empty inner.ambient.loop hinner.cls) hσ hb
    refine ⟨.stmt (ρ := σ) (.refl hσ) ?_ (holds_of_exprs ?_ rfl rfl), rfl⟩
    · rw [Checked.Stmt.inner]
      exact hb
    · exact List.forall_mem_singleton.mpr (he.mono fun _ hd => hd.mono hb.makes.subset)
  | forLoop name start stop body span ih =>
    rw [stmt] at h
    obtain ⟨inner, hinner, h⟩ := Lex.ofRule_bind_eq_ok_iff.mp h
    replace hinner := henv.descend hinner
    obtain ⟨e, he, h⟩ := Lex.reading_bind_eq_ok_iff.mp h
    obtain ⟨_, -, h⟩ := Lex.ofRule_bind_eq_ok_iff.mp h
    obtain ⟨d, hd, h⟩ := Lex.reading_bind_eq_ok_iff.mp h
    obtain ⟨_, -, h⟩ := Lex.ofRule_bind_eq_ok_iff.mp h
    obtain ⟨⟨entity, b⟩, _, hb, h⟩ := Lex.bind_eq_ok_iff.mp h
    cases h
    replace he := expr_refers start hinner hσ he
    replace hd := expr_refers stop hinner hσ hd
    obtain ⟨hmakes, hentity, hb⟩ := loopBody_builds ih hinner hσ (List.nil_subset _) hb
    refine ⟨.of_loop hmakes hentity ?_ ?_ rfl rfl rfl rfl, rfl⟩
    · rw [Checked.Stmt.inner]
      exact hb
    · exact List.forall_mem_cons.mpr ⟨he, List.forall_mem_singleton.mpr hd⟩
  | forEach name typeExpr iterable body span ih =>
    rw [stmt] at h
    obtain ⟨inner, hinner, h⟩ := Lex.ofRule_bind_eq_ok_iff.mp h
    replace hinner := henv.descend hinner
    obtain ⟨e, he, h⟩ := Lex.reading_bind_eq_ok_iff.mp h
    obtain ⟨ty, hty, h⟩ := Lex.ofRule_bind_eq_ok_iff.mp h
    obtain ⟨⟨entity, b⟩, _, hb, h⟩ := Lex.bind_eq_ok_iff.mp h
    cases h
    replace he := expr_refers iterable hinner hσ he
    replace hty := loopVariableType_classes hinner he.ty_classes hty
    obtain ⟨hmakes, hentity, hb⟩ := loopBody_builds ih hinner hσ hty hb
    refine ⟨.of_loop hmakes hentity ?_ ?_ rfl rfl rfl rfl, rfl⟩
    · rw [Checked.Stmt.inner]
      exact hb
    · exact List.forall_mem_singleton.mpr he
  | breakLoop span =>
    rw [stmt] at h
    obtain ⟨inner, -, h⟩ := Lex.ofRule_bind_eq_ok_iff.mp h
    obtain ⟨_, -, h⟩ := Lex.ofRule_bind_eq_ok_iff.mp h
    cases h
    refine ⟨.of_exprs hσ ?_ rfl rfl rfl (by rw [Checked.Stmt.inner]), rfl⟩
    exact fun _ he => by cases he
  | ret value span =>
    rw [stmt] at h
    obtain ⟨inner, hinner, h⟩ := Lex.ofRule_bind_eq_ok_iff.mp h
    obtain ⟨f, -, h⟩ := Lex.ofRule_bind_eq_ok_iff.mp h
    obtain ⟨v, hv, h⟩ := Lex.reading_bind_eq_ok_iff.mp h
    cases h
    replace hv := returned_refers (henv.descend hinner) hσ hv
    exact ⟨.of_exprs hσ hv rfl rfl rfl (by rw [Checked.Stmt.inner]), rfl⟩

end Lexical

end Shipshape
