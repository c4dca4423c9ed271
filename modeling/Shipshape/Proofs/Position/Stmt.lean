import Shipshape.Proofs.Position.Track

/-!
# Where the statements of a program stand

* `Shipshape.Stmt.Orderly` – a statement has what it needs around it, and no name is
  declared twice in the regions directly below it;
* `Shipshape.Stmt.InPlace` – so it is, and its checked form is of the same kind and in the
  same surroundings;
* `Shipshape.Lexical.stmt_tracked` – by induction over statements: a statement that is
  accepted is in place, with all that lies in it, and one that is refused has what the
  diagnostic complains about.

Both halves come from one induction. What was declared so far decides whether the next
declaration is accepted, and it is known only because what came before was accepted.
-/

namespace Shipshape

/-! ### Statements in place -/

/-- What a statement needs around it: a break a loop, a return a function, and a field a
class. -/
def Stmt.Permitted (path : Path) : Stmt → Prop
  | .breakLoop _ => path.inLoop = true
  | .ret _ _ => path.function? ≠ none
  | .field _ _ _ _ => path.cls? ≠ none
  | .var _ _ _ _ | .function _ | .classDecl _ | .assign _ _ _ | .print _ _ | .expr _ _
  | .ifElse _ _ _ | .whileLoop _ _ _ | .forLoop _ _ _ _ _ | .forEach _ _ _ _ _ => True

/-- No two methods and no two fields of a class share a name. -/
def Stmt.MembersDistinct : Stmt → Prop
  | .classDecl decl => (decl.methods.map FnDecl.name).Nodup ∧ decl.fieldNames.Nodup
  | .var _ _ _ _ | .function _ | .field _ _ _ _ | .assign _ _ _ | .print _ _ | .expr _ _
  | .ifElse _ _ _ | .whileLoop _ _ _ | .forLoop _ _ _ _ _ | .forEach _ _ _ _ _ | .breakLoop _
  | .ret _ _ => True

/-- The names that are declared in a block, with those that it begins with. -/
def Body.region (b : Body) : List String := b.names ++ declaredNames b.block.body

/-- **A statement is in order**: it has what it needs around it, and no name is declared
twice directly below it. -/
structure Stmt.Orderly (path : Path) (x : Stmt) : Prop where
  /-- What the statement needs. -/
  permitted : x.Permitted path
  /-- The blocks directly below it. -/
  regions : ∀ b ∈ x.bodies, b.region.Nodup
  /-- The members of a class. -/
  members : x.MembersDistinct

/-- **A statement is in place**: it is in order, and the checked statement is of the same
kind, in the same surroundings. -/
structure Stmt.InPlace (path : Path) (x : Stmt) (a : Ambient) (y : Checked.Stmt) : Prop where
  /-- The statement. -/
  orderly : x.Orderly path
  /-- The surroundings. -/
  around : path.Matches a
  /-- The checked statement. -/
  alike : x.Alike y
  /-- Each self in the statement belongs to the class at hand. -/
  rooted : List.Forall₂ (Expr.Rooted a) x.exprs y.exprs

namespace Lexical

variable {p : Program} {env : Env} {σ : Store} {path : Path} {names fields : List String}

/-- **What is known about a statement that was accepted**, with the classes before and
after. -/
structure Accepts (a : Ambient) (path : Path) (names fields : List String) (x : Stmt)
    (c : ClassTable) (r : Checked.Stmt × Option (String × Entity)) (d : ClassTable) : Prop where
  /-- The statement is in place, with all that lies in it. -/
  twin : Stmt.Twin Stmt.InPlace path x a r.1
  /-- What it binds is what it declares. -/
  binding : r.2.map Prod.fst = x.declared?
  /-- The name is right. -/
  spelled : ∀ b ∈ r.2, b.2.Spelled b.1
  /-- The name was free. -/
  free : ∀ n ∈ x.declared?, n ∉ names
  /-- The class at hand gained the fields in it. -/
  gained : c.Gained a.cls (x.fieldDecls.map Prod.fst) [] d
  /-- So it has these after the ones before. -/
  lists : d.Lists a.cls (fields ++ x.fieldDecls.map Prod.fst)

/-- **What is known about statements in a row** that were accepted. -/
structure AcceptsRow (a : Ambient) (path : Path) (names fields : List String) (xs : List Stmt)
    (c : ClassTable) (ys : List Checked.Stmt) (d : ClassTable) : Prop where
  /-- They are in place, with all that lies in them. -/
  twins : Stmt.TwinRow Stmt.InPlace path a xs ys
  /-- No name was declared twice in the region. -/
  nodup : (names ++ declaredNames xs).Nodup
  /-- The class at hand gained the fields in them. -/
  gained : c.Gained a.cls ((stmtsFieldDecls xs).map Prod.fst) [] d
  /-- So it has these after the ones before. -/
  lists : d.Lists a.cls (fields ++ (stmtsFieldDecls xs).map Prod.fst)

/-- The check of a statement of a program comes out as it should, wherever the statement
stands. -/
def Tracked (p : Program) (x : Stmt) : Prop :=
  ∀ {env : Env} {σ : Store} {path : Path} {names fields : List String}, env.Tracks path names →
    σ.classes.Lists env.ambient.cls fields → p.Awaits path names fields [x] →
    Ends (stmt env x) σ (fun r d => Accepts env.ambient path names fields x σ.classes r d)
      p.Explains

/-! ### Blocks -/

/-- What is seen after a statement that was accepted. -/
theorem Accepts.next {a : Ambient} {x : Stmt} {c d : ClassTable}
    {r : Checked.Stmt × Option (String × Entity)} (hr : Accepts a path names fields x c r d)
    (h : env.Tracks path names) :
    (env.extend r.2.toList).Tracks path (names ++ x.declared?.toList) := by
  obtain ⟨y, binding⟩ := r
  have hbinding := hr.binding
  cases binding with
  | none =>
    rw [← show none = x.declared? from hbinding, Option.toList_none, Option.toList_none,
      List.append_nil]
    exact h
  | some b =>
    have hx : x.declared? = some b.1 := hbinding.symm
    rw [hx]
    exact h.extend (hr.free b.1 hx) (hr.spelled b rfl)

theorem stmts_ends {xs : List Stmt} (hxs : ∀ x ∈ xs, Tracked p x) (h : env.Tracks path names)
    (hl : σ.classes.Lists env.ambient.cls fields) (hp : p.Awaits path names fields xs) :
    Ends (stmts env xs) σ
      (fun ys d => AcceptsRow env.ambient path names fields xs σ.classes ys d) p.Explains := by
  induction xs generalizing env σ names fields with
  | nil =>
    rw [stmts]
    refine .pure ⟨.nil, ?_, .refl .., ?_⟩
    · rw [show declaredNames [] = [] from rfl, List.append_nil]
      exact h.frame.nodup
    · rw [stmtsFieldDecls, List.map_nil, List.append_nil]
      exact hl
  | cons x xs ih =>
    obtain ⟨hx, hxs⟩ := List.forall_mem_cons.mp hxs
    rw [stmts]
    refine .bind (hx h hl hp.head) fun r τ hr => ?_
    refine .bind (ih hxs (hr.next h) hr.lists hp.tail) fun ys υ hys => .pure ?_
    have hfields : (stmtsFieldDecls (x :: xs)).map Prod.fst =
        x.fieldDecls.map Prod.fst ++ (stmtsFieldDecls xs).map Prod.fst := by
      rw [stmtsFieldDecls, List.map_append]
    refine ⟨.cons hr.twin hys.twins, ?_, ?_, ?_⟩
    · rw [declaredNames_cons, ← List.append_assoc]
      exact hys.nodup
    · rw [hfields]
      exact hr.gained.trans hys.gained
    · rw [hfields, ← List.append_assoc]
      exact hys.lists

theorem block_ends {body : Block Stmt} (hbody : ∀ x ∈ body.body, Tracked p x)
    (h : env.Tracks path names) (hl : σ.classes.Lists env.ambient.cls fields)
    (hp : p.Awaits path names fields body.body) :
    Ends (block env body) σ
      (fun b d => AcceptsRow env.ambient path names fields body.body σ.classes b.body d)
      p.Explains := by
  obtain ⟨xs, span⟩ := body
  rw [block]
  exact .bind (stmts_ends hbody h hl hp) fun ys τ hys => .pure hys

/-- **What is known about blocks below a statement** that were accepted, one after the other,
where `more` are the fields in them. -/
structure AcceptsBodies (a : Ambient) (path : Path) (fields : List String) (bodies : List Body)
    (more : List String) (c : ClassTable) (blocks : List (Ambient × Block Checked.Stmt))
    (d : ClassTable) : Prop where
  /-- They are in place. -/
  twins : List.Forall₂ (Body.Twin Stmt.InPlace path) bodies blocks
  /-- No name was declared twice in one of them. -/
  regions : ∀ b ∈ bodies, b.region.Nodup
  /-- The class at hand gained the fields in them. -/
  gained : c.Gained a.cls more [] d
  /-- So it has these after the ones before. -/
  lists : d.Lists a.cls (fields ++ more)

namespace AcceptsBodies

variable {a a' : Ambient} {c d e : ClassTable} {bodies bodies' : List Body}
  {more more' : List String} {blocks blocks' : List (Ambient × Block Checked.Stmt)}

theorem nil (hl : c.Lists a.cls fields) : AcceptsBodies a path fields [] [] c [] c := by
  refine ⟨.nil, fun _ hb => (nomatch hb), .refl .., ?_⟩
  rwa [List.append_nil]

theorem append (h : AcceptsBodies a path fields bodies more c blocks d)
    (h' : AcceptsBodies a path (fields ++ more) bodies' more' d blocks' e) :
    AcceptsBodies a path fields (bodies ++ bodies') (more ++ more') c (blocks ++ blocks') e := by
  refine ⟨List.rel_append h.twins h'.twins, ?_, h.gained.trans h'.gained, ?_⟩
  · exact List.forall_mem_append.mpr ⟨h.regions, h'.regions⟩
  · rw [← List.append_assoc]
    exact h'.lists

/-- One block. -/
theorem of_row {b : Body} {ys : Block Checked.Stmt} (ha : a'.cls = a.cls)
    (h : AcceptsRow a' (b.around ++ path) b.names fields b.block.body c ys.body d) :
    AcceptsBodies a path fields [b] ((blockFieldDecls b.block).map Prod.fst) c [(a', ys)] d := by
  rw [blockFieldDecls_eq]
  refine ⟨.cons h.twins .nil, List.forall_mem_singleton.mpr h.nodup, ?_, ?_⟩
  · rw [← ha]
    exact h.gained
  · rw [← ha]
    exact h.lists

variable {x : Stmt} {y : Checked.Stmt}

/-- A statement is in place if its blocks are. -/
theorem twin (h : AcceptsBodies a path fields x.bodies more c (y.blocks a) d)
    (hpath : path.Matches a) (hpermitted : x.Permitted path) (hmembers : x.MembersDistinct)
    (halike : x.Alike y) (hrooted : List.Forall₂ (Expr.Rooted a) x.exprs y.exprs) :
    Stmt.Twin Stmt.InPlace path x a y :=
  .of_bodies ⟨⟨hpermitted, h.regions, hmembers⟩, hpath, halike, hrooted⟩ h.twins

/-- A statement that declares nothing itself is accepted with its blocks. -/
theorem accepts (h : AcceptsBodies a path fields x.bodies (x.fieldDecls.map Prod.fst) c
    (y.blocks a) d) (htwin : Stmt.Twin Stmt.InPlace path x a y) (hx : x.declared? = none) :
    Accepts a path names fields x c (y, none) d := by
  refine ⟨htwin, hx.symm, fun _ hb => (nomatch hb), fun n hn => ?_, h.gained, h.lists⟩
  rw [hx] at hn
  cases hn

/-- A statement that declares a name is accepted with its blocks, if the name was free. -/
theorem declares (h : AcceptsBodies a path fields x.bodies (x.fieldDecls.map Prod.fst) c
    (y.blocks a) d) (htwin : Stmt.Twin Stmt.InPlace path x a y) {name : String} {entity : Entity}
    (hx : x.declared? = some name) (hentity : entity.Spelled name) (hfree : name ∉ names) :
    Accepts a path names fields x c (y, some (name, entity)) d := by
  refine ⟨htwin, hx.symm, fun b hb => ?_, fun n hn => ?_, h.gained, h.lists⟩
  · exact Option.some.inj hb ▸ hentity
  · rw [hx] at hn
    exact Option.some.inj hn ▸ hfree

end AcceptsBodies

/-- The body of a loop begins with the variable of the loop. -/
theorem loopBody_ends {body : Block Stmt} (hbody : ∀ x ∈ body.body, Tracked p x)
    (h : env.Tracks path names) (hl : σ.classes.Lists env.ambient.cls fields) (name : String)
    (ty : Ty) (hp : p.Awaits (.loop :: path) [name] fields body.body) :
    Ends (loopBody env name ty fun inner => block inner body) σ
      (fun r d => r.1.name = name ∧ AcceptsBodies env.ambient path fields [⟨[.loop], [name], body⟩]
        ((blockFieldDecls body).map Prod.fst) σ.classes [(env.ambient.loop, r.2)] d)
      p.Explains := by
  rw [loopBody]
  refine .newEntity fun entity τ hentity hτ => ?_
  have hvalue : entity.denotedType? = none := by rw [Entity.denotedType?, hentity]
  have hname : entity.name = name := by rw [Entity.name, hentity]
  have hframe : Frame.Tracks ⟨[(name, entity)], env.ambient.loop⟩ [name] := by
    refine ⟨fun _ => Iff.rfl, List.nodup_singleton _, ?_⟩
    exact List.forall_mem_singleton.mpr (.of_value hvalue)
  rw [← hτ] at hl ⊢
  refine .bind (block_ends hbody (h.push h.around.loop hframe) hl hp) fun b υ hb => ?_
  exact .pure ⟨hname, .of_row rfl hb⟩

/-! ### Functions and methods -/

/-- **What is known about a function that was accepted**, or about a method of the class
`owner`. -/
structure AcceptsFunction (owner : Option ClassRef) (a : Ambient) (path : Path)
    (names fields : List String) (decl : FnDecl Stmt) (c : ClassTable)
    (r : Checked.Function Checked.Stmt × (String × Entity)) (d : ClassTable) : Prop where
  /-- The name is bound to the function. -/
  binding : r.2 = (decl.name, r.1.entity)
  /-- The function has that name. -/
  name : r.1.entity.name = decl.name
  /-- The function is no type. -/
  value : r.1.entity.denotedType? = none
  /-- Where it stands. -/
  span : r.1.span = decl.span
  /-- The name was free. -/
  free : decl.name ∉ names
  /-- The body is in place. -/
  twin : (decl.toBody []).Twin Stmt.InPlace path (a.inFunction r.1.entity, r.1.body)
  /-- No name was declared twice in the body. -/
  nodup : (decl.toBody []).region.Nodup
  /-- The class at hand gained the fields in the body, and the method if this is one. -/
  gained : c.Gained a.cls ((blockFieldDecls decl.body).map Prod.fst)
    (owner.toList.map fun _ => decl.name) d
  /-- So it has these after the ones before. -/
  lists : d.Lists a.cls (fields ++ (blockFieldDecls decl.body).map Prod.fst)

theorem function_ends {decl : FnDecl Stmt} (hbody : ∀ x ∈ decl.body.body, Tracked p x)
    (h : env.Tracks path names) (hl : σ.classes.Lists env.ambient.cls fields)
    {owner : Option ClassRef} (howner : ∀ r ∈ owner, env.ambient.cls = some r)
    (hmethods : ∀ r ∈ owner, ∀ n ∈ (σ.classes.info r).methodTypes.map Prod.fst, n ∈ names)
    (hname : p.Covers (names ++ [decl.name]))
    (hp : p.Awaits (.function decl :: path) (paramNames decl.params) fields decl.body.body) :
    Ends (function owner env decl) σ
      (fun r d => AcceptsFunction owner env.ambient path names fields decl σ.classes r d)
      p.Explains := by
  have hreturns {ty : Ty} : env.convertResult decl.result = .ok ty →
      (Construct.function decl).Returns ty := h.convertResult_returns decl
  have haround {f : Entity} := h.around.inFunction decl (f := f)
  obtain ⟨name, parameters, result, body, span⟩ := decl
  rw [function]
  refine .rule (convertResult_typing env result) fun ty hty => ?_
  refine .rule (convertParams_typing env parameters) fun tys htys => ?_
  refine .newEntity fun entity τ hentity hτ => ?_
  have hlen : tys.length = parameters.length := by simpa using length_convertList htys
  have hvalue : entity.denotedType? = none := by rw [Entity.denotedType?, hentity]
  have hentityName : entity.name = name := by rw [Entity.name, hentity]
  have hresult : entity.resultType = ty := by rw [Entity.resultType, hentity]
  rw [functionBody]
  -- The parameters come first, in a frame of their own.
  have hparams : p.Covers ([] ++ paramNames parameters) :=
    hp.names.sublist (List.sublist_append_left _ _)
  refine .bind (params_ends hlen (.empty _) hparams) fun r υ hr => ?_
  obtain ⟨frame, entities⟩ := r
  obtain ⟨hυ, hambient, hframe⟩ := hr
  replace hυ : υ.classes = σ.classes := hυ.trans hτ
  -- Then the name, which goes to the class if this is a method, and to the frame outside.
  rw [← hυ] at hl hmethods ⊢
  refine .addMethod howner hmethods hname fun ρ hmethod => ?_
  refine .ofRule (h.frame.declare_verdict entity span hname) fun b hb => ?_
  obtain ⟨rfl, hfree⟩ := hb
  have houter := h.extend (b := (name, entity)) hfree (.of_value hvalue)
  have hmatches := haround (hresult.symm ▸ hreturns hty)
  rw [← show frame.ambient = env.ambient.inFunction entity from hambient] at hmatches
  have hinner := houter.push hmatches hframe
  have hl' : ρ.classes.Lists env.ambient.cls fields := by
    have hnone := hl.gained hmethod fun hcls => ?_
    · rwa [List.append_nil] at hnone
    · obtain ⟨cls, hcls⟩ := Option.ne_none_iff_exists'.mp hcls
      rw [List.append_nil]
      exact (hl cls hcls).2.2
  have hambient' : ((env.extend [(name, entity)]).push frame).ambient =
      env.ambient.inFunction entity := hambient
  refine .bind (block_ends hbody hinner (hambient' ▸ hl') hp) fun b ξ hrow => .pure ?_
  rw [hambient', List.nil_append] at hrow
  have hgained := hmethod.trans hrow.gained
  rw [List.nil_append, List.append_nil] at hgained
  refine ⟨rfl, hentityName, hvalue, rfl, hfree, hrow.twins, hrow.nodup, ?_, ?_⟩
  · rw [blockFieldDecls_eq]
    exact hgained
  · rw [blockFieldDecls_eq]
    exact hrow.lists

/-- The names of the fields that methods declare. -/
def methodFieldNames (decls : List (FnDecl Stmt)) : List String :=
  (decls.flatMap fun m => blockFieldDecls m.body).map Prod.fst

theorem methodFieldNames_cons (decl : FnDecl Stmt) (decls : List (FnDecl Stmt)) :
    methodFieldNames (decl :: decls) =
      (blockFieldDecls decl.body).map Prod.fst ++ methodFieldNames decls := by
  rw [methodFieldNames, List.flatMap_cons, List.map_append, methodFieldNames]

/-- **What is known about methods that were accepted**, one after the other. -/
structure AcceptsMethods (a : Ambient) (path : Path) (names fields : List String)
    (decls : List (FnDecl Stmt)) (c : ClassTable) (fs : List (Checked.Function Checked.Stmt))
    (d : ClassTable) : Prop where
  /-- The bodies are in place. -/
  twins : List.Forall₂ (fun decl f =>
    (decl.toBody []).Twin Stmt.InPlace path (a.inFunction f.entity, f.body)) decls fs
  /-- No name was declared twice in a body. -/
  regions : ∀ decl ∈ decls, (decl.toBody []).region.Nodup
  /-- No two methods share a name. -/
  nodup : (names ++ decls.map FnDecl.name).Nodup
  /-- The class gained the methods and the fields in them. -/
  gained : c.Gained a.cls (methodFieldNames decls) (decls.map FnDecl.name) d
  /-- So it has these fields after the ones before. -/
  lists : d.Lists a.cls (fields ++ methodFieldNames decls)

theorem methods_ends {cls : ClassRef} {decls : List (FnDecl Stmt)}
    (hbodies : ∀ m ∈ decls, ∀ x ∈ m.body.body, Tracked p x) (h : env.Tracks path names)
    (hl : σ.classes.Lists env.ambient.cls fields) (hcls : env.ambient.cls = some cls)
    (hmethods : ∀ n ∈ (σ.classes.info cls).methodTypes.map Prod.fst, n ∈ names)
    (hnames : p.Covers (names ++ decls.map FnDecl.name))
    (hfields : p.Covers (fields ++ methodFieldNames decls))
    (hp : ∀ m ∈ decls, ∀ before, p.Covers (before ++ (blockFieldDecls m.body).map Prod.fst) →
      p.Awaits (.function m :: path) (paramNames m.params) before m.body.body) :
    Ends (methods cls env decls) σ
      (fun fs d => AcceptsMethods env.ambient path names fields decls σ.classes fs d)
      p.Explains := by
  induction decls generalizing env σ names fields with
  | nil =>
    rw [methods]
    refine .pure ⟨.nil, fun _ hm => (nomatch hm), ?_, .refl .., ?_⟩
    · rw [List.map_nil, List.append_nil]
      exact h.frame.nodup
    · rw [show methodFieldNames [] = [] from rfl, List.append_nil]
      exact hl
  | cons decl decls ih =>
    obtain ⟨hbody, hbodies⟩ := List.forall_mem_cons.mp hbodies
    obtain ⟨hpd, hp⟩ := List.forall_mem_cons.mp hp
    have hcons : names ++ (decl :: decls).map FnDecl.name =
        (names ++ [decl.name]) ++ decls.map FnDecl.name := by simp
    rw [hcons] at hnames
    rw [methodFieldNames_cons, ← List.append_assoc] at hfields
    rw [methods]
    have howner : ∀ r ∈ some cls, env.ambient.cls = some r := fun r hr => hcls.trans hr
    have hfunction := function_ends hbody h hl howner
      (fun r hr => Option.some.inj hr ▸ hmethods)
      (hnames.sublist (List.sublist_append_left _ _))
      (hpd fields (hfields.sublist (List.sublist_append_left _ _)))
    refine .bind hfunction fun r τ hr => ?_
    obtain ⟨f, b⟩ := r
    obtain rfl : b = (decl.name, f.entity) := hr.binding
    -- The next method finds the name of this one both in the frame and in the class.
    have hnext := h.extend (b := (decl.name, f.entity)) hr.free (.of_value hr.value)
    have hmethods' :
        ∀ n ∈ (τ.classes.info cls).methodTypes.map Prod.fst, n ∈ names ++ [decl.name] := by
      have hgained := hr.gained
      rw [hcls] at hgained hl
      rw [hgained.methods_eq (hl cls rfl).1]
      intro n hn
      rcases List.mem_append.mp hn with hn | hn
      · exact List.mem_append_left _ (hmethods n hn)
      · exact List.mem_append_right _ hn
    refine .bind (ih hbodies hnext hr.lists hcls hmethods' hnames hfields hp) fun fs υ hfs => ?_
    refine .pure ⟨.cons hr.twin hfs.twins, ?_, ?_, ?_, ?_⟩
    · exact List.forall_mem_cons.mpr ⟨hr.nodup, hfs.regions⟩
    · rw [hcons]
      exact hfs.nodup
    · rw [methodFieldNames_cons]
      exact hr.gained.trans hfs.gained
    · rw [methodFieldNames_cons, ← List.append_assoc]
      exact hfs.lists

/-! ### Classes -/

/-- The body of a constructor begins with its parameters. -/
theorem ctorBody_ends {body : Block Stmt} (hbody : ∀ x ∈ body.body, Tracked p x)
    (h : env.Tracks path names) (hl : σ.classes.Lists env.ambient.cls fields) {ctor : Entity}
    (hctor : ctor.resultType = .none) {parameters : List Param} {tys : List Ty}
    (hlen : tys.length = parameters.length) (decl : ClassDecl Stmt)
    (hp : p.Awaits (.ctor decl :: path) (paramNames parameters) fields body.body) :
    Ends (ctorBody env ctor parameters tys fun inner => block inner body) σ
      (fun r d => AcceptsRow (env.ambient.inFunction ctor) (.ctor decl :: path)
        (paramNames parameters) fields body.body σ.classes r.2.body d) p.Explains := by
  rw [ctorBody]
  have hparams : p.Covers ([] ++ paramNames parameters) :=
    hp.names.sublist (List.sublist_append_left _ _)
  refine .bind (params_ends hlen (.empty _) hparams) fun r τ hr => ?_
  obtain ⟨frame, entities⟩ := r
  obtain ⟨hτ, hambient, hframe⟩ := hr
  have hambient' : (env.push frame).ambient = env.ambient.inFunction ctor := hambient
  have hmatches := h.around.inCtor decl hctor
  rw [← show frame.ambient = env.ambient.inFunction ctor from hambient] at hmatches
  have hinner := h.push hmatches hframe
  rw [← show τ.classes = σ.classes from hτ] at hl ⊢
  refine .bind (block_ends hbody hinner (hambient' ▸ hl) hp) fun b υ hrow => .pure ?_
  rw [hambient', List.nil_append] at hrow
  exact hrow

/-- **What is known about the inside of a class that was accepted**, with the classes before
this one was made and after. -/
structure AcceptsClassBody (a : Ambient) (path : Path) (decl : ClassDecl Stmt) (cls : ClassRef)
    (c : ClassTable)
    (r : Entity × List Entity × Block Checked.Stmt × List (Checked.Function Checked.Stmt))
    (d : ClassTable) : Prop where
  /-- The bodies are in place. -/
  twins : List.Forall₂ (Body.Twin Stmt.InPlace path) (Stmt.classDecl decl).bodies
    (((a.inClass cls).inFunction r.1, r.2.2.1) ::
      r.2.2.2.map fun m => ((a.inClass cls).inFunction m.entity, m.body))
  /-- No name was declared twice in a body. -/
  regions : ∀ b ∈ (Stmt.classDecl decl).bodies, b.region.Nodup
  /-- No two members share a name. -/
  members : (Stmt.classDecl decl).MembersDistinct
  /-- No class that was there has changed. -/
  gained : c.Gained a.cls [] [] d

theorem classBody_ends {decl : ClassDecl Stmt} (hbody : ∀ x ∈ decl.body.body, Tracked p x)
    (hbodies : ∀ m ∈ decl.methods, ∀ x ∈ m.body.body, Tracked p x) (h : env.Tracks path names)
    (hx : p.HasStmt path (.classDecl decl)) {c : ClassTable} {τ : Store}
    (hτ : τ.classes = (c.add decl.name).1) :
    Ends (classBody env (c.add decl.name).2 decl.name decl.params
      (fun inner => block inner decl.body)
      fun inside => methods (c.add decl.name).2 inside decl.methods) τ
      (fun r d => AcceptsClassBody env.ambient path decl (c.add decl.name).2 c r d)
      p.Explains := by
  have hfieldNames : p.Covers ((blockFieldDecls decl.body).map Prod.fst ++
      methodFieldNames decl.methods) := by
    intro n hn
    refine .fields hx ?_
    rwa [ClassDecl.fieldNames, List.map_append]
  have hinside : (env.push (.empty (env.ambient.inClass (c.add decl.name).2))).Tracks
      (.cls decl :: path) [] :=
    h.push (h.around.inClass decl rfl) (.empty _)
  rw [classBody]
  refine .rule (convertParams_typing _ decl.params) fun tys htys => ?_
  have hlen : tys.length = decl.params.length := by simpa using length_convertList htys
  -- From here on the class is there, with its constructor and no members.
  refine .setCtor fun υ henter => .newEntity fun ctor υ hctor hυ => ?_
  rw [henter, hτ, ClassTable.setCtor_add] at hυ
  have hlists : υ.classes.Lists (some (c.add decl.name).2) [] := by
    rintro r ⟨⟩
    rw [hυ]
    refine ⟨?_, ?_, List.nodup_nil⟩
    · rw [ClassTable.size_enter]
      exact Nat.lt_succ_self _
    · rw [show (c.add decl.name).2 = ⟨c.size, decl.name⟩ from rfl, ClassTable.info_enter]
      rfl
  have hresult : ctor.resultType = .none := by rw [Entity.resultType, hctor]
  have hctorBody : (⟨[.ctor decl, .cls decl], paramNames decl.params, decl.body⟩ : Body) ∈
      (Stmt.classDecl decl).bodies := List.mem_cons_self
  have hctorFields := hfieldNames.sublist (List.sublist_append_left _ _)
  refine .bind (ctorBody_ends hbody hinside hlists hresult hlen decl
    (hx.awaits hctorBody fun _ => hctorFields)) fun r ρ hrow => ?_
  obtain ⟨entities, b⟩ := r
  -- The constructor added fields, and no method.
  have hmethods : ∀ n ∈ (ρ.classes.info (c.add decl.name).2).methodTypes.map Prod.fst,
      n ∈ ([] : List String) := by
    have hgained : υ.classes.Gained (some (c.add decl.name).2) _ _ ρ.classes := hrow.gained
    rw [hgained.methods_eq (hlists _ rfl).1, hυ,
      show (c.add decl.name).2 = ⟨c.size, decl.name⟩ from rfl, ClassTable.info_enter]
    exact fun _ hn => nomatch hn
  have hawaits : ∀ m ∈ decl.methods, ∀ before,
      p.Covers (before ++ (blockFieldDecls m.body).map Prod.fst) →
      p.Awaits (.function m :: .cls decl :: path) (paramNames m.params) before m.body.body := by
    intro m hm before hcovers
    have hmem : m.toBody [.cls decl] ∈ (Stmt.classDecl decl).bodies :=
      List.mem_cons_of_mem _ (List.mem_map_of_mem hm)
    exact hx.awaits hmem fun _ => hcovers
  rw [blockFieldDecls_eq] at hfieldNames
  refine .bind (methods_ends hbodies hinside hrow.lists rfl hmethods
    (Program.HasRegion.methods hx).covers hfieldNames hawaits) fun fs ξ hfs => .pure ?_
  have hnew : c.Gained env.ambient.cls [] [] υ.classes := by
    rw [hυ]
    exact ⟨[], [], rfl, rfl, ClassTable.gains_enter c env.ambient.cls _ _⟩
  refine ⟨.cons hrow.twins ?_, List.forall_mem_cons.mpr ⟨hrow.nodup, ?_⟩, ⟨hfs.nodup, ?_⟩, ?_⟩
  · exact List.forall₂_map_left_iff.mpr (List.forall₂_map_right_iff.mpr hfs.twins)
  · exact List.forall_mem_map.mpr hfs.regions
  · have hnodup := (hfs.lists _ rfl).2.2
    rwa [ClassDecl.fieldNames, List.map_append, blockFieldDecls_eq]
  · exact hnew.elsewhere (Nat.le_refl c.size) (hrow.gained.trans hfs.gained)

theorem classDecl_ends {decl : ClassDecl Stmt} (hbody : ∀ x ∈ decl.body.body, Tracked p x)
    (hbodies : ∀ m ∈ decl.methods, ∀ x ∈ m.body.body, Tracked p x) (h : env.Tracks path names)
    (hl : σ.classes.Lists env.ambient.cls fields)
    (hp : p.Awaits path names fields [.classDecl decl]) :
    Ends (classDecl env decl) σ (fun r d => Accepts env.ambient path names fields (.classDecl decl)
      σ.classes (.classDecl r.1, some r.2) d) p.Explains := by
  have hname : p.Covers (names ++ [decl.name]) := hp.covers_declared rfl
  obtain ⟨name, parameters, body, ctorSpan, decls, span⟩ := decl
  rw [classDecl]
  refine .newClass fun τ hτ => ?_
  refine .bind (classBody_ends hbody hbodies h hp.hasStmt hτ) fun r υ hr => ?_
  obtain ⟨ctor, entities, b, fs⟩ := r
  refine .newEntity fun entity ρ hentity hρ => ?_
  refine .ofRule (h.frame.declare_verdict entity span hname) fun b hb => .pure ?_
  obtain ⟨rfl, hfree⟩ := hb
  rw [hρ]
  have horderly : (Stmt.classDecl _).Orderly path := ⟨trivial, hr.regions, hr.members⟩
  have hlists := hl.gained hr.gained fun hcls => by
    obtain ⟨cls, hcls⟩ := Option.ne_none_iff_exists'.mp hcls
    rw [List.append_nil]
    exact (hl cls hcls).2.2
  refine ⟨.of_bodies ?_ hr.twins, rfl, ?_, ?_, hr.gained, hlists⟩
  · exact ⟨horderly, h.around, ⟨rfl, rfl⟩, .nil⟩
  · rintro b ⟨⟩
    exact Entity.spelled_classType hentity
  · rintro n ⟨⟩
    exact hfree

/-! ### Choices -/

/-- A branch, or the alternate of a choice. -/
def branchBody (body : Block Stmt) : Body := ⟨[.branch], [], body⟩

theorem branchBody_ends {body : Block Stmt} (hbody : ∀ x ∈ body.body, Tracked p x)
    (h : env.Tracks path names) (hl : σ.classes.Lists env.ambient.cls fields)
    (hp : p.Awaits (.branch :: path) [] fields body.body) :
    Ends (block (env.push (.empty env.ambient)) body) σ
      (fun b d => AcceptsBodies env.ambient path fields [branchBody body]
        ((blockFieldDecls body).map Prod.fst) σ.classes [(env.ambient, b)] d) p.Explains := by
  have hinner : (env.push (.empty env.ambient)).Tracks (.branch :: path) [] :=
    h.push h.around.branch (.empty _)
  exact (block_ends hbody hinner hl hp).mono fun _ _ hrow => .of_row rfl hrow

theorem branches_ends {choices : List (Branch Expr Stmt)}
    (hbodies : ∀ b ∈ choices, ∀ x ∈ b.body.body, Tracked p x) (h : env.Tracks path names)
    (hl : σ.classes.Lists env.ambient.cls fields)
    (htests : ∀ b ∈ choices, p.HasWhole path b.test)
    (hfields : path.cls? ≠ none → p.Covers (fields ++ (branchFieldDecls choices).map Prod.fst))
    (hp : ∀ b ∈ choices, ∀ before, (path.cls? ≠ none →
      p.Covers (before ++ (blockFieldDecls b.body).map Prod.fst)) →
      p.Awaits (.branch :: path) [] before b.body.body) :
    Ends (branches env choices) σ
      (fun bs d => List.Forall₂ (Expr.Rooted env.ambient) (choices.map Branch.test)
          (bs.map Branch.test) ∧
        AcceptsBodies env.ambient path fields (choices.map fun b => branchBody b.body)
          ((branchFieldDecls choices).map Prod.fst) σ.classes
          (bs.map fun b => (env.ambient, b.body)) d) p.Explains := by
  induction choices generalizing σ fields with
  | nil =>
    rw [branches, branchFieldDecls]
    exact .pure ⟨.nil, .nil hl⟩
  | cons choice rest ih =>
    obtain ⟨test, body⟩ := choice
    obtain ⟨hbody, hbodies⟩ := List.forall_mem_cons.mp hbodies
    obtain ⟨htest, htests⟩ := List.forall_mem_cons.mp htests
    obtain ⟨hpc, hp⟩ := List.forall_mem_cons.mp hp
    have hcons : (branchFieldDecls (⟨test, body⟩ :: rest)).map Prod.fst =
        (blockFieldDecls body).map Prod.fst ++ (branchFieldDecls rest).map Prod.fst := by
      rw [branchFieldDecls, List.map_append]
    rw [hcons] at hfields ⊢
    rw [branches]
    refine .reading (expr_verdict p path test h.around htest) fun t hroot => ?_
    refine .rule (Rule.boolean_typing t) fun _ _ => ?_
    have hpbody := hpc fields fun hcls =>
      (hfields hcls).sublist (List.Sublist.append_left (List.sublist_append_left _ _) _)
    refine .bind (branchBody_ends hbody h hl hpbody) fun b τ hb => ?_
    have hfields' : path.cls? ≠ none → p.Covers
        ((fields ++ (blockFieldDecls body).map Prod.fst) ++ (branchFieldDecls rest).map Prod.fst) :=
      fun hcls => by
        rw [List.append_assoc]
        exact hfields hcls
    refine .bind (ih hbodies hb.lists htests hfields' hp) fun bs υ hbs => .pure ?_
    exact ⟨.cons hroot hbs.1, hb.append hbs.2⟩

theorem alternate_ends {otherwise : Option (Block Stmt)}
    (hbody : ∀ b ∈ otherwise, ∀ x ∈ b.body, Tracked p x) (h : env.Tracks path names)
    (hl : σ.classes.Lists env.ambient.cls fields)
    (hp : ∀ b ∈ otherwise, p.Awaits (.branch :: path) [] fields b.body) :
    Ends (alternate env otherwise) σ
      (fun b d => AcceptsBodies env.ambient path fields (otherwise.toList.map branchBody)
        ((alternateFieldDecls otherwise).map Prod.fst) σ.classes
        (b.toList.map fun b => (env.ambient, b)) d) p.Explains := by
  cases otherwise with
  | none =>
    rw [alternate, alternateFieldDecls]
    exact .pure (.nil hl)
  | some body =>
    rw [alternate, alternateFieldDecls]
    exact .bind (branchBody_ends (hbody body rfl) h hl (hp body rfl)) fun b τ hb => .pure hb

/-! ### Statements -/

theorem returned_verdict {classes : ClassTable} (h : path.Matches env.ambient) (f : Entity)
    {value : Option Expr} (span : Span) (hp : ∀ e ∈ value, p.HasWhole path e) :
    Verdict (returned env classes f value span)
      (fun value' => value'.isSome = value.isSome ∧
        List.Forall₂ (Expr.Rooted env.ambient) value.toList value'.toList)
      p.Explains := by
  cases value with
  | none =>
    exact .rule (Rule.returns_typing f false span) fun _ _ => .pure ⟨rfl, .nil⟩
  | some e =>
    refine .rule (Rule.returns_typing f true span) fun _ _ => ?_
    refine .bind (expr_verdict p path e h (hp e rfl)) fun e' hroot => ?_
    exact .rule (Rule.assignable_typing e' f.resultType) fun _ _ => .pure ⟨rfl, .cons hroot .nil⟩

/-- The verdict about an expression right below a statement. -/
theorem part_verdict {x : Stmt} {e : Expr} {classes : ClassTable} (h : env.Tracks path names)
    (hp : p.Awaits path names fields [x]) (he : e ∈ x.exprs) :
    Verdict (expr env classes e) (e.Rooted env.ambient) p.Explains :=
  expr_verdict p path e h.around (hp.hasStmt.hasWhole he)

/-- Every check of a statement descends first. -/
theorem Tracked.of_descend {x : Stmt} {span : Span}
    {rest : Env → Lex (Checked.Stmt × Option (String × Entity))}
    (hstmt : ∀ env, stmt env x = (Lex.ofRule (env.descend span) >>= rest))
    (hrest : ∀ {env : Env} {σ : Store} {path : Path} {names fields : List String},
      env.Tracks path names → σ.classes.Lists env.ambient.cls fields →
      p.Awaits path names fields [x] →
      Ends (rest env) σ (fun r d => Accepts env.ambient path names fields x σ.classes r d)
        p.Explains) : Tracked p x := by
  intro env σ path names fields h hl hp
  rw [hstmt]
  refine .ofRule (descend_verdict env span) fun inner hinner => ?_
  obtain ⟨n, rfl⟩ := hinner
  exact hrest (h.deeper n) hl hp

/-- **A statement of a program is accepted in place, or refused for what the program has.** -/
theorem stmt_tracked (p : Program) (x : Stmt) : Tracked p x := by
  induction x with
  | var name typeExpr value span =>
    apply Tracked.of_descend (fun env => by rw [stmt])
    intro env σ path names fields h hl hp
    refine .reading (part_verdict h hp (by simp [Stmt.exprs])) fun v hroot => ?_
    refine .rule (variableType_typing _ typeExpr v) fun ty _ => ?_
    refine .newEntity fun entity τ hentity hτ => ?_
    refine .ofRule (h.frame.declare_verdict entity span (hp.covers_declared rfl)) fun b hb => ?_
    obtain ⟨rfl, hfree⟩ := hb
    have hname : entity.name = name := by rw [Entity.name, hentity]
    have hvalue : entity.denotedType? = none := by rw [Entity.denotedType?, hentity]
    have hnil : AcceptsBodies env.ambient path fields [] [] σ.classes [] τ.classes := by
      rw [hτ]
      exact .nil hl
    refine .pure (hnil.declares ?_ rfl (.of_value hvalue) hfree)
    exact hnil.twin h.around trivial trivial ⟨hname, rfl⟩ (.cons hroot .nil)
  | function decl hbody =>
    apply Tracked.of_descend (fun env => by rw [stmt])
    intro env σ path names fields h hl hp
    have hfields := Stmt.fieldDecls_function decl
    have hinner := hp.body (b := decl.toBody []) List.mem_cons_self hfields rfl
    refine .bind (function_ends hbody h hl (fun _ hr => by cases hr) (fun _ hr => by cases hr)
      (hp.covers_declared rfl) hinner) fun r τ hr => ?_
    obtain ⟨f, b⟩ := r
    obtain rfl : b = (decl.name, f.entity) := hr.binding
    have hbodies : AcceptsBodies env.ambient path fields [decl.toBody []]
        ((Stmt.function decl).fieldDecls.map Prod.fst) σ.classes
        [(env.ambient.inFunction f.entity, f.body)] τ.classes := by
      rw [hfields]
      exact ⟨.cons hr.twin .nil, List.forall_mem_singleton.mpr hr.nodup, hr.gained, hr.lists⟩
    refine .pure (hbodies.declares ?_ rfl (.of_value hr.value) hr.free)
    exact hbodies.twin h.around trivial trivial ⟨hr.name, hr.span⟩ .nil
  | classDecl decl hbody hbodies =>
    apply Tracked.of_descend (fun env => by rw [stmt])
    intro env σ path names fields h hl hp
    exact .bind (classDecl_ends hbody hbodies h hl hp) fun r τ hr => .pure hr
  | field typeExpr name value span =>
    apply Tracked.of_descend (fun env => by rw [stmt])
    intro env σ path names fields h hl hp
    refine .ofRule (require_cls_verdict h.around (.inr ⟨_, _, _, hp.hasStmt⟩)) fun cls hcls => ?_
    have hpath : path.cls? ≠ none := by
      rw [ne_eq, h.around.cls?_eq_none_iff, hcls]
      exact Option.some_ne_none cls
    refine .reading (part_verdict h hp (by simp [Stmt.exprs])) fun v hroot => ?_
    refine .rule (convert_typing _ typeExpr) fun ty _ => ?_
    refine .rule (Rule.assignable_typing v ty) fun _ _ => ?_
    refine .addField (hcls ▸ hl) (hp.covers_fields hpath) fun τ hgained hlists => ?_
    refine .newEntity fun entity υ hentity hυ => ?_
    refine .ofRule (h.frame.declare_verdict entity span (hp.covers_declared rfl)) fun b hb => ?_
    obtain ⟨rfl, hfree⟩ := hb
    have hname : entity.name = name := by rw [Entity.name, hentity]
    have hvalue : entity.denotedType? = none := by rw [Entity.denotedType?, hentity]
    have hnil : AcceptsBodies env.ambient path fields [] [name] σ.classes [] υ.classes := by
      rw [hυ]
      exact ⟨.nil, fun _ hb => (by cases hb), hcls ▸ hgained, hcls ▸ hlists⟩
    refine .pure (hnil.declares ?_ rfl (.of_value hvalue) hfree)
    exact hnil.twin h.around hpath trivial ⟨hname, rfl⟩ (.cons hroot .nil)
  | assign target value span =>
    apply Tracked.of_descend (fun env => by rw [stmt])
    intro env σ path names fields h hl hp
    refine .reading (part_verdict h hp (by simp [Stmt.exprs])) fun v hv => ?_
    refine .reading (part_verdict h hp (by simp [Stmt.exprs])) fun t ht => ?_
    refine .rule (Rule.assignable_typing v t.ty) fun _ _ => .pure ?_
    have hnil : AcceptsBodies env.ambient path fields [] [] σ.classes [] σ.classes := .nil hl
    exact hnil.accepts (hnil.twin h.around trivial trivial rfl (.cons ht (.cons hv .nil))) rfl
  | print value span =>
    apply Tracked.of_descend (fun env => by rw [stmt])
    intro env σ path names fields h hl hp
    refine .reading (part_verdict h hp (by simp [Stmt.exprs])) fun v hv => .pure ?_
    have hnil : AcceptsBodies env.ambient path fields [] [] σ.classes [] σ.classes := .nil hl
    exact hnil.accepts (hnil.twin h.around trivial trivial rfl (.cons hv .nil)) rfl
  | expr value span =>
    apply Tracked.of_descend (fun env => by rw [stmt])
    intro env σ path names fields h hl hp
    refine .reading (part_verdict h hp (by simp [Stmt.exprs])) fun v hv => .pure ?_
    have hnil : AcceptsBodies env.ambient path fields [] [] σ.classes [] σ.classes := .nil hl
    exact hnil.accepts (hnil.twin h.around trivial trivial trivial (.cons hv .nil)) rfl
  | ifElse choices otherwise span hbodies hbody =>
    apply Tracked.of_descend (fun env => by rw [stmt])
    intro env σ path names fields h hl hp
    have hfields : (Stmt.ifElse choices otherwise span).fieldDecls.map Prod.fst =
        (branchFieldDecls choices).map Prod.fst ++
          (alternateFieldDecls otherwise).map Prod.fst := by
      rw [Stmt.fieldDecls, List.map_append]
    have hcovers : path.cls? ≠ none →
        p.Covers ((fields ++ (branchFieldDecls choices).map Prod.fst) ++
          (alternateFieldDecls otherwise).map Prod.fst) := fun hcls => by
      rw [List.append_assoc, ← hfields]
      exact hp.covers_fields hcls
    have htests : ∀ b ∈ choices, p.HasWhole path b.test := fun b hb =>
      hp.hasStmt.hasWhole (List.mem_map_of_mem hb)
    refine .bind (branches_ends hbodies h hl htests
      (fun hcls => (hcovers hcls).sublist (List.sublist_append_left _ _)) ?_) fun bs τ hbs => ?_
    · intro b hb before hbefore
      exact hp.hasStmt.awaits (b := branchBody b.body)
        (List.mem_append_left _ (List.mem_map_of_mem hb)) hbefore
    obtain ⟨hroots, hbs⟩ := hbs
    refine .bind (alternate_ends hbody h hbs.lists ?_) fun b υ hb => .pure ?_
    · rintro b ⟨⟩
      rw [alternateFieldDecls] at hcovers
      exact hp.hasStmt.awaits (b := branchBody b)
        (List.mem_append_right _ (List.mem_singleton_self _)) hcovers
    have hall := hbs.append hb
    rw [← hfields] at hall
    exact AcceptsBodies.accepts hall (hall.twin h.around trivial trivial rfl hroots) rfl
  | whileLoop test body span hbody =>
    apply Tracked.of_descend (fun env => by rw [stmt])
    intro env σ path names fields h hl hp
    refine .reading (part_verdict h hp (by simp [Stmt.exprs])) fun t ht => ?_
    refine .rule (Rule.boolean_typing t) fun _ _ => ?_
    have hfields : (Stmt.whileLoop test body span).fieldDecls = blockFieldDecls body := by
      rw [Stmt.fieldDecls]
    have hinner : (env.push (.empty env.ambient.loop)).Tracks (.loop :: path) [] :=
      h.push h.around.loop (.empty _)
    have hbody' := hp.body (b := ⟨[.loop], [], body⟩) List.mem_cons_self hfields rfl
    refine .bind (block_ends hbody hinner hl hbody') fun b τ hb => .pure ?_
    have hbodies : AcceptsBodies env.ambient path fields [⟨[.loop], [], body⟩]
        ((blockFieldDecls body).map Prod.fst) σ.classes [(env.ambient.loop, b)] τ.classes :=
      .of_row rfl hb
    rw [← hfields] at hbodies
    exact hbodies.accepts (hbodies.twin h.around trivial trivial rfl (.cons ht .nil)) rfl
  | forLoop name start stop body span hbody =>
    apply Tracked.of_descend (fun env => by rw [stmt])
    intro env σ path names fields h hl hp
    refine .reading (part_verdict h hp (by simp [Stmt.exprs])) fun s hs => ?_
    refine .rule (Rule.integer_typing s) fun _ _ => ?_
    refine .reading (part_verdict h hp (by simp [Stmt.exprs])) fun t ht => ?_
    refine .rule (Rule.integer_typing t) fun _ _ => ?_
    have hfields : (Stmt.forLoop name start stop body span).fieldDecls = blockFieldDecls body := by
      rw [Stmt.fieldDecls]
    have hinner := hp.body (b := ⟨[.loop], [name], body⟩) List.mem_cons_self hfields rfl
    refine .bind (loopBody_ends hbody h hl name .int hinner) fun r τ hr => .pure ?_
    obtain ⟨hname, hbodies⟩ := hr
    rw [← hfields] at hbodies
    refine AcceptsBodies.accepts hbodies (hbodies.twin h.around trivial trivial ⟨hname, rfl⟩ ?_) rfl
    exact .cons hs (.cons ht .nil)
  | forEach name typeExpr iterable body span hbody =>
    apply Tracked.of_descend (fun env => by rw [stmt])
    intro env σ path names fields h hl hp
    refine .reading (part_verdict h hp (by simp [Stmt.exprs])) fun s hs => ?_
    refine .rule (loopVariableType_typing _ typeExpr s) fun ty _ => ?_
    have hfields : (Stmt.forEach name typeExpr iterable body span).fieldDecls =
        blockFieldDecls body := by
      rw [Stmt.fieldDecls]
    have hinner := hp.body (b := ⟨[.loop], [name], body⟩) List.mem_cons_self hfields rfl
    refine .bind (loopBody_ends hbody h hl name ty hinner) fun r τ hr => .pure ?_
    obtain ⟨hname, hbodies⟩ := hr
    rw [← hfields] at hbodies
    refine AcceptsBodies.accepts hbodies (hbodies.twin h.around trivial trivial ⟨hname, rfl⟩ ?_) rfl
    exact .cons hs .nil
  | breakLoop span =>
    apply Tracked.of_descend (fun env => by rw [stmt])
    intro env σ path names fields h hl hp
    have hnil : AcceptsBodies env.ambient path fields [] [] σ.classes [] σ.classes := .nil hl
    cases hloop : env.ambient.inLoop with
    | true =>
      refine .ofRule (R := fun _ => True) (.pure trivial) fun _ _ => .pure ?_
      have hpath : path.inLoop = true := h.around.inLoop ▸ hloop
      exact hnil.accepts (hnil.twin h.around hpath trivial rfl .nil) rfl
    | false =>
      refine .ofRule (R := fun _ => False) (.fail ?_) fun _ hf => hf.elim
      exact ⟨path, span, hp.hasStmt, h.around.inLoop ▸ hloop, rfl⟩
  | ret value span =>
    apply Tracked.of_descend (fun env => by rw [stmt])
    intro env σ path names fields h hl hp
    have hnil : AcceptsBodies env.ambient path fields [] [] σ.classes [] σ.classes := .nil hl
    cases hfunction : env.ambient.function with
    | none =>
      refine .ofRule (R := fun _ => False) (.fail ?_) fun _ hf => hf.elim
      exact ⟨path, value, span, hp.hasStmt, h.around.function?_eq_none_iff.mpr hfunction, rfl⟩
    | some f =>
      have hpath : path.function? ≠ none := by
        rw [ne_eq, h.around.function?_eq_none_iff, hfunction]
        exact Option.some_ne_none f
      refine .ofRule (R := fun g => g = f) (.pure rfl) fun _ _ => ?_
      have hvalue : ∀ e ∈ value, p.HasWhole path e := fun e he =>
        hp.hasStmt.hasWhole (Option.mem_toList.mpr he)
      refine .reading (returned_verdict h.around _ span hvalue) fun v hv => .pure ?_
      exact hnil.accepts (hnil.twin h.around hpath trivial ⟨hv.1, rfl⟩ hv.2) rfl

end Lexical

end Shipshape
