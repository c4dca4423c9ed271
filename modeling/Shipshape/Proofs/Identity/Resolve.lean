import Shipshape.Proofs.Checked.Open
import Shipshape.Proofs.Identity.Mention

/-!
# What names and types resolve to

An environment is compared with the entities that a place sees and with the classes that
there are.

* `Shipshape.Lexical.Env.Lists` – the names of an environment are those of some
  entities, in order, and then the built-in types; all of them mention only classes of a
  list;
* `Shipshape.Lexical.Env.Lists.convert` – so does a type that is written;
* `Shipshape.Checked.Expr.Refers` – what holds of every node of a checked expression: a
  name stands for the nearest entity that has it, which is a value, and no other classes
  are mentioned;
* `Shipshape.Lexical.expr_refers` – the induction over expressions.
-/

namespace Shipshape

/-- An entity under its own name. -/
def Entity.named (e : Entity) : String × Entity := (e.name, e)

/-- Looking a name up among entities finds the first that has it. -/
theorem Entity.lookup_named (es : List Entity) (name : String) :
    (es.map named).lookup name = es.find? (·.name == name) := by
  induction es with
  | nil => rfl
  | cons e es ih =>
    rw [List.map_cons, named, List.lookup_cons, List.find?_cons, ih, BEq.comm]

namespace Lexical

/-- **The names of an environment are those of the entities `seen`**, the nearest first,
and then the built-in types; and no other classes than `refs` are in sight. -/
structure Env.Lists (env : Env) (seen : List Entity) (refs : List ClassRef) : Prop where
  /-- The names, from the inside out. -/
  names : env.frames.flatMap Frame.names = seen.map Entity.named ++ builtInEntities
  /-- The classes in the entities. -/
  entities : ∀ e ∈ seen, e.classes ⊆ refs
  /-- The class at hand. -/
  cls : env.ambient.cls.toList ⊆ refs

variable {env : Env} {seen : List Entity} {refs : List ClassRef} {name : String} {span : Span}

theorem Env.find?_eq (env : Env) (name : String) :
    env.find? name = (env.frames.flatMap Frame.names).lookup name := by
  rw [Env.find?]
  induction env.frames with
  | nil => rfl
  | cons frame frames ih =>
    rw [List.findSome?_cons, List.flatMap_cons, List.lookup_append, ← ih, Frame.lookup]
    cases frame.names.lookup name <;> rfl

theorem lists_root (limit : Nat) (refs : List ClassRef) : (Env.root limit).Lists [] refs :=
  ⟨List.append_nil _, fun _ he => (nomatch he), List.nil_subset _⟩

namespace Env.Lists

theorem mono {more : List ClassRef} (h : env.Lists seen refs) (hsub : refs ⊆ more) :
    env.Lists seen more :=
  ⟨h.names, fun e he => List.Subset.trans (h.entities e he) hsub, List.Subset.trans h.cls hsub⟩

/-- The place one level deeper sees the same. -/
theorem descend {inner : Env} (h : env.Lists seen refs) (hinner : env.descend span = .ok inner) :
    inner.Lists seen refs := by
  rw [Env.descend] at hinner
  split at hinner
  · exact Except.ok.inj hinner ▸ ⟨h.names, h.entities, h.cls⟩
  · cases hinner

/-- The place after a declaration sees one more entity. -/
theorem extend (h : env.Lists seen refs) (es : List Entity) (hes : ∀ e ∈ es, e.classes ⊆ refs) :
    (env.extend (es.map Entity.named)).Lists (es ++ seen) refs := by
  refine ⟨?_, List.forall_mem_append.mpr ⟨hes, h.entities⟩, h.cls⟩
  have hframes : (env.extend (es.map Entity.named)).frames.flatMap Frame.names =
      es.map Entity.named ++ env.frames.flatMap Frame.names := List.append_assoc ..
  rw [hframes, h.names, List.map_append, List.append_assoc]

/-- A region inside sees the entities that it begins with. -/
theorem push (h : env.Lists seen refs) (es : List Entity) (hes : ∀ e ∈ es, e.classes ⊆ refs)
    (a : Ambient) (ha : a.cls.toList ⊆ refs) :
    (env.push ⟨es.map Entity.named, a⟩).Lists (es ++ seen) refs := by
  refine ⟨?_, List.forall_mem_append.mpr ⟨hes, h.entities⟩, ha⟩
  have hframes : (env.push ⟨es.map Entity.named, a⟩).frames.flatMap Frame.names =
      es.map Entity.named ++ env.frames.flatMap Frame.names := rfl
  rw [hframes, h.names, List.map_append, List.append_assoc]

/-- A region in which nothing is declared yet sees the same. -/
theorem push_empty (h : env.Lists seen refs) (a : Ambient) (ha : a.cls.toList ⊆ refs) :
    (env.push (.empty a)).Lists seen refs :=
  h.push [] (fun _ he => nomatch he) a ha

/-- **What a name resolves to** is the nearest entity that has it, or a built-in type. -/
theorem resolve {entity : Entity} (h : env.Lists seen refs)
    (hres : env.resolve name span = .ok entity) :
    seen.find? (·.name == name) = some entity ∨ (name, entity) ∈ builtInEntities := by
  rw [Env.resolve] at hres
  split at hres
  · next found hfind =>
    obtain rfl := Except.ok.inj hres
    rw [Env.find?_eq, h.names, List.lookup_append, Entity.lookup_named] at hfind
    rcases Option.or_eq_some_iff.mp hfind with hseen | ⟨-, hbuilt⟩
    · exact .inl hseen
    · exact .inr (ClassInfo.mem_of_lookup_eq_some hbuilt)
  · cases hres

/-- A value that a name resolves to is the nearest entity that has it. -/
theorem resolve_value {entity : Entity} {ty : Ty} (h : env.Lists seen refs)
    (hres : env.resolve name span = .ok entity) (hty : entity.valueType? = some ty) :
    seen.find? (·.name == name) = some entity := by
  rcases h.resolve hres with hseen | hbuilt
  · exact hseen
  · obtain ⟨⟨kind, i⟩, -, heq⟩ := List.mem_map.mp hbuilt
    obtain ⟨-, rfl⟩ := Prod.mk.inj heq
    cases hty

theorem resolve_classes {entity : Entity} (h : env.Lists seen refs)
    (hres : env.resolve name span = .ok entity) : entity.classes ⊆ refs := by
  rcases h.resolve hres with hseen | hbuilt
  · exact h.entities entity (List.mem_of_find?_eq_some hseen)
  · rw [Entity.classes_of_builtIn hbuilt]
    exact List.nil_subset _

/-! ### Type expressions -/

/-- **A type that is written mentions classes in sight.** -/
theorem convert (henv : env.Lists seen refs) {a : TypeExpr} {ty : Ty}
    (h : env.convert a = .ok ty) : ty.classes ⊆ refs := by
  refine Env.convert_ind (P := fun ty => ty.classes ⊆ refs) (fun _ _ entity ty hres hty => ?_)
    (fun element helement => ?_) (fun key value hkey hvalue => ?_) ?_ h
  · rw [Entity.classes_of_denotedType? hty]
    exact henv.resolve_classes hres
  · rw [Ty.classes]
    exact helement
  · rw [Ty.classes]
    exact List.append_subset.mpr ⟨hkey, hvalue⟩
  · exact fun _ _ hparams hresult => Ty.classes_function_subset_iff.mpr ⟨hparams, hresult⟩

theorem convertResult (henv : env.Lists seen refs) {a : Option TypeExpr} {ty : Ty}
    (h : env.convertResult a = .ok ty) : ty.classes ⊆ refs := by
  cases a with
  | none => exact Except.ok.inj h ▸ List.nil_subset _
  | some a => exact henv.convert h

theorem convertParams (henv : env.Lists seen refs) {params : List Param} {tys : List Ty}
    (h : env.convertParams params = .ok tys) : ∀ ty ∈ tys, ty.classes ⊆ refs :=
  forall_convertList h fun _ _ _ hty => henv.convert hty

end Env.Lists

end Lexical

/-! ### Expressions -/

/-- A name in an expression stands for the nearest entity that has it, which is a
value. -/
def Checked.Expr.Resolves (seen : List Entity) : Checked.Expr → Prop
  | .symbol name entity ty _ =>
    seen.find? (·.name == name) = some entity ∧ entity.valueType? = some ty
  | _ => True

/-- **What holds of every node of a checked expression** from which the entities `seen`
are seen. -/
structure Checked.Expr.Refers (seen : List Entity) (refs : List ClassRef) (e : Checked.Expr) :
    Prop where
  /-- What a name stands for. -/
  name : e.Resolves seen
  /-- The classes that are mentioned. -/
  classes : e.classes ⊆ refs

theorem Checked.Expr.Refers.mono {seen : List Entity} {refs more : List ClassRef}
    {e : Checked.Expr} (h : e.Refers seen refs) (hsub : refs ⊆ more) : e.Refers seen more :=
  ⟨h.name, List.Subset.trans h.classes hsub⟩

/-- The type of an expression mentions classes in sight. -/
theorem Checked.Expr.Throughout.ty_classes {seen : List Entity} {refs : List ClassRef}
    {e : Checked.Expr} (h : e.Throughout (Checked.Expr.Refers seen refs)) :
    e.ty.classes ⊆ refs :=
  List.Subset.trans e.ty_classes_subset h.self.classes

/-- Once an expression is checked, its names and classes are in sight. -/
def Expr.CheckedInSight (e : Expr) : Prop :=
  ∀ {env : Lexical.Env} {seen : List Entity} {classes : ClassTable} {e' : Checked.Expr},
    env.Lists seen classes.refs → classes.Closed → Lexical.expr env classes e = .ok e' →
    e'.Throughout (Checked.Expr.Refers seen classes.refs)

namespace Lexical

variable {env : Env} {seen : List Entity} {classes : ClassTable}

theorem exprs_refer (henv : env.Lists seen classes.refs) (hclasses : classes.Closed)
    {es : List Expr} {es' : List Checked.Expr} (hes : ∀ e ∈ es, e.CheckedInSight)
    (h : exprs env classes es = .ok es') :
    ∀ e' ∈ es', e'.Throughout (Checked.Expr.Refers seen classes.refs) :=
  forall_exprs (fun e he _ he' => hes e he henv hclasses he') h

theorem passed_refer (henv : env.Lists seen classes.refs) (hclasses : classes.Closed)
    {args : List Expr} {args' : List Checked.Expr} {signature : Signature} {span : Span}
    (hargs : ∀ e ∈ args, e.CheckedInSight)
    (h : passed signature span (exprs env classes args) = .ok args') :
    ∀ e' ∈ args', e'.Throughout (Checked.Expr.Refers seen classes.refs) :=
  (forall_passed (fun e he _ he' => hargs e he henv hclasses he') h).2

/-- The entries of a map, and the types that their keys and their values share. -/
theorem entries_refer (henv : env.Lists seen classes.refs) (hclasses : classes.Closed)
    {items : List (Expr × Expr)} {items' : List (Checked.Expr × Checked.Expr)}
    {key key' value value' : Ty}
    (hitems : ∀ p ∈ items, p.1.CheckedInSight ∧ p.2.CheckedInSight)
    (hkey : key.classes ⊆ classes.refs) (hvalue : value.classes ⊆ classes.refs)
    (h : entries env classes key value items = .ok (items', key', value')) :
    key'.classes ⊆ classes.refs ∧ value'.classes ⊆ classes.refs ∧
      ∀ p ∈ items', p.1.Throughout (Checked.Expr.Refers seen classes.refs) ∧
        p.2.Throughout (Checked.Expr.Refers seen classes.refs) := by
  induction items generalizing items' key value with
  | nil =>
    rw [entries] at h
    cases h
    exact ⟨hkey, hvalue, fun p hp => by cases hp⟩
  | cons item items ih =>
    obtain ⟨k, v⟩ := item
    obtain ⟨⟨hk, hv⟩, hitems⟩ := List.forall_mem_cons.mp hitems
    rw [entries] at h
    obtain ⟨k', hk', h⟩ := bind_eq_ok_iff.mp h
    obtain ⟨v', hv', h⟩ := bind_eq_ok_iff.mp h
    obtain ⟨nextKey, hnextKey, h⟩ := bind_eq_ok_iff.mp h
    obtain ⟨nextValue, hnextValue, h⟩ := bind_eq_ok_iff.mp h
    obtain ⟨⟨rest, lastKey, lastValue⟩, hrest, h⟩ := bind_eq_ok_iff.mp h
    cases h
    replace hk := hk henv hclasses hk'
    replace hv := hv henv hclasses hv'
    have hnextKey := Ty.classes_subset_of_common (Rule.join_eq_ok_iff.mp hnextKey) hkey
      hk.ty_classes
    have hnextValue := Ty.classes_subset_of_common (Rule.join_eq_ok_iff.mp hnextValue) hvalue
      hv.ty_classes
    obtain ⟨hlastKey, hlastValue, hrest⟩ := ih hitems hnextKey hnextValue hrest
    exact ⟨hlastKey, hlastValue, List.forall_mem_cons.mpr ⟨⟨hk, hv⟩, hrest⟩⟩

/-- **The names and the classes of a checked expression are in sight**, at every node. -/
theorem expr_refers (e : Expr) : e.CheckedInSight := by
  intro env seen classes e' henv hclasses h
  -- The type of a node comes from a part, from an entity in sight, or from a member of a
  -- class, and none of these mentions a class that is not there.
  induction e generalizing env seen classes e' with
  | literal value span =>
    rw [expr] at h
    obtain ⟨inner, -, h⟩ := bind_eq_ok_iff.mp h
    obtain rfl := Except.ok.inj h
    refine .intro ⟨trivial, ?_⟩ fun c hc => by cases hc
    cases value <;> exact List.nil_subset _
  | symbol name span =>
    rw [expr] at h
    obtain ⟨inner, hinner, h⟩ := bind_eq_ok_iff.mp h
    replace hinner := henv.descend hinner
    obtain ⟨entity, hres, h⟩ := bind_eq_ok_iff.mp h
    obtain ⟨ty, hty, h⟩ := bind_eq_ok_iff.mp h
    obtain rfl := Except.ok.inj h
    replace hty := require_eq_ok_iff.mp hty
    have hsight := hinner.resolve_classes hres
    refine .intro ⟨⟨hinner.resolve_value hres hty, hty⟩, ?_⟩ fun c hc => by cases hc
    rw [Checked.Expr.classes, Entity.classes_of_valueType? hty]
    exact List.append_subset.mpr ⟨hsight, hsight⟩
  | self span =>
    rw [expr] at h
    obtain ⟨inner, hinner, h⟩ := bind_eq_ok_iff.mp h
    obtain ⟨cls, hcls, h⟩ := bind_eq_ok_iff.mp h
    obtain rfl := Except.ok.inj h
    have hmem : cls ∈ classes.refs :=
      (henv.descend hinner).cls (Option.mem_toList.mpr (require_eq_ok_iff.mp hcls))
    refine .intro ⟨trivial, ?_⟩ fun c hc => by cases hc
    exact List.cons_subset.mpr ⟨hmem, List.cons_subset.mpr ⟨hmem, List.nil_subset _⟩⟩
  | binary op left right span ihl ihr =>
    rw [expr] at h
    obtain ⟨inner, hinner, h⟩ := bind_eq_ok_iff.mp h
    replace hinner := henv.descend hinner
    obtain ⟨l, hl, h⟩ := bind_eq_ok_iff.mp h
    obtain ⟨r, hr, h⟩ := bind_eq_ok_iff.mp h
    obtain ⟨ty, hty, h⟩ := bind_eq_ok_iff.mp h
    obtain rfl := Except.ok.inj h
    replace hl := ihl hinner hclasses hl
    replace hr := ihr hinner hclasses hr
    refine .intro ⟨trivial, ?_⟩ ?_
    · rcases (Rule.binary_eq_ok hty).result with rfl | rfl
      · exact hl.ty_classes
      · exact List.nil_subset _
    · exact List.forall_mem_cons.mpr ⟨hl, List.forall_mem_singleton.mpr hr⟩
  | unary op operand span ih =>
    rw [expr] at h
    obtain ⟨inner, hinner, h⟩ := bind_eq_ok_iff.mp h
    obtain ⟨x, hx, h⟩ := bind_eq_ok_iff.mp h
    obtain ⟨ty, hty, h⟩ := bind_eq_ok_iff.mp h
    obtain rfl := Except.ok.inj h
    replace hx := ih (henv.descend hinner) hclasses hx
    refine .intro ⟨trivial, ?_⟩ (List.forall_mem_singleton.mpr hx)
    rcases (Rule.unary_eq_ok hty).result with rfl | rfl
    · exact hx.ty_classes
    · exact List.nil_subset _
  | conditional test consequent alternate span iht ihc iha =>
    rw [expr] at h
    obtain ⟨inner, hinner, h⟩ := bind_eq_ok_iff.mp h
    replace hinner := henv.descend hinner
    obtain ⟨t, ht, h⟩ := bind_eq_ok_iff.mp h
    obtain ⟨_, -, h⟩ := bind_eq_ok_iff.mp h
    obtain ⟨x, hx, h⟩ := bind_eq_ok_iff.mp h
    obtain ⟨y, hy, h⟩ := bind_eq_ok_iff.mp h
    obtain ⟨ty, hty, h⟩ := bind_eq_ok_iff.mp h
    obtain rfl := Except.ok.inj h
    replace ht := iht hinner hclasses ht
    replace hx := ihc hinner hclasses hx
    replace hy := iha hinner hclasses hy
    have hshared := Rule.join_eq_ok_iff.mp hty
    refine .intro ⟨trivial, Ty.classes_subset_of_common hshared hx.ty_classes hy.ty_classes⟩ ?_
    exact List.forall_mem_cons.mpr
      ⟨ht, List.forall_mem_cons.mpr ⟨hx, List.forall_mem_singleton.mpr hy⟩⟩
  | call callee args span ihc ihs =>
    rw [expr] at h
    obtain ⟨inner, hinner, h⟩ := bind_eq_ok_iff.mp h
    replace hinner := henv.descend hinner
    obtain ⟨f, hf, h⟩ := bind_eq_ok_iff.mp h
    obtain ⟨signature, hsig, h⟩ := bind_eq_ok_iff.mp h
    obtain ⟨xs, hxs, h⟩ := bind_eq_ok_iff.mp h
    obtain rfl := Except.ok.inj h
    replace hf := ihc hinner hclasses hf
    have hsignature : signature.toTy.classes ⊆ classes.refs :=
      Rule.callee_eq_ok_iff.mp hsig ▸ hf.ty_classes
    have hresult := (Ty.classes_function_subset_iff.mp hsignature).2
    refine .intro ⟨trivial, List.append_subset.mpr ⟨hsignature, hresult⟩⟩ ?_
    exact List.forall_mem_cons.mpr ⟨hf, passed_refer hinner hclasses ihs hxs⟩
  | subscript array index span iha ihi =>
    rw [expr] at h
    obtain ⟨inner, hinner, h⟩ := bind_eq_ok_iff.mp h
    replace hinner := henv.descend hinner
    obtain ⟨x, hx, h⟩ := bind_eq_ok_iff.mp h
    obtain ⟨i, hi, h⟩ := bind_eq_ok_iff.mp h
    obtain ⟨ty, hty, h⟩ := bind_eq_ok_iff.mp h
    obtain rfl := Except.ok.inj h
    replace hx := iha hinner hclasses hx
    have helement := hx.ty_classes
    rw [(Rule.subscript_eq_ok hty).1, Ty.classes] at helement
    refine .intro ⟨trivial, helement⟩ ?_
    exact List.forall_mem_cons.mpr ⟨hx, List.forall_mem_singleton.mpr (ihi hinner hclasses hi)⟩
  | array elements span ihs =>
    rw [expr] at h
    obtain ⟨inner, hinner, h⟩ := bind_eq_ok_iff.mp h
    obtain ⟨xs, hxs, h⟩ := bind_eq_ok_iff.mp h
    obtain ⟨ty, hty, h⟩ := bind_eq_ok_iff.mp h
    obtain rfl := Except.ok.inj h
    replace hxs := exprs_refer (henv.descend hinner) hclasses ihs hxs
    refine .intro ⟨trivial, ?_⟩ hxs
    rw [Checked.Expr.classes, Ty.classes]
    refine Ty.foldlM_common (P := fun t => t.classes ⊆ classes.refs)
      Ty.classes_subset_of_common (Rule.elements_eq_ok_iff.mp hty) (List.nil_subset _) ?_
    exact List.forall_mem_map.mpr fun x hx => (hxs x hx).ty_classes
  | map items span ihs =>
    rw [expr] at h
    obtain ⟨inner, hinner, h⟩ := bind_eq_ok_iff.mp h
    obtain ⟨⟨xs, key, value⟩, hxs, h⟩ := bind_eq_ok_iff.mp h
    obtain rfl := Except.ok.inj h
    obtain ⟨hkey, hvalue, hxs⟩ := entries_refer (henv.descend hinner) hclasses ihs
      (List.nil_subset _) (List.nil_subset _) hxs
    refine .intro ⟨trivial, ?_⟩ fun c hc => ?_
    · rw [Checked.Expr.classes, Ty.classes]
      exact List.append_subset.mpr ⟨hkey, hvalue⟩
    · obtain ⟨p, hp, hc⟩ := List.mem_flatMap.mp hc
      obtain ⟨hk, hv⟩ := hxs p hp
      exact List.forall_mem_cons.mpr ⟨hk, List.forall_mem_singleton.mpr hv⟩ c hc
  | member object name span ih =>
    rw [expr] at h
    obtain ⟨inner, hinner, h⟩ := bind_eq_ok_iff.mp h
    obtain ⟨x, hx, h⟩ := bind_eq_ok_iff.mp h
    obtain ⟨cls, -, h⟩ := bind_eq_ok_iff.mp h
    obtain ⟨ty, hty, h⟩ := bind_eq_ok_iff.mp h
    obtain rfl := Except.ok.inj h
    obtain ⟨-, hfields, -⟩ := ClassInfo.classes_subset_iff.mp (hclasses.info cls)
    have hfield := hfields _ (ClassInfo.mem_of_lookup_eq_some (require_eq_ok_iff.mp hty))
    refine .intro ⟨trivial, hfield⟩ ?_
    exact List.forall_mem_singleton.mpr (ih (henv.descend hinner) hclasses hx)
  | methodCall object name args span ih ihs =>
    rw [expr] at h
    obtain ⟨inner, hinner, h⟩ := bind_eq_ok_iff.mp h
    replace hinner := henv.descend hinner
    obtain ⟨x, hx, h⟩ := bind_eq_ok_iff.mp h
    obtain ⟨cls, -, h⟩ := bind_eq_ok_iff.mp h
    obtain ⟨signature, hsig, h⟩ := bind_eq_ok_iff.mp h
    obtain ⟨xs, hxs, h⟩ := bind_eq_ok_iff.mp h
    obtain rfl := Except.ok.inj h
    obtain ⟨-, -, hmethods⟩ := ClassInfo.classes_subset_iff.mp (hclasses.info cls)
    have hsignature := hmethods _ (ClassInfo.mem_of_method? (require_eq_ok_iff.mp hsig))
    have hresult := (Ty.classes_function_subset_iff.mp hsignature).2
    refine .intro ⟨trivial, List.append_subset.mpr ⟨hsignature, hresult⟩⟩ ?_
    exact List.forall_mem_cons.mpr ⟨ih hinner hclasses hx, passed_refer hinner hclasses ihs hxs⟩
  | construct className args span ihs =>
    rw [expr] at h
    obtain ⟨inner, hinner, h⟩ := bind_eq_ok_iff.mp h
    replace hinner := henv.descend hinner
    obtain ⟨entity, hres, h⟩ := bind_eq_ok_iff.mp h
    obtain ⟨cls, hcls, h⟩ := bind_eq_ok_iff.mp h
    obtain ⟨xs, hxs, h⟩ := bind_eq_ok_iff.mp h
    obtain rfl := Except.ok.inj h
    have hsight : [cls] ⊆ classes.refs :=
      Entity.classes_of_class? (require_eq_ok_iff.mp hcls) ▸ hinner.resolve_classes hres
    refine .intro ⟨trivial, ?_⟩ (passed_refer hinner hclasses ihs hxs)
    exact List.cons_subset.mpr ⟨hsight List.mem_cons_self, hsight⟩

/-! ### Declarations -/

theorem variableType_classes (henv : env.Lists seen classes.refs) {typeExpr : Option TypeExpr}
    {value : Checked.Expr} {ty : Ty} (hvalue : value.ty.classes ⊆ classes.refs)
    (h : variableType env typeExpr value = .ok ty) : ty.classes ⊆ classes.refs := by
  cases typeExpr with
  | none => exact (Rule.inferred_eq_ok_iff.mp h).2 ▸ hvalue
  | some a =>
    obtain ⟨declared, hdeclared, h⟩ := bind_eq_ok_iff.mp h
    obtain ⟨_, -, h⟩ := bind_eq_ok_iff.mp h
    exact Except.ok.inj h ▸ henv.convert hdeclared

theorem loopVariableType_classes (henv : env.Lists seen classes.refs)
    {typeExpr : Option TypeExpr} {iterable : Checked.Expr} {ty : Ty}
    (hiterable : iterable.ty.classes ⊆ classes.refs)
    (h : loopVariableType env typeExpr iterable = .ok ty) : ty.classes ⊆ classes.refs := by
  obtain ⟨element, helement, h⟩ := bind_eq_ok_iff.mp h
  cases typeExpr with
  | none =>
    rw [← (Rule.inferredElement_eq_ok_iff.mp h).2]
    rcases Rule.iterated_eq_ok_iff.mp helement with harray | ⟨key, hmap⟩
    · rw [harray, Ty.classes] at hiterable
      exact hiterable
    · rw [hmap, Ty.classes] at hiterable
      exact (List.append_subset.mp hiterable).2
  | some a =>
    obtain ⟨declared, hdeclared, h⟩ := bind_eq_ok_iff.mp h
    exact (Rule.declaredElement_eq_ok_iff.mp h).2 ▸ henv.convert hdeclared

theorem returned_refers (henv : env.Lists seen classes.refs) (hclasses : classes.Closed)
    {f : Entity} {value : Option Expr} {value' : Option Checked.Expr} {span : Span}
    (h : returned env classes f value span = .ok value') :
    ∀ e ∈ value'.toList, e.Throughout (Checked.Expr.Refers seen classes.refs) := by
  cases value with
  | none =>
    obtain ⟨_, -, h⟩ := bind_eq_ok_iff.mp h
    obtain rfl := Except.ok.inj h
    exact fun e he => nomatch he
  | some value =>
    obtain ⟨_, -, h⟩ := bind_eq_ok_iff.mp h
    obtain ⟨v, hv, h⟩ := bind_eq_ok_iff.mp h
    obtain ⟨_, -, h⟩ := bind_eq_ok_iff.mp h
    obtain rfl := Except.ok.inj h
    exact List.forall_mem_singleton.mpr (expr_refers value henv hclasses hv)

end Lexical

end Shipshape
