import Shipshape.Proofs.Checked.Rule
import Shipshape.Proofs.Lexical.Check
import Shipshape.Proofs.Settled

/-!
# Checked expressions are well typed

What the lexical checker hands back for an expression satisfies the local typing
rules, node by node.

* `Shipshape.Entity.Bindable` – an entity that a name may be bound to;
* `Shipshape.Lexical.Env.Sound` – every name of an environment is bound to such an
  entity;
* `Shipshape.Checked.Expr.Fits` – what holds of every node of a checked expression;
* `Shipshape.Lexical.expr_fits` – the induction over expressions;
* `Shipshape.Lexical.Env.Sound.settled_convert` – a type that is written is settled.
-/

namespace Shipshape

/-- **An entity that a name may be bound to**: it has that name, `any` does not occur
in it, and if it is a class, the class was made. -/
structure Entity.Bindable (classes : ClassTable) (name : String) (e : Entity) : Prop where
  /-- The name is that of the entity. -/
  name : e.name = name
  /-- The entity is settled. -/
  settled : e.Settled
  /-- A class was made before its name is bound. -/
  declared : ∀ cls, e.class? = some cls → cls.id < classes.size

/-- A name may be bound to a value that has the name and a settled type. -/
theorem Entity.Bindable.of_value {classes : ClassTable} {name : String} {e : Entity} {ty : Ty}
    (hname : e.name = name) (he : e.valueType? = some ty) (h : ty.Settled) :
    e.Bindable classes name := by
  refine ⟨hname, .of_value he h, fun cls hcls => ?_⟩
  obtain ⟨id, binding⟩ := e
  cases binding with
  | classType c => cases he
  | var | param | field | function | typeName => cases hcls

theorem Entity.Bindable.mono {t u : ClassTable} {name : String} {e : Entity}
    (h : e.Bindable t name) (hext : t.Extends u) : e.Bindable u name :=
  ⟨h.name, h.settled, fun cls hcls => hext.lt_size (h.declared cls hcls)⟩

/-- The entity that an expression refers to, if it is a name. -/
def Checked.Expr.entity? : Checked.Expr → Option Entity
  | .symbol _ entity _ _ => some entity
  | _ => none

/-- **What holds of every node of a checked expression**: it is well typed, and what
a name refers to is settled. -/
structure Checked.Expr.Fits (classes : ClassTable) (a : Ambient) (e : Checked.Expr) : Prop where
  /-- The local typing rule. -/
  typed : e.WellTyped classes a
  /-- What a name refers to. -/
  settled : ∀ entity ∈ e.entity?, entity.Settled

theorem Checked.Expr.Fits.mono {t u : ClassTable} {a : Ambient} {e : Checked.Expr}
    (h : e.Fits t a) (hext : t.Extends u) : e.Fits u a :=
  ⟨h.typed.mono hext, h.settled⟩

namespace Lexical

/-- **Every name is bound to an entity that it may be bound to.** -/
def Env.Sound (classes : ClassTable) (env : Env) : Prop :=
  ∀ frame ∈ env.frames, ∀ b ∈ frame.names, b.2.Bindable classes b.1

variable {env : Env} {classes : ClassTable}

/-- What succeeds one level deeper sees the same names there, in the same
surroundings. -/
theorem Env.Sound.descend (henv : env.Sound classes) {β : Type} {g : Env → Except Diagnostic β}
    {b : β} {span : Span} (h : (env.descend span >>= g) = .ok b) :
    ∃ inner : Env, inner.Sound classes ∧ inner.ambient = env.ambient ∧ g inner = .ok b := by
  obtain ⟨inner, hinner, h⟩ := bind_eq_ok_iff.mp h
  rw [Env.descend] at hinner
  split at hinner
  · obtain rfl := Except.ok.inj hinner
    exact ⟨{ env with level := env.level + 1 }, henv, rfl, h⟩
  · cases hinner

/-- What a name resolves to may be bound to it. -/
theorem Env.Sound.bindable (h : env.Sound classes) {name : String} {span : Span} {entity : Entity}
    (hres : env.resolve name span = .ok entity) : entity.Bindable classes name := by
  rw [Env.resolve] at hres
  split at hres
  · next found hfind =>
    obtain rfl := Except.ok.inj hres
    obtain ⟨frame, hframe, hlook⟩ := List.exists_of_findSome?_eq_some hfind
    exact h frame hframe _ (ClassInfo.mem_of_lookup_eq_some hlook)
  · cases hres

theorem require_eq_ok_iff {α : Type} {value : Option α} {cause : Cause} {span : Span} {a : α} :
    require value cause span = .ok a ↔ value = some a := by
  cases value <;> simp [require]

/-! ### Type expressions -/

/-- What holds of each type that is written in a list holds of all that come out. -/
theorem forall_convertList {P : Ty → Prop} {as : List TypeExpr} {tys : List Ty}
    (h : env.convertList as = .ok tys) (has : ∀ a ∈ as, ∀ ty, env.convert a = .ok ty → P ty) :
    ∀ ty ∈ tys, P ty := by
  induction as generalizing tys with
  | nil =>
    rw [Env.convertList] at h
    obtain rfl := Except.ok.inj h
    exact fun ty hty => nomatch hty
  | cons a as ih =>
    rw [Env.convertList] at h
    obtain ⟨ty, hty, h⟩ := bind_eq_ok_iff.mp h
    obtain ⟨rest, hrest, h⟩ := bind_eq_ok_iff.mp h
    obtain rfl := Except.ok.inj h
    have hrest := ih hrest fun b hb => has b (List.mem_cons_of_mem _ hb)
    exact List.forall_mem_cons.mpr ⟨has a List.mem_cons_self ty hty, hrest⟩

/-- **Induction over a type that is written**: what holds of the types that names denote,
and is kept by arrays, maps and functions, holds of the whole. -/
theorem Env.convert_ind {P : Ty → Prop}
    (hname : ∀ name span entity ty, env.resolve name span = .ok entity →
      entity.denotedType? = some ty → P ty)
    (harray : ∀ element, P element → P (.array element))
    (hmap : ∀ key value, P key → P value → P (.map key value))
    (hfunction : ∀ params result, (∀ p ∈ params, P p) → P result → P (.function params result))
    {a : TypeExpr} {ty : Ty} (h : env.convert a = .ok ty) : P ty := by
  induction a generalizing ty with
  | name name span =>
    rw [Env.convert] at h
    obtain ⟨entity, hres, h⟩ := bind_eq_ok_iff.mp h
    exact hname name span entity ty hres (require_eq_ok_iff.mp h)
  | array element ih =>
    rw [Env.convert] at h
    obtain ⟨el, hel, h⟩ := bind_eq_ok_iff.mp h
    obtain rfl := Except.ok.inj h
    exact harray el (ih hel)
  | map key value ihk ihv =>
    rw [Env.convert] at h
    obtain ⟨k, hk, h⟩ := bind_eq_ok_iff.mp h
    obtain ⟨v, hv, h⟩ := bind_eq_ok_iff.mp h
    obtain rfl := Except.ok.inj h
    exact hmap k v (ihk hk) (ihv hv)
  | function params result ihps ihr =>
    rw [Env.convert] at h
    obtain ⟨ps, hps, h⟩ := bind_eq_ok_iff.mp h
    obtain ⟨r, hr, h⟩ := bind_eq_ok_iff.mp h
    obtain rfl := Except.ok.inj h
    exact hfunction ps r (forall_convertList hps fun p hp ty hty => ihps p hp hty) (ihr hr)

theorem length_convertList {as : List TypeExpr} {tys : List Ty}
    (h : env.convertList as = .ok tys) : tys.length = as.length := by
  induction as generalizing tys with
  | nil =>
    rw [Env.convertList] at h
    exact Except.ok.inj h ▸ rfl
  | cons a as ih =>
    rw [Env.convertList] at h
    obtain ⟨ty, -, h⟩ := bind_eq_ok_iff.mp h
    obtain ⟨rest, hrest, h⟩ := bind_eq_ok_iff.mp h
    obtain rfl := Except.ok.inj h
    exact congrArg (· + 1) (ih hrest)

/-- **A type that is written is settled**: `any` has no name, and what a name denotes
is settled. -/
theorem Env.Sound.settled_convert (henv : env.Sound classes) {a : TypeExpr} {ty : Ty}
    (h : env.convert a = .ok ty) : ty.Settled := by
  refine Env.convert_ind (fun _ _ _ ty hres hty => ?_) ?_ ?_ ?_ h
  · exact (henv.bindable hres).settled.denoted ty hty
  · exact fun _ helement => .array helement
  · exact fun _ _ hkey hvalue => .map hkey hvalue
  · exact fun _ _ hparams hresult => .function hparams hresult

theorem Env.Sound.settled_convertResult (henv : env.Sound classes) {a : Option TypeExpr} {ty : Ty}
    (h : env.convertResult a = .ok ty) : ty.Settled := by
  cases a with
  | none =>
    obtain rfl := Except.ok.inj h
    exact .scalar (by decide)
  | some a => exact henv.settled_convert h

theorem Env.Sound.settled_convertParams (henv : env.Sound classes) {params : List Param}
    {tys : List Ty} (h : env.convertParams params = .ok tys) : ∀ ty ∈ tys, ty.Settled :=
  forall_convertList h fun _ _ _ hty => henv.settled_convert hty

/-- A region in which nothing is declared yet brings no names. -/
theorem Env.Sound.push_empty (henv : env.Sound classes) (a : Ambient) :
    (env.push (.empty a)).Sound classes :=
  List.forall_mem_cons.mpr ⟨fun _ hb => (nomatch hb), henv⟩

end Lexical

/-! ### Expressions -/

/-- An expression is well typed once it is checked, in every sound environment. -/
def Expr.CheckedWell (e : Expr) : Prop :=
  ∀ {env : Lexical.Env} {classes : ClassTable} {e' : Checked.Expr}, env.Sound classes →
    Lexical.expr env classes e = .ok e' → e'.Throughout (Checked.Expr.Fits classes env.ambient)

namespace Lexical

/-- What holds of each expression in a list once it is checked holds of all of them. -/
theorem forall_exprs {P : Checked.Expr → Prop} {es : List Expr} {es' : List Checked.Expr}
    (hes : ∀ e ∈ es, ∀ e', expr env classes e = .ok e' → P e')
    (h : exprs env classes es = .ok es') : ∀ e' ∈ es', P e' := by
  induction es generalizing es' with
  | nil =>
    rw [exprs] at h
    obtain rfl := Except.ok.inj h
    exact fun e he => nomatch he
  | cons e es ih =>
    rw [exprs] at h
    obtain ⟨e', he', h⟩ := bind_eq_ok_iff.mp h
    obtain ⟨rest, hrest, h⟩ := bind_eq_ok_iff.mp h
    obtain rfl := Except.ok.inj h
    have hrest := ih (fun d hd => hes d (List.mem_cons_of_mem _ hd)) hrest
    exact List.forall_mem_cons.mpr ⟨hes e List.mem_cons_self e' he', hrest⟩

/-- Arguments that are passed are checked one by one, and fit the signature. -/
theorem forall_passed {P : Checked.Expr → Prop} {args : List Expr} {args' : List Checked.Expr}
    {signature : Signature} {span : Span}
    (hargs : ∀ e ∈ args, ∀ e', expr env classes e = .ok e' → P e')
    (h : passed signature span (exprs env classes args) = .ok args') :
    signature.Accepts args' ∧ ∀ e' ∈ args', P e' := by
  rw [passed] at h
  obtain ⟨checked, hchecked, h⟩ := bind_eq_ok_iff.mp h
  obtain ⟨_, hpass, h⟩ := bind_eq_ok_iff.mp h
  obtain rfl := Except.ok.inj h
  exact ⟨Rule.arguments_eq_ok_iff.mp hpass, forall_exprs hargs hchecked⟩

theorem exprs_fits (henv : env.Sound classes) {es : List Expr} {es' : List Checked.Expr}
    (hes : ∀ e ∈ es, e.CheckedWell) (h : exprs env classes es = .ok es') :
    ∀ e' ∈ es', e'.Throughout (Checked.Expr.Fits classes env.ambient) :=
  forall_exprs (fun e he _ he' => hes e he henv he') h

/-- Arguments that were passed fit the signature. -/
theorem passed_fits (henv : env.Sound classes) {args : List Expr} {args' : List Checked.Expr}
    {signature : Signature} {span : Span} (hargs : ∀ e ∈ args, e.CheckedWell)
    (h : passed signature span (exprs env classes args) = .ok args') :
    signature.Accepts args' ∧
      ∀ e' ∈ args', e'.Throughout (Checked.Expr.Fits classes env.ambient) :=
  forall_passed (fun e he _ he' => hargs e he henv he') h

/-- The entries of a map, with the types that their keys and their values share. -/
theorem entries_fits (henv : env.Sound classes) {items : List (Expr × Expr)}
    {items' : List (Checked.Expr × Checked.Expr)} {key key' value value' : Ty}
    (hitems : ∀ p ∈ items, p.1.CheckedWell ∧ p.2.CheckedWell)
    (h : entries env classes key value items = .ok (items', key', value')) :
    (items'.map fun p => p.1.ty).foldlM Ty.common key = some key' ∧
      (items'.map fun p => p.2.ty).foldlM Ty.common value = some value' ∧
      ∀ p ∈ items', p.1.Throughout (Checked.Expr.Fits classes env.ambient) ∧
        p.2.Throughout (Checked.Expr.Fits classes env.ambient) := by
  -- The types that are shared so far vary along the way; those in the end do not.
  induction items generalizing items' key value with
  | nil =>
    rw [entries] at h
    cases h
    exact ⟨rfl, rfl, fun p hp => nomatch hp⟩
  | cons item items ih =>
    obtain ⟨k, v⟩ := item
    rw [entries] at h
    obtain ⟨k', hk, h⟩ := bind_eq_ok_iff.mp h
    obtain ⟨v', hv, h⟩ := bind_eq_ok_iff.mp h
    obtain ⟨nextKey, hkey, h⟩ := bind_eq_ok_iff.mp h
    obtain ⟨nextValue, hvalue, h⟩ := bind_eq_ok_iff.mp h
    obtain ⟨⟨rest, lastKey, lastValue⟩, hrest, h⟩ := bind_eq_ok_iff.mp h
    cases h
    obtain ⟨hkeys, hvalues, hrest⟩ := ih (fun p hp => hitems p (List.mem_cons_of_mem _ hp)) hrest
    obtain ⟨hkfits, hvfits⟩ := hitems (k, v) List.mem_cons_self
    refine ⟨?_, ?_, List.forall_mem_cons.mpr ⟨⟨hkfits henv hk, hvfits henv hv⟩, hrest⟩⟩
    · rw [List.map_cons, List.foldlM_cons, Rule.join_eq_ok_iff.mp hkey]
      exact hkeys
    · rw [List.map_cons, List.foldlM_cons, Rule.join_eq_ok_iff.mp hvalue]
      exact hvalues

/-- **Checked expressions are well typed**, at every node. -/
theorem expr_fits (e : Expr) : e.CheckedWell := by
  intro env classes e' henv h
  -- Each case takes the computation apart in the order in which its parts succeeded;
  -- the rules that were applied on the way are the typing of the node.
  induction e generalizing env classes e' with
  | literal value span =>
    rw [expr] at h
    obtain ⟨inner, -, -, h⟩ := henv.descend h
    obtain rfl := Except.ok.inj h
    exact .intro ⟨rfl, fun _ he => nomatch he⟩ fun c hc => nomatch hc
  | symbol name span =>
    rw [expr] at h
    obtain ⟨inner, hinner, -, h⟩ := henv.descend h
    obtain ⟨entity, hres, h⟩ := bind_eq_ok_iff.mp h
    obtain ⟨ty, hty, h⟩ := bind_eq_ok_iff.mp h
    obtain rfl := Except.ok.inj h
    have hbound := hinner.bindable hres
    refine .intro ⟨⟨require_eq_ok_iff.mp hty, hbound.name⟩, ?_⟩ fun c hc => nomatch hc
    exact fun _ he => Option.some.inj he ▸ hbound.settled
  | self span =>
    rw [expr] at h
    obtain ⟨inner, -, hamb, h⟩ := henv.descend h
    obtain ⟨cls, hcls, h⟩ := bind_eq_ok_iff.mp h
    obtain rfl := Except.ok.inj h
    rw [← hamb]
    exact .intro ⟨⟨require_eq_ok_iff.mp hcls, rfl⟩, fun _ he => nomatch he⟩ fun c hc => nomatch hc
  | binary op left right span ihl ihr =>
    rw [expr] at h
    obtain ⟨inner, hinner, hamb, h⟩ := henv.descend h
    obtain ⟨l, hl, h⟩ := bind_eq_ok_iff.mp h
    obtain ⟨r, hr, h⟩ := bind_eq_ok_iff.mp h
    obtain ⟨ty, hty, h⟩ := bind_eq_ok_iff.mp h
    obtain rfl := Except.ok.inj h
    rw [← hamb]
    refine .intro ⟨Rule.binary_eq_ok hty, fun _ he => nomatch he⟩ ?_
    exact List.forall_mem_cons.mpr ⟨ihl hinner hl, List.forall_mem_singleton.mpr (ihr hinner hr)⟩
  | unary op operand span ih =>
    rw [expr] at h
    obtain ⟨inner, hinner, hamb, h⟩ := henv.descend h
    obtain ⟨x, hx, h⟩ := bind_eq_ok_iff.mp h
    obtain ⟨ty, hty, h⟩ := bind_eq_ok_iff.mp h
    obtain rfl := Except.ok.inj h
    rw [← hamb]
    refine .intro ⟨Rule.unary_eq_ok hty, fun _ he => nomatch he⟩ ?_
    exact List.forall_mem_singleton.mpr (ih hinner hx)
  | conditional test consequent alternate span iht ihc iha =>
    rw [expr] at h
    obtain ⟨inner, hinner, hamb, h⟩ := henv.descend h
    obtain ⟨t, ht, h⟩ := bind_eq_ok_iff.mp h
    obtain ⟨_, hbool, h⟩ := bind_eq_ok_iff.mp h
    obtain ⟨x, hx, h⟩ := bind_eq_ok_iff.mp h
    obtain ⟨y, hy, h⟩ := bind_eq_ok_iff.mp h
    obtain ⟨ty, hty, h⟩ := bind_eq_ok_iff.mp h
    obtain rfl := Except.ok.inj h
    rw [← hamb]
    have htest := Rule.boolean_eq_ok_iff.mp hbool
    refine .intro ⟨⟨htest, Rule.join_eq_ok_iff.mp hty⟩, fun _ he => nomatch he⟩ ?_
    exact List.forall_mem_cons.mpr ⟨iht hinner ht, List.forall_mem_cons.mpr
      ⟨ihc hinner hx, List.forall_mem_singleton.mpr (iha hinner hy)⟩⟩
  | call callee args span ihc ihs =>
    rw [expr] at h
    obtain ⟨inner, hinner, hamb, h⟩ := henv.descend h
    obtain ⟨f, hf, h⟩ := bind_eq_ok_iff.mp h
    obtain ⟨signature, hsig, h⟩ := bind_eq_ok_iff.mp h
    obtain ⟨xs, hxs, h⟩ := bind_eq_ok_iff.mp h
    obtain rfl := Except.ok.inj h
    rw [← hamb]
    obtain ⟨haccepts, hxs⟩ := passed_fits hinner ihs hxs
    have hcallee := Rule.callee_eq_ok_iff.mp hsig
    refine .intro ⟨⟨hcallee, haccepts, rfl⟩, fun _ he => nomatch he⟩ ?_
    exact List.forall_mem_cons.mpr ⟨ihc hinner hf, hxs⟩
  | subscript array index span iha ihi =>
    rw [expr] at h
    obtain ⟨inner, hinner, hamb, h⟩ := henv.descend h
    obtain ⟨x, hx, h⟩ := bind_eq_ok_iff.mp h
    obtain ⟨i, hi, h⟩ := bind_eq_ok_iff.mp h
    obtain ⟨ty, hty, h⟩ := bind_eq_ok_iff.mp h
    obtain rfl := Except.ok.inj h
    rw [← hamb]
    refine .intro ⟨Rule.subscript_eq_ok hty, fun _ he => nomatch he⟩ ?_
    exact List.forall_mem_cons.mpr ⟨iha hinner hx, List.forall_mem_singleton.mpr (ihi hinner hi)⟩
  | array elements span ihs =>
    rw [expr] at h
    obtain ⟨inner, hinner, hamb, h⟩ := henv.descend h
    obtain ⟨xs, hxs, h⟩ := bind_eq_ok_iff.mp h
    obtain ⟨ty, hty, h⟩ := bind_eq_ok_iff.mp h
    obtain rfl := Except.ok.inj h
    rw [← hamb]
    have hshared := Rule.elements_eq_ok_iff.mp hty
    exact .intro ⟨⟨ty, hshared, rfl⟩, fun _ he => nomatch he⟩ (exprs_fits hinner ihs hxs)
  | map items span ihs =>
    rw [expr] at h
    obtain ⟨inner, hinner, hamb, h⟩ := henv.descend h
    obtain ⟨⟨xs, key, value⟩, hxs, h⟩ := bind_eq_ok_iff.mp h
    obtain rfl := Except.ok.inj h
    rw [← hamb]
    obtain ⟨hkey, hvalue, hxs⟩ := entries_fits hinner ihs hxs
    refine .intro ⟨⟨key, value, hkey, hvalue, rfl⟩, fun _ he => nomatch he⟩ ?_
    intro c hc
    obtain ⟨p, hp, hc⟩ := List.mem_flatMap.mp hc
    obtain ⟨hk, hv⟩ := hxs p hp
    exact List.forall_mem_cons.mpr ⟨hk, List.forall_mem_singleton.mpr hv⟩ c hc
  | member object name span ih =>
    rw [expr] at h
    obtain ⟨inner, hinner, hamb, h⟩ := henv.descend h
    obtain ⟨x, hx, h⟩ := bind_eq_ok_iff.mp h
    obtain ⟨cls, hcls, h⟩ := bind_eq_ok_iff.mp h
    obtain ⟨ty, hty, h⟩ := bind_eq_ok_iff.mp h
    obtain rfl := Except.ok.inj h
    rw [← hamb]
    have hobject := Rule.object_eq_ok_iff.mp hcls
    refine .intro ⟨⟨cls, hobject, require_eq_ok_iff.mp hty⟩, fun _ he => nomatch he⟩ ?_
    exact List.forall_mem_singleton.mpr (ih hinner hx)
  | methodCall object name args span ih ihs =>
    rw [expr] at h
    obtain ⟨inner, hinner, hamb, h⟩ := henv.descend h
    obtain ⟨x, hx, h⟩ := bind_eq_ok_iff.mp h
    obtain ⟨cls, hcls, h⟩ := bind_eq_ok_iff.mp h
    obtain ⟨signature, hsig, h⟩ := bind_eq_ok_iff.mp h
    obtain ⟨xs, hxs, h⟩ := bind_eq_ok_iff.mp h
    obtain rfl := Except.ok.inj h
    rw [← hamb]
    obtain ⟨haccepts, hxs⟩ := passed_fits hinner ihs hxs
    have hobject := Rule.object_eq_ok_iff.mp hcls
    have hmethod := require_eq_ok_iff.mp hsig
    refine .intro ⟨⟨cls, hobject, hmethod, haccepts, rfl⟩, fun _ he => nomatch he⟩ ?_
    exact List.forall_mem_cons.mpr ⟨ih hinner hx, hxs⟩
  | construct className args span ihs =>
    rw [expr] at h
    obtain ⟨inner, hinner, hamb, h⟩ := henv.descend h
    obtain ⟨entity, hres, h⟩ := bind_eq_ok_iff.mp h
    obtain ⟨cls, hcls, h⟩ := bind_eq_ok_iff.mp h
    obtain ⟨xs, hxs, h⟩ := bind_eq_ok_iff.mp h
    obtain rfl := Except.ok.inj h
    rw [← hamb]
    obtain ⟨haccepts, hxs⟩ := passed_fits hinner ihs hxs
    have hdeclared := (hinner.bindable hres).declared cls (require_eq_ok_iff.mp hcls)
    exact .intro ⟨⟨hdeclared, haccepts, rfl⟩, fun _ he => nomatch he⟩ hxs

end Lexical

end Shipshape
