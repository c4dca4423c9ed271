import Shipshape.Proofs.Checked.Relabel
import Shipshape.Proofs.Induction
import Shipshape.Proofs.Lexical.Check
import Shipshape.Proofs.Tree.Names

/-!
# Two places that look alike to an expression

Two runs of the lexical checker, in two environments, go side by side. The numbers that the
second run gives to entities are those of the first under a function `r`.

* `Shipshape.Lexical.Env.Coincides` – in two environments some names stand for the same, and
  what surrounds the place is the same;
* `Shipshape.Lexical.Paired` – two results are the same failure, or successes with values in
  a relation;
* `Shipshape.Lexical.expr_paired` – by induction over expressions: environments that coincide
  on the names of an expression give it the same checked form, up to numbers.

Nothing is asked of names that do not occur in the expression, nor of how many frames there
are and which of them has a name.
-/

namespace Shipshape

/-! ### Environments -/

/-- **What surrounds two places is the same**, up to the number of the function. -/
structure Ambient.Coincides (a a' : Ambient) : Prop where
  /-- The loop. -/
  inLoop : a'.inLoop = a.inLoop
  /-- The function. -/
  function : a'.function.map Entity.binding = a.function.map Entity.binding
  /-- The class. -/
  cls : a'.cls = a.cls

namespace Ambient.Coincides

variable {a a' : Ambient}

theorem loop (h : a.Coincides a') : a.loop.Coincides a'.loop := ⟨rfl, h.function, h.cls⟩

theorem inFunction (h : a.Coincides a') (r : Nat → Nat) (f : Entity) :
    (a.inFunction f).Coincides (a'.inFunction (f.relabel r)) :=
  ⟨rfl, rfl, h.cls⟩

theorem inClass (h : a.Coincides a') (c : ClassRef) : (a.inClass c).Coincides (a'.inClass c) :=
  ⟨h.inLoop, h.function, rfl⟩

end Ambient.Coincides

/-- Looking up a name, where every entity has another number. -/
theorem lookup_map_relabelBinding (r : Nat → Nat) (names : List (String × Entity)) (name : String) :
    (names.map (relabelBinding r)).lookup name = (names.lookup name).map (Entity.relabel r) := by
  induction names with
  | nil => rfl
  | cons b names ih =>
    rw [List.map_cons, List.lookup_cons, List.lookup_cons, ih]
    cases hname : name == b.1 <;> simp [relabelBinding, hname]

namespace Lexical

variable {r : Nat → Nat} {known : List String}

/-- **A frame is another up to numbers.** -/
structure Frame.Relabels (r : Nat → Nat) (frame frame' : Frame) : Prop where
  /-- The names. -/
  names : frame'.names = frame.names.map (relabelBinding r)
  /-- What surrounds the region. -/
  ambient : frame.ambient.Coincides frame'.ambient

namespace Frame.Relabels

variable {frame frame' : Frame}

theorem empty {a a' : Ambient} (h : a.Coincides a') :
    (Frame.empty a).Relabels r (Frame.empty a') :=
  ⟨rfl, h⟩

theorem lookup (h : frame.Relabels r frame') (name : String) :
    frame'.lookup name = (frame.lookup name).map (Entity.relabel r) := by
  rw [Frame.lookup, h.names, lookup_map_relabelBinding, Frame.lookup]

theorem extend (h : frame.Relabels r frame') (b : String × Entity) :
    (frame.extend [b]).Relabels r (frame'.extend [relabelBinding r b]) := by
  refine ⟨?_, h.ambient⟩
  rw [Frame.extend, Frame.extend, h.names]
  rfl

end Frame.Relabels

/-- **Two environments coincide** on the names in `known`: what surrounds the place and how
deep it is are the same, and these names stand for the same entities, up to their numbers. -/
structure Env.Coincides (r : Nat → Nat) (known : List String) (env env' : Env) : Prop where
  /-- What surrounds the place. -/
  ambient : env.ambient.Coincides env'.ambient
  /-- How deep the place is nested. -/
  level : env'.level = env.level
  /-- How deep it may be. -/
  limit : env'.limit = env.limit
  /-- What the names stand for. -/
  find : ∀ name ∈ known, env'.find? name = (env.find? name).map (Entity.relabel r)

/-- A region inside looks at its own names first. -/
theorem Env.find?_push (env : Env) (frame : Frame) (name : String) :
    (env.push frame).find? name = (frame.lookup name).or (env.find? name) := by
  show (frame :: env.frames).findSome? (·.lookup name) = _
  rw [List.findSome?_cons, Env.find?]
  cases frame.lookup name <;> rfl

/-- A declaration comes before all names. -/
theorem Env.find?_extend (env : Env) (b : String × Entity) (name : String) :
    (env.extend [b]).find? name = if name == b.1 then some b.2 else env.find? name := by
  show (env.frame.extend [b] :: env.outer).findSome? (·.lookup name) = _
  rw [List.findSome?_cons, Env.find?, Env.frames, List.findSome?_cons, Frame.lookup, Frame.extend,
    List.singleton_append, List.lookup_cons, Frame.lookup]
  cases name == b.1 <;> rfl

/-- **Two frames have the same names.** -/
def Env.SameNames (env env' : Env) : Prop :=
  ∀ name, env.frame.lookup name = none ↔ env'.frame.lookup name = none

namespace Env.Coincides

variable {env env' : Env}

/-- What is seen from a region inside. -/
theorem push (h : env.Coincides r known env') {frame frame' : Frame}
    (hframe : frame.Relabels r frame') :
    (env.push frame).Coincides r known (env'.push frame') := by
  refine ⟨hframe.ambient, h.level, h.limit, fun name hname => ?_⟩
  rw [find?_push, find?_push, hframe.lookup, h.find name hname, Option.map_or]

/-- What is seen after a declaration. -/
theorem extend (h : env.Coincides r known env') (b : String × Entity) :
    (env.extend [b]).Coincides r known (env'.extend [relabelBinding r b]) := by
  refine ⟨h.ambient, h.level, h.limit, fun name hname => ?_⟩
  rw [find?_extend, find?_extend, h.find name hname]
  cases hb : name == b.1 <;> simp [relabelBinding, hb]

end Env.Coincides

/-- A region inside has the same names as another, up to numbers. -/
theorem Frame.Relabels.sameNames {frame frame' : Frame} (h : frame.Relabels r frame')
    (env env' : Env) : (env.push frame).SameNames (env'.push frame') := by
  intro name
  show frame.lookup name = none ↔ frame'.lookup name = none
  rw [h.lookup, Option.map_eq_none_iff]

theorem Env.SameNames.extend {env env' : Env} (h : env.SameNames env') (b : String × Entity) :
    (env.extend [b]).SameNames (env'.extend [relabelBinding r b]) := by
  intro name
  show (env.frame.extend [b]).lookup name = none ↔
    (env'.frame.extend [relabelBinding r b]).lookup name = none
  have hframe := h name
  rw [Frame.lookup, Frame.lookup] at hframe ⊢
  rw [Frame.extend, Frame.extend, List.singleton_append, List.singleton_append, List.lookup_cons,
    List.lookup_cons]
  cases hb : name == b.1 <;> simp [relabelBinding, hb, hframe]

/-! ### Results -/

variable {α β γ δ : Type}

/-- **Two results are paired**: both fail with one diagnostic, or both succeed with values in
the relation `R`. -/
inductive Paired (R : α → β → Prop) : Except Diagnostic α → Except Diagnostic β → Prop
  /-- Two successes. -/
  | ok {a : α} {b : β} : R a b → Paired R (.ok a) (.ok b)
  /-- Two failures. -/
  | error {d : Diagnostic} : Paired R (.error d) (.error d)

namespace Paired

variable {R : α → β → Prop} {Q : γ → δ → Prop}

theorem bind {x : Except Diagnostic α} {x' : Except Diagnostic β} {f : α → Except Diagnostic γ}
    {f' : β → Except Diagnostic δ} (hx : Paired R x x')
    (hf : ∀ a b, R a b → Paired Q (f a) (f' b)) : Paired Q (x >>= f) (x' >>= f') := by
  cases hx with
  | ok hab => exact hf _ _ hab
  | error => exact .error

/-- The same result may come first. -/
theorem rule {x x' : Except Diagnostic α} {f : α → Except Diagnostic γ}
    {f' : α → Except Diagnostic δ} (hx : x' = x) (hf : ∀ a, Paired Q (f a) (f' a)) :
    Paired Q (x >>= f) (x' >>= f') := by
  subst hx
  cases x' with
  | ok a => exact hf a
  | error d => exact .error

theorem refl (x : Except Diagnostic α) : Paired Eq x x := by
  cases x with
  | ok a => exact .ok rfl
  | error d => exact .error

end Paired

variable {env env' : Env}

/-- One level deeper the two places still coincide. -/
theorem Env.Coincides.descend (h : env.Coincides r known env') (span : Span) :
    Paired (fun inner inner' => inner.Coincides r known inner' ∧ inner.frame = env.frame ∧
      inner'.frame = env'.frame) (env.descend span) (env'.descend span) := by
  rw [Env.descend, Env.descend, h.level, h.limit]
  split
  · exact .ok ⟨⟨h.ambient, rfl, rfl, h.find⟩, rfl, rfl⟩
  · exact .error

theorem Env.Coincides.resolve (h : env.Coincides r known env') {name : String}
    (hname : name ∈ known) (span : Span) :
    Paired (fun e e' => e' = e.relabel r) (env.resolve name span) (env'.resolve name span) := by
  rw [Env.resolve, Env.resolve, h.find name hname]
  cases env.find? name with
  | some entity => exact .ok rfl
  | none => exact .error

/-! ### Types as written -/

theorem convertList_eq {as : List TypeExpr}
    (has : ∀ a ∈ as, a.names ⊆ known → env'.convert a = env.convert a)
    (hnames : typeExprsNames as ⊆ known) : env'.convertList as = env.convertList as := by
  induction as with
  | nil => rw [Env.convertList, Env.convertList]
  | cons a as ih =>
    rw [typeExprsNames] at hnames
    obtain ⟨ha, hrest⟩ := List.append_subset.mp hnames
    obtain ⟨hhead, htail⟩ := List.forall_mem_cons.mp has
    rw [Env.convertList, Env.convertList, hhead ha, ih htail hrest]

/-- **A type as written stands for the same type** in both places. -/
theorem convert_eq (h : env.Coincides r known env') {a : TypeExpr} (hnames : a.names ⊆ known) :
    env'.convert a = env.convert a := by
  induction a with
  | name name span =>
    have hname : name ∈ known := hnames (by simp [TypeExpr.names])
    rw [Env.convert, Env.convert, Env.resolve, Env.resolve, h.find name hname]
    cases env.find? name <;> rfl
  | array element ih =>
    rw [Env.convert, Env.convert, ih (by rwa [TypeExpr.names] at hnames)]
  | map key value ihk ihv =>
    rw [TypeExpr.names] at hnames
    obtain ⟨hk, hv⟩ := List.append_subset.mp hnames
    rw [Env.convert, Env.convert, ihk hk, ihv hv]
  | function params result ihps ihr =>
    rw [TypeExpr.names] at hnames
    obtain ⟨hps, hr⟩ := List.append_subset.mp hnames
    rw [Env.convert, Env.convert, convertList_eq (fun a ha => ihps a ha) hps, ihr hr]

theorem convertResult_eq (h : env.Coincides r known env') {a : Option TypeExpr}
    (hnames : optionNames a ⊆ known) : env'.convertResult a = env.convertResult a := by
  cases a with
  | none => rfl
  | some a => exact convert_eq h hnames

theorem convertParams_eq (h : env.Coincides r known env') {params : List Param}
    (hnames : paramTypeNames params ⊆ known) :
    env'.convertParams params = env.convertParams params :=
  convertList_eq (fun _ _ => convert_eq h) hnames

/-! ### Expressions -/

/-- The two places give the expression the same checked form, up to numbers. -/
def Matched (r : Nat → Nat) (known : List String) (e : Expr) : Prop :=
  ∀ {env env' : Env} {classes : ClassTable}, env.Coincides r known env' → e.names ⊆ known →
    Paired (fun x x' => x' = x.relabel r) (expr env classes e) (expr env' classes e)

theorem exprs_paired {classes : ClassTable} {es : List Expr} (hes : ∀ e ∈ es, Matched r known e)
    (h : env.Coincides r known env') (hnames : exprsNames es ⊆ known) :
    Paired (fun xs xs' => xs' = Checked.relabelExprs r xs) (exprs env classes es)
      (exprs env' classes es) := by
  induction es with
  | nil =>
    rw [exprs, exprs]
    exact .ok (by rw [Checked.relabelExprs])
  | cons e es ih =>
    rw [exprsNames] at hnames
    obtain ⟨hnames, hrest⟩ := List.append_subset.mp hnames
    obtain ⟨he, hes⟩ := List.forall_mem_cons.mp hes
    rw [exprs, exprs]
    refine .bind (he h hnames) fun x x' hx => .bind (ih hes hrest) fun xs xs' hxs => .ok ?_
    rw [hx, hxs, Checked.relabelExprs]

theorem passed_paired {classes : ClassTable} {es : List Expr} (hes : ∀ e ∈ es, Matched r known e)
    (h : env.Coincides r known env') (hnames : exprsNames es ⊆ known) (signature : Signature)
    (span : Span) :
    Paired (fun xs xs' => xs' = Checked.relabelExprs r xs)
      (passed signature span (exprs env classes es))
      (passed signature span (exprs env' classes es)) := by
  rw [passed, passed]
  refine .bind (exprs_paired hes h hnames) fun xs xs' hxs => ?_
  subst hxs
  exact .rule (Rule.arguments_relabel ..) fun _ => .ok rfl

theorem entries_paired {classes : ClassTable} {items : List (Expr × Expr)}
    (hitems : ∀ q ∈ items, Matched r known q.1 ∧ Matched r known q.2)
    (h : env.Coincides r known env') (hnames : entriesNames items ⊆ known) (key value : Ty) :
    Paired (fun q q' => q' = (Checked.relabelEntries r q.1, q.2))
      (entries env classes key value items) (entries env' classes key value items) := by
  induction items generalizing key value with
  | nil =>
    rw [entries, entries]
    exact .ok (by rw [Checked.relabelEntries])
  | cons item items ih =>
    obtain ⟨k, v⟩ := item
    rw [entriesNames] at hnames
    obtain ⟨hnames, hrest⟩ := List.append_subset.mp hnames
    obtain ⟨hkn, hvn⟩ := List.append_subset.mp hnames
    obtain ⟨⟨hk, hv⟩, hitems⟩ := List.forall_mem_cons.mp hitems
    rw [entries, entries]
    refine .bind (hk h hkn) fun k k' hk' => .bind (hv h hvn) fun v v' hv' => ?_
    subst hk' hv'
    refine .rule (Rule.join_relabel ..) fun key => .rule (Rule.join_relabel ..) fun value => ?_
    refine .bind (ih hitems hrest key value) fun q q' hq => ?_
    subst hq
    exact .ok (by rw [Checked.relabelEntries])

/-- **Places that coincide on the names of an expression give it the same checked form**, up
to numbers, or refuse it for the same reason. -/
theorem expr_paired (r : Nat → Nat) (known : List String) (e : Expr) : Matched r known e := by
  intro env env' classes h hnames
  induction e generalizing env env' classes with
  | literal value span =>
    rw [expr, expr]
    exact .bind (h.descend span) fun _ _ _ => .ok (by rw [Checked.Expr.relabel])
  | symbol name span =>
    rw [expr, expr]
    refine .bind (h.descend span) fun inner inner' hi => ?_
    refine .bind (hi.1.resolve (hnames (by simp [Expr.names])) span) fun e e' he => ?_
    subst he
    exact .rule rfl fun ty => .ok (by rw [Checked.Expr.relabel])
  | self span =>
    rw [expr, expr]
    refine .bind (h.descend span) fun inner inner' hi => ?_
    exact .rule (by rw [hi.1.ambient.cls]) fun cls => .ok (by rw [Checked.Expr.relabel])
  | binary op left right span ihl ihr =>
    rw [Expr.names] at hnames
    obtain ⟨hl, hr⟩ := List.append_subset.mp hnames
    rw [expr, expr]
    refine .bind (h.descend span) fun inner inner' hi => ?_
    refine .bind (ihl hi.1 hl) fun l l' hl' => .bind (ihr hi.1 hr) fun x x' hx' => ?_
    subst hl' hx'
    exact .rule (Rule.binary_relabel ..) fun ty => .ok (by rw [Checked.Expr.relabel])
  | unary op operand span ih =>
    rw [Expr.names] at hnames
    rw [expr, expr]
    refine .bind (h.descend span) fun inner inner' hi => ?_
    refine .bind (ih hi.1 hnames) fun x x' hx => ?_
    subst hx
    exact .rule (Rule.unary_relabel ..) fun ty => .ok (by rw [Checked.Expr.relabel])
  | conditional test consequent alternate span iht ihc iha =>
    rw [Expr.names] at hnames
    obtain ⟨hnames, ha⟩ := List.append_subset.mp hnames
    obtain ⟨ht, hc⟩ := List.append_subset.mp hnames
    rw [expr, expr]
    refine .bind (h.descend span) fun inner inner' hi => ?_
    refine .bind (iht hi.1 ht) fun t t' ht' => ?_
    subst ht'
    refine .rule (Rule.boolean_relabel ..) fun _ => ?_
    refine .bind (ihc hi.1 hc) fun x x' hx => .bind (iha hi.1 ha) fun y y' hy => ?_
    subst hx hy
    exact .rule (by simp) fun ty => .ok (by rw [Checked.Expr.relabel])
  | call callee args span ihc ihs =>
    rw [Expr.names] at hnames
    obtain ⟨hc, hs⟩ := List.append_subset.mp hnames
    rw [expr, expr]
    refine .bind (h.descend span) fun inner inner' hi => ?_
    refine .bind (ihc hi.1 hc) fun f f' hf => ?_
    subst hf
    refine .rule (Rule.callee_relabel ..) fun signature => ?_
    refine .bind (passed_paired ihs hi.1 hs signature span) fun xs xs' hxs => ?_
    subst hxs
    exact .ok (by rw [Checked.Expr.relabel])
  | subscript array index span iha ihi =>
    rw [Expr.names] at hnames
    obtain ⟨ha, hidx⟩ := List.append_subset.mp hnames
    rw [expr, expr]
    refine .bind (h.descend span) fun inner inner' hi => ?_
    refine .bind (iha hi.1 ha) fun x x' hx => .bind (ihi hi.1 hidx) fun y y' hy => ?_
    subst hx hy
    exact .rule (Rule.subscript_relabel ..) fun ty => .ok (by rw [Checked.Expr.relabel])
  | array elements span ihs =>
    rw [Expr.names] at hnames
    rw [expr, expr]
    refine .bind (h.descend span) fun inner inner' hi => ?_
    refine .bind (exprs_paired ihs hi.1 hnames) fun xs xs' hxs => ?_
    subst hxs
    exact .rule (Rule.elements_relabel ..) fun ty => .ok (by rw [Checked.Expr.relabel])
  | map items span ihs =>
    rw [Expr.names] at hnames
    rw [expr, expr]
    refine .bind (h.descend span) fun inner inner' hi => ?_
    refine .bind (entries_paired ihs hi.1 hnames .any .any) fun q q' hq => ?_
    subst hq
    exact .ok (by rw [Checked.Expr.relabel])
  | member object name span ih =>
    rw [Expr.names] at hnames
    rw [expr, expr]
    refine .bind (h.descend span) fun inner inner' hi => ?_
    refine .bind (ih hi.1 hnames) fun x x' hx => ?_
    subst hx
    refine .rule (Rule.object_relabel ..) fun cls => .rule rfl fun ty => ?_
    exact .ok (by rw [Checked.Expr.relabel])
  | methodCall object name args span ih ihs =>
    rw [Expr.names] at hnames
    obtain ⟨ho, hs⟩ := List.append_subset.mp hnames
    rw [expr, expr]
    refine .bind (h.descend span) fun inner inner' hi => ?_
    refine .bind (ih hi.1 ho) fun x x' hx => ?_
    subst hx
    refine .rule (Rule.object_relabel ..) fun cls => .rule rfl fun signature => ?_
    refine .bind (passed_paired ihs hi.1 hs signature span) fun xs xs' hxs => ?_
    subst hxs
    exact .ok (by rw [Checked.Expr.relabel])
  | construct className args span ihs =>
    rw [Expr.names] at hnames
    obtain ⟨hc, hs⟩ := List.cons_subset.mp hnames
    rw [expr, expr]
    refine .bind (h.descend span) fun inner inner' hi => ?_
    refine .bind (hi.1.resolve hc span) fun e e' he => ?_
    subst he
    refine .rule rfl fun cls => ?_
    refine .bind (passed_paired ihs hi.1 hs (classes.info cls).ctor span) fun xs xs' hxs => ?_
    subst hxs
    exact .ok (by rw [Checked.Expr.relabel])

end Lexical

end Shipshape
