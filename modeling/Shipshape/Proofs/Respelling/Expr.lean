import Shipshape.Proofs.Lexical.Check
import Shipshape.Proofs.Respelling.Rule

/-!
# Expressions in a respelled place

* `Shipshape.Lexical.Env.respell` – an environment in which every name is respelled, and with it
  what the name stands for;
* `Shipshape.Lexical.Env.find?_respell` – a respelled name stands for what the name stands for,
  respelled;
* `Shipshape.Lexical.expr_echoes` – by induction over expressions: in a respelled place, a check
  says the same about a respelled expression.

A name is found by comparing it with other names, so all that matters is that different names
stay different (`Shipshape.lookup_respell`). The names of a program and the built-in names lie in
one table, which is why the latter have to stay: at the root, a respelling changes nothing
(`Shipshape.Lexical.Env.respell_root`).
-/

namespace Shipshape

variable {f : Respelling}

/-! ### Names and members -/

/-- **A respelled name is found where the name was.** -/
theorem lookup_respell {α β : Type} (g : α → β) (table : List (String × α)) (name : String) :
    (table.map (Prod.map f.name g)).lookup (f.name name) = (table.lookup name).map g := by
  induction table with
  | nil => rfl
  | cons b table ih =>
    have hname : (f.name name == f.name b.1) = (name == b.1) := by
      rw [Bool.eq_iff_iff, beq_iff_eq, beq_iff_eq, f.name_injective.eq_iff]
    rw [List.map_cons, List.lookup_cons, List.lookup_cons, Prod.map_fst, hname, ih]
    cases name == b.1 <;> rfl

namespace ClassInfo

theorem field?_respell (c : ClassInfo) (name : String) :
    (c.respell f).field? (f.name name) = (c.field? name).map (Ty.respell f) :=
  lookup_respell ..

theorem method?_respell (c : ClassInfo) (name : String) :
    (c.respell f).method? (f.name name) = (c.method? name).map (Signature.respell f) := by
  rw [method?, method?, respell, lookup_respell, Option.map_bind, Option.bind_map]
  exact Option.bind_congr fun ty _ => ty.signature?_respell f

theorem respell_new (name : String) : (ClassInfo.new name).respell f = .new (f.name name) := by
  simp [ClassInfo.respell, ClassInfo.new, Signature.respell]

end ClassInfo

theorem ClassTable.info_respell (t : ClassTable) (cls : ClassRef) :
    (t.respell f).info (cls.respell f) = (t.info cls).respell f := by
  rw [ClassTable.info, ClassTable.info, ClassTable.respell, ClassRef.respell, List.getElem?_map]
  cases t.infos[cls.id]? with
  | none => exact (ClassInfo.respell_new cls.name).symm
  | some info => rfl

/-! ### Environments -/

section Environments

variable (f : Respelling)

/-- What surrounds a region, respelled. -/
def Ambient.respell (a : Ambient) : Ambient :=
  ⟨a.inLoop, a.function.map (Entity.respell f), a.cls.map (ClassRef.respell f)⟩

/-- A name with its entity, respelled. -/
def respellBinding : String × Entity → String × Entity := Prod.map f.name (Entity.respell f)

namespace Lexical

/-- The frame in which every name is respelled. -/
def Frame.respell (frame : Frame) : Frame :=
  ⟨frame.names.map (respellBinding f), frame.ambient.respell f⟩

/-- **The environment in which every name is respelled.** -/
def Env.respell (env : Env) : Env :=
  ⟨env.frame.respell f, env.outer.map (Frame.respell f), env.level, env.limit⟩

theorem Env.respell_push (env : Env) (frame : Frame) :
    (env.push frame).respell f = (env.respell f).push (frame.respell f) := rfl

theorem Frame.respell_extend (frame : Frame) (names : List (String × Entity)) :
    (frame.extend names).respell f = (frame.respell f).extend (names.map (respellBinding f)) := by
  simp [Frame.respell, Frame.extend]

theorem Env.respell_extend (env : Env) (names : List (String × Entity)) :
    (env.extend names).respell f = (env.respell f).extend (names.map (respellBinding f)) := by
  rw [Env.respell, Env.extend, Frame.respell_extend]
  rfl

/-- **The built-in names stay.** -/
theorem Env.respell_root (limit : Nat) : (Env.root limit).respell f = .root limit := by
  have hnames : builtInEntities.map (respellBinding f) = builtInEntities := by
    rw [builtInEntities, List.map_map]
    refine List.map_congr_left fun b hb => ?_
    have hkind := f.name_builtIn b.1 (List.fst_mem_of_mem_zipIdx hb)
    simp [respellBinding, Entity.respell, Binding.respell, hkind]
  rw [Env.root, Env.respell, Frame.root, Frame.respell, hnames]
  rfl

theorem Frame.lookup_respell (frame : Frame) (name : String) :
    (frame.respell f).lookup (f.name name) = (frame.lookup name).map (Entity.respell f) :=
  Shipshape.lookup_respell ..

/-- **A respelled name stands for what the name stands for.** -/
theorem Env.find?_respell (env : Env) (name : String) :
    (env.respell f).find? (f.name name) = (env.find? name).map (Entity.respell f) := by
  have hframes : (env.respell f).frames = env.frames.map (Frame.respell f) := rfl
  rw [Env.find?, Env.find?, hframes]
  induction env.frames with
  | nil => rfl
  | cons frame frames ih =>
    rw [List.map_cons, List.findSome?_cons, List.findSome?_cons, Frame.lookup_respell, ih]
    cases frame.lookup name <;> rfl

end Lexical

end Environments

namespace Lexical

variable {α β : Type} (f)

/-! ### Reading an environment -/

theorem descend_echoes (env : Env) (span : Span) :
    Echoes f (Env.respell f) (env.descend span) ((env.respell f).descend (span.respell f)) := by
  have hlevel : (env.respell f).level = env.level := rfl
  have hlimit : (env.respell f).limit = env.limit := rfl
  rw [Env.descend, Env.descend, hlevel, hlimit]
  split
  · exact .ok { env with level := env.level + 1 }
  · exact .error (.located (.nestingTooDeep _) span)

theorem resolve_echoes (env : Env) (name : String) (span : Span) :
    Echoes f (Entity.respell f) (env.resolve name span)
      ((env.respell f).resolve (f.name name) (span.respell f)) := by
  rw [Env.resolve, Env.resolve, Env.find?_respell]
  cases env.find? name with
  | some entity => exact .ok entity
  | none => exact .error (.located (.undeclaredIdentifier name) span)

variable {f} in
theorem require_echoes {g : α → β} {value : Option α} {value' : Option β}
    (hvalue : value' = value.map g) {c c' : Cause} (hc : c.Respells f c') (span : Span) :
    Echoes f g (require value c span) (require value' c' (span.respell f)) := by
  subst hvalue
  cases value with
  | some a => exact .ok a
  | none => exact .error (.located hc span)

theorem convertList_echoes {env : Env} {as : List TypeExpr}
    (has : ∀ a ∈ as, Echoes f (Ty.respell f) (env.convert a)
      ((env.respell f).convert (a.respell f))) :
    Echoes f (respellTys f) (env.convertList as)
      ((env.respell f).convertList (respellTypeExprs f as)) := by
  induction as with
  | nil =>
    rw [respellTypeExprs, Env.convertList, Env.convertList]
    exact .pure rfl
  | cons a as ih =>
    obtain ⟨ha, has⟩ := List.forall_mem_cons.mp has
    rw [respellTypeExprs, Env.convertList, Env.convertList]
    exact .bind ha fun ty => .bind (ih has) fun tys => .pure rfl

/-- **A respelled type expression denotes the type respelled.** -/
theorem convert_echoes (env : Env) (a : TypeExpr) :
    Echoes f (Ty.respell f) (env.convert a) ((env.respell f).convert (a.respell f)) := by
  induction a with
  | name name span =>
    rw [TypeExpr.respell, Env.convert, Env.convert]
    refine .bind (resolve_echoes f env name span) fun entity => ?_
    exact require_echoes entity.denotedType?_respell (.notAType name) span
  | array element ih =>
    rw [TypeExpr.respell, Env.convert, Env.convert]
    exact .bind ih fun ty => .pure rfl
  | map key value ihk ihv =>
    rw [TypeExpr.respell, Env.convert, Env.convert]
    exact .bind ihk fun k => .bind ihv fun v => .pure rfl
  | function params result ihp ihr =>
    rw [TypeExpr.respell, Env.convert, Env.convert]
    exact .bind (convertList_echoes f ihp) fun tys => .bind ihr fun ty => .pure rfl

theorem convertResult_echoes (env : Env) (a : Option TypeExpr) :
    Echoes f (Ty.respell f) (env.convertResult a)
      ((env.respell f).convertResult (a.map (TypeExpr.respell f))) := by
  cases a with
  | none => exact .pure rfl
  | some a => exact convert_echoes f env a

theorem convertParams_echoes (env : Env) (parameters : List Param) :
    Echoes f (respellTys f) (env.convertParams parameters)
      ((env.respell f).convertParams (parameters.map (Param.respell f))) := by
  have htypes : (parameters.map (Param.respell f)).map Param.typeExpr =
      respellTypeExprs f (parameters.map Param.typeExpr) := by
    induction parameters with
    | nil => rw [List.map_nil, List.map_nil, respellTypeExprs]
    | cons p ps ih =>
      rw [List.map_cons, List.map_cons, List.map_cons, respellTypeExprs, ih]
      rfl
  rw [Env.convertParams, Env.convertParams, htypes]
  exact convertList_echoes f fun a _ => convert_echoes f env a

/-! ### Expressions -/

/-- In every place, a check says the same about the expression when both are respelled. -/
def ExprEchoes (e : Expr) : Prop :=
  ∀ (env : Env) (classes : ClassTable), Echoes f (Checked.Expr.respell f) (expr env classes e)
    (expr (env.respell f) (classes.respell f) (e.respell f))

variable {f}

theorem exprs_echoes {es : List Expr} (hes : ∀ e ∈ es, ExprEchoes f e) (env : Env)
    (classes : ClassTable) : Echoes f (Checked.respellExprs f) (exprs env classes es)
      (exprs (env.respell f) (classes.respell f) (respellExprs f es)) := by
  induction es with
  | nil =>
    rw [respellExprs, exprs, exprs]
    exact .pure rfl
  | cons e es ih =>
    obtain ⟨he, hes⟩ := List.forall_mem_cons.mp hes
    rw [respellExprs, exprs, exprs]
    refine .bind (he env classes) fun d => .bind (ih hes) fun ds => ?_
    exact .pure rfl

theorem passed_echoes {es : List Expr} (hes : ∀ e ∈ es, ExprEchoes f e) (env : Env)
    (classes : ClassTable) (signature : Signature) (span : Span) :
    Echoes f (Checked.respellExprs f) (passed signature span (exprs env classes es))
      (passed (signature.respell f) (span.respell f)
        (exprs (env.respell f) (classes.respell f) (respellExprs f es))) := by
  refine .bind (exprs_echoes hes env classes) fun ds => ?_
  exact .bind (Rule.arguments_echoes f signature ds span) fun _ => .pure rfl

theorem entries_echoes {items : List (Expr × Expr)}
    (hitems : ∀ q ∈ items, ExprEchoes f q.1 ∧ ExprEchoes f q.2) (env : Env) (classes : ClassTable)
    (key value : Ty) :
    Echoes f (fun r => (Checked.respellEntries f r.1, r.2.1.respell f, r.2.2.respell f))
      (entries env classes key value items)
      (entries (env.respell f) (classes.respell f) (key.respell f) (value.respell f)
        (respellEntries f items)) := by
  induction items generalizing key value with
  | nil =>
    rw [respellEntries, entries, entries]
    exact .pure rfl
  | cons item items ih =>
    obtain ⟨k, v⟩ := item
    obtain ⟨⟨hk, hv⟩, hitems⟩ := List.forall_mem_cons.mp hitems
    rw [respellEntries, entries, entries]
    refine .bind (hk env classes) fun k' => .bind (hv env classes) fun v' => ?_
    refine .bind (Rule.join_echoes f key k') fun key' => ?_
    refine .bind (Rule.join_echoes f value v') fun value' => ?_
    refine .bind (ih hitems key' value') fun r => ?_
    exact .pure rfl

/-- **A check says the same about a respelled expression.** -/
theorem expr_echoes (e : Expr) : ExprEchoes f e := by
  intro env classes
  induction e generalizing env classes with
  | literal value span =>
    rw [Expr.respell, expr, expr]
    refine .bind (descend_echoes f env span) fun _ => .pure ?_
    have hty : value.ty.respell f = value.ty := by cases value <;> rfl
    rw [Checked.Expr.respell, hty, f.literal_ty]
  | symbol name span =>
    rw [Expr.respell, expr, expr]
    refine .bind (descend_echoes f env span) fun inner => ?_
    refine .bind (resolve_echoes f inner name span) fun entity => ?_
    refine .bind (require_echoes entity.valueType?_respell (.notAValue name) span) fun ty => ?_
    exact .pure rfl
  | self span =>
    rw [Expr.respell, expr, expr]
    refine .bind (descend_echoes f env span) fun inner => ?_
    refine .bind (require_echoes (g := ClassRef.respell f) rfl .selfOutsideClass span) fun cls => ?_
    exact .pure rfl
  | binary op left right span ihl ihr =>
    rw [Expr.respell, expr, expr]
    refine .bind (descend_echoes f env span) fun inner => ?_
    refine .bind (ihl inner classes) fun l => .bind (ihr inner classes) fun r => ?_
    refine .bind (Rule.binary_echoes f op l r) fun ty => ?_
    exact .pure rfl
  | unary op operand span ih =>
    rw [Expr.respell, expr, expr]
    refine .bind (descend_echoes f env span) fun inner => .bind (ih inner classes) fun x => ?_
    refine .bind (Rule.unary_echoes f op x) fun ty => ?_
    exact .pure rfl
  | conditional test consequent alternate span iht ihc iha =>
    rw [Expr.respell, expr, expr]
    refine .bind (descend_echoes f env span) fun inner => .bind (iht inner classes) fun t => ?_
    refine .bind (Rule.boolean_echoes f t) fun _ => ?_
    refine .bind (ihc inner classes) fun x => .bind (iha inner classes) fun y => ?_
    have hjoin := Rule.join_echoes f x.ty y
    rw [← x.ty_respell] at hjoin
    exact .bind hjoin fun ty => .pure rfl
  | call callee args span ihc ihs =>
    rw [Expr.respell, expr, expr]
    refine .bind (descend_echoes f env span) fun inner => .bind (ihc inner classes) fun g => ?_
    refine .bind (Rule.callee_echoes f g) fun signature => ?_
    refine .bind (passed_echoes ihs inner classes signature span) fun xs => .pure ?_
    rw [Checked.Expr.respell]
    rfl
  | subscript array index span iha ihi =>
    rw [Expr.respell, expr, expr]
    refine .bind (descend_echoes f env span) fun inner => ?_
    refine .bind (iha inner classes) fun a => .bind (ihi inner classes) fun i => ?_
    refine .bind (Rule.subscript_echoes f a i) fun ty => ?_
    exact .pure rfl
  | array elements span ihs =>
    rw [Expr.respell, expr, expr]
    refine .bind (descend_echoes f env span) fun inner => ?_
    refine .bind (exprs_echoes ihs inner classes) fun xs => ?_
    have helements := Rule.elements_echoes f .any xs
    rw [Ty.respell_scalar] at helements
    exact .bind helements fun ty => .pure rfl
  | map items span ihs =>
    rw [Expr.respell, expr, expr]
    refine .bind (descend_echoes f env span) fun inner => ?_
    have hentries := entries_echoes ihs inner classes .any .any
    rw [Ty.respell_scalar] at hentries
    exact .bind hentries fun r => .pure rfl
  | member object name span ih =>
    rw [Expr.respell, expr, expr]
    refine .bind (descend_echoes f env span) fun inner => .bind (ih inner classes) fun x => ?_
    refine .bind (Rule.object_echoes f x) fun cls => ?_
    have hfield : ((classes.respell f).info (cls.respell f)).field? (f.name name) =
        ((classes.info cls).field? name).map (Ty.respell f) := by
      rw [ClassTable.info_respell, ClassInfo.field?_respell]
    refine .bind (require_echoes hfield (.unknownMember cls.name name) span) fun ty => ?_
    exact .pure rfl
  | methodCall object name args span ih ihs =>
    rw [Expr.respell, expr, expr]
    refine .bind (descend_echoes f env span) fun inner => .bind (ih inner classes) fun x => ?_
    refine .bind (Rule.object_echoes f x) fun cls => ?_
    have hmethod : ((classes.respell f).info (cls.respell f)).method? (f.name name) =
        ((classes.info cls).method? name).map (Signature.respell f) := by
      rw [ClassTable.info_respell, ClassInfo.method?_respell]
    refine .bind (require_echoes hmethod (.unknownMember cls.name name) span) fun signature => ?_
    refine .bind (passed_echoes ihs inner classes signature span) fun xs => .pure ?_
    rw [Checked.Expr.respell]
    rfl
  | construct className args span ihs =>
    rw [Expr.respell, expr, expr]
    refine .bind (descend_echoes f env span) fun inner => ?_
    refine .bind (resolve_echoes f inner className span) fun entity => ?_
    refine .bind (require_echoes entity.class?_respell (.notAClass className) span) fun cls => ?_
    rw [ClassTable.info_respell]
    refine .bind (passed_echoes ihs inner classes (classes.info cls).ctor span) fun xs => ?_
    exact .pure rfl

end Lexical

end Shipshape
