import Shipshape.Proofs.Checked.Cause
import Shipshape.Proofs.Class.Growth
import Shipshape.Proofs.Induction
import Shipshape.Proofs.Lexical.Check
import Shipshape.Proofs.Position.Twin

/-!
# What a refusal says about a program

* `Shipshape.Program.Explains` – a program has what a diagnostic complains about;
* `Shipshape.Lexical.Verdict`, `Shipshape.Lexical.Ends` – how a result, or a computation
  that threads a store, comes out: with one condition for when it succeeds and another for
  when it fails;
* `Shipshape.Lexical.expr_verdict` – by induction over expressions: an expression that is
  accepted has a self only inside a class, and one that is refused for a self outside of a
  class has such a self.

A diagnostic about types needs no explanation, and neither does one about nesting.
-/

namespace Shipshape

/-! ### Diagnostics -/

/-- **A program has what a diagnostic complains about**, at the position that the diagnostic
gives: a name that is declared twice, or a break, a return, a self or a field that is not
inside what it needs. -/
def Program.Explains (p : Program) (d : Diagnostic) : Prop :=
  match d.cause with
  | .duplicateDeclaration name => p.Redeclares name
  | .breakOutsideLoop => ∃ path span, p.HasStmt path (.breakLoop span) ∧ path.inLoop = false ∧
      d.position = some span.start
  | .returnOutsideFunction => ∃ path value span, p.HasStmt path (.ret value span) ∧
      path.function? = none ∧ d.position = some span.start
  | .selfOutsideClass => ∃ path span, (p.HasExpr path (.self span) ∨
      ∃ typeExpr name value, p.HasStmt path (.field typeExpr name value span)) ∧
      path.cls? = none ∧ d.position = some span.start
  | _ => True

variable {p : Program} {path : Path}

theorem Program.explains_of_typing {d : Diagnostic} (h : d.cause.isTyping = true) :
    p.Explains d := by
  obtain ⟨cause, position⟩ := d
  cases cause with
  | duplicateDeclaration | breakOutsideLoop | selfOutsideClass | returnOutsideFunction => cases h
  | _ => trivial

/-- **An expression of a program**, with all that lies in it. -/
def Program.HasWhole (p : Program) (path : Path) (e : Expr) : Prop :=
  ∀ d, d.Within e → p.HasExpr path d

theorem Program.HasStmt.hasWhole {x : Stmt} (h : p.HasStmt path x) {e : Expr} (he : e ∈ x.exprs) :
    p.HasWhole path e :=
  fun _ hd => ⟨x, h, e, he, hd⟩

theorem Program.HasWhole.part {c e : Expr} (h : p.HasWhole path e) (hc : c ∈ e.parts) :
    p.HasWhole path c :=
  fun d hd => h d (.part hc hd)

/-- **An expression has a self only inside a class**, and in its checked form the self
belongs to the class at hand. -/
def Expr.Rooted (a : Ambient) (e : Expr) (e' : Checked.Expr) : Prop :=
  ∀ span, (Expr.self span).Within e →
    ∃ cls, a.cls = some cls ∧ (Checked.Expr.self cls (.object cls) span).Within e'

/-- An expression that is no self may have one in its parts. -/
theorem Expr.Rooted.of_parts {a : Ambient} {e : Expr} {e' : Checked.Expr}
    (he : ∀ span, e ≠ .self span) (h : List.Forall₂ (Expr.Rooted a) e.parts e'.parts) :
    e.Rooted a e' := by
  intro span hself
  cases hself with
  | refl => exact absurd rfl (he span)
  | part hc hself =>
    obtain ⟨hlen, hparts⟩ := List.forall₂_iff_zip.mp h
    obtain ⟨c', hzip⟩ := exists_mem_zip hlen hc
    obtain ⟨cls, hcls, hself'⟩ := hparts hzip span hself
    exact ⟨cls, hcls, .part (List.of_mem_zip hzip).2 hself'⟩

namespace Lexical

variable {α β : Type}

/-! ### Results -/

/-- **How a result comes out**: as `Q` says when it is a success, and as `E` says when it is
a failure. -/
structure Verdict (x : Except Diagnostic α) (Q : α → Prop) (E : Diagnostic → Prop) : Prop where
  /-- A success. -/
  ok : ∀ a, x = .ok a → Q a
  /-- A failure. -/
  error : ∀ d, x = .error d → E d

namespace Verdict

variable {x : Except Diagnostic α} {f : α → Except Diagnostic β} {P : α → Prop} {Q : β → Prop}
  {E : Diagnostic → Prop}

theorem pure {b : β} (h : Q b) : Verdict (.ok b) Q E :=
  ⟨fun _ hb => Except.ok.inj hb ▸ h, fun _ hd => nomatch hd⟩

theorem fail {d : Diagnostic} (h : E d) : Verdict (.error d) Q E :=
  ⟨fun _ hb => (nomatch hb), fun _ hd => Except.error.inj hd ▸ h⟩

theorem bind (hx : Verdict x P E) (hf : ∀ a, P a → Verdict (f a) Q E) : Verdict (x >>= f) Q E := by
  cases x with
  | ok a => exact hf a (hx.ok a rfl)
  | error d => exact fail (hx.error d rfl)

/-- A rule about types. -/
theorem of_typing (h : Rule.Typing x) : Verdict x (fun a => x = .ok a) p.Explains :=
  ⟨fun _ ha => ha, fun d hd => Program.explains_of_typing (h d hd)⟩

/-- A rule about types may come first. -/
theorem rule (hx : Rule.Typing x) (hf : ∀ a, x = .ok a → Verdict (f a) Q p.Explains) :
    Verdict (x >>= f) Q p.Explains :=
  bind (of_typing hx) hf

end Verdict

/-! ### Computations -/

/-- **How a computation comes out**: its value and the classes are as `Q` says when it
succeeds, and the diagnostic is as `E` says when it fails. -/
structure Ends (m : Lex α) (σ : Store) (Q : α → ClassTable → Prop) (E : Diagnostic → Prop) :
    Prop where
  /-- After a success. -/
  ok : ∀ a τ, m σ = .ok a τ → Q a τ.classes
  /-- After a failure. -/
  error : ∀ d τ, m σ = .error d τ → E d

namespace Ends

variable {σ : Store} {m : Lex α} {f : α → Lex β} {P : α → ClassTable → Prop}
  {Q : β → ClassTable → Prop} {E : Diagnostic → Prop}

theorem pure {b : β} (h : Q b σ.classes) : Ends (pure b) σ Q E := by
  refine ⟨fun c τ hc => ?_, fun d τ hd => (nomatch hd)⟩
  cases hc
  exact h

/-- Only the run matters. -/
theorem of_run {n n' : Lex β} {τ : Store} (h : Ends n τ Q E) (hrun : n' σ = n τ) :
    Ends n' σ Q E :=
  ⟨fun b υ hb => h.ok b υ (hrun ▸ hb), fun d υ hd => h.error d υ (hrun ▸ hd)⟩

theorem mono {R : β → ClassTable → Prop} {n : Lex β} (h : Ends n σ R E)
    (hR : ∀ b c, R b c → Q b c) : Ends n σ Q E :=
  ⟨fun b τ hb => hR b _ (h.ok b τ hb), h.error⟩

/-- One computation after another. -/
theorem bind (hm : Ends m σ P E) (hf : ∀ a τ, P a τ.classes → Ends (f a) τ Q E) :
    Ends (m >>= f) σ Q E := by
  cases hrun : m σ with
  | ok a τ =>
    refine of_run (hf a τ (hm.ok a τ hrun)) ?_
    simp [Bind.bind, EStateM.bind, hrun]
  | error d τ =>
    have hbind : (m >>= f) σ = .error d τ := by simp [Bind.bind, EStateM.bind, hrun]
    refine ⟨fun b υ hb => ?_, fun e υ he => ?_⟩
    · cases hbind.symm.trans hb
    · cases hbind.symm.trans he
      exact hm.error d τ hrun

/-- A result may come first. -/
theorem ofRule {x : Except Diagnostic α} {R : α → Prop} (hx : Verdict x R E)
    (hf : ∀ a, R a → Ends (f a) σ Q E) : Ends (Lex.ofRule x >>= f) σ Q E := by
  cases x with
  | ok a => exact of_run (hf a (hx.ok a rfl)) rfl
  | error d =>
    refine ⟨fun b τ hb => (nomatch hb), fun e τ he => ?_⟩
    cases he
    exact hx.error d rfl

/-- A rule about types may come first. -/
theorem rule {x : Except Diagnostic α} (hx : Rule.Typing x)
    (hf : ∀ a, x = .ok a → Ends (f a) σ Q p.Explains) : Ends (Lex.ofRule x >>= f) σ Q p.Explains :=
  ofRule (.of_typing hx) hf

/-- What reads the classes may come first. -/
theorem reading {g : ClassTable → Except Diagnostic α} {R : α → Prop}
    (hg : Verdict (g σ.classes) R E) (hf : ∀ a, R a → Ends (f a) σ Q E) :
    Ends (Lex.reading g >>= f) σ Q E :=
  of_run (ofRule hg hf) rfl

/-- An entity may be made first. -/
theorem newEntity {f : Entity → Lex β} {binding : Binding}
    (hf : ∀ entity τ, entity.binding = binding → τ.classes = σ.classes → Ends (f entity) τ Q E) :
    Ends (Lex.newEntity binding >>= f) σ Q E :=
  of_run (hf ⟨σ.nextEntity, binding⟩ { σ with nextEntity := σ.nextEntity + 1 } rfl rfl) rfl

/-- A class may be made first. -/
theorem newClass {f : ClassRef → Lex β} {name : String}
    (hf : ∀ τ, τ.classes = (σ.classes.add name).1 → Ends (f (σ.classes.add name).2) τ Q E) :
    Ends (Lex.newClass name >>= f) σ Q E :=
  of_run (hf { σ with classes := (σ.classes.add name).1 } rfl) rfl

/-- The constructor of a class may be set first. -/
theorem setCtor {f : Unit → Lex β} {cls : ClassRef} {signature : Signature}
    (hf : ∀ τ, τ.classes = σ.classes.setCtor cls signature → Ends (f ()) τ Q E) :
    Ends (Lex.setCtor cls signature >>= f) σ Q E :=
  of_run (hf { σ with classes := σ.classes.setCtor cls signature } rfl) rfl

end Ends

/-! ### Descending, and looking names up -/

variable {env : Env} {classes : ClassTable}

/-- The place one level deeper sees the same. -/
theorem descend_verdict (env : Env) (span : Span) :
    Verdict (env.descend span) (fun inner => ∃ n, inner = { env with level := n })
      p.Explains := by
  rw [Env.descend]
  split
  · exact .pure ⟨_, rfl⟩
  · exact .fail trivial

theorem resolve_typing (env : Env) (name : String) (span : Span) :
    Rule.Typing (env.resolve name span) := by
  rw [Env.resolve]
  split
  · exact .ok _
  · exact .located rfl span

theorem require_typing {value : Option α} {cause : Cause} (h : cause.isTyping = true)
    (span : Span) : Rule.Typing (require value cause span) := by
  rw [require.eq_def]
  split
  · exact .ok _
  · exact .located h span

/-- A class at hand is needed here. -/
theorem require_cls_verdict (h : path.Matches env.ambient) {span : Span}
    (hspan : p.HasExpr path (.self span) ∨
      ∃ typeExpr name value, p.HasStmt path (.field typeExpr name value span)) :
    Verdict (require env.ambient.cls .selfOutsideClass span)
      (fun cls => env.ambient.cls = some cls) p.Explains := by
  cases hcls : env.ambient.cls with
  | some cls => exact .pure rfl
  | none => exact .fail ⟨path, span, hspan, h.cls?_eq_none_iff.mpr hcls, rfl⟩

theorem convertList_typing {as : List TypeExpr} (has : ∀ a ∈ as, Rule.Typing (env.convert a)) :
    Rule.Typing (env.convertList as) := by
  induction as with
  | nil =>
    rw [Env.convertList]
    exact .ok _
  | cons a as ih =>
    obtain ⟨ha, has⟩ := List.forall_mem_cons.mp has
    rw [Env.convertList]
    exact .bind ha fun ty => .bind (ih has) fun tys => .ok _

theorem convert_typing (env : Env) (a : TypeExpr) : Rule.Typing (env.convert a) := by
  induction a with
  | name name span =>
    rw [Env.convert]
    exact .bind (resolve_typing env name span) fun entity => require_typing rfl span
  | array element ih =>
    rw [Env.convert]
    exact .bind ih fun ty => .ok _
  | map key value ihk ihv =>
    rw [Env.convert]
    exact .bind ihk fun k => .bind ihv fun v => .ok _
  | function params result ihps ihr =>
    rw [Env.convert]
    exact .bind (convertList_typing ihps) fun ps => .bind ihr fun r => .ok _

theorem convertResult_typing (env : Env) (a : Option TypeExpr) :
    Rule.Typing (env.convertResult a) := by
  cases a with
  | none => exact .ok _
  | some a => exact convert_typing env a

theorem convertParams_typing (env : Env) (params : List Param) :
    Rule.Typing (env.convertParams params) :=
  convertList_typing fun a _ => convert_typing env a

theorem variableType_typing (env : Env) (typeExpr : Option TypeExpr) (value : Checked.Expr) :
    Rule.Typing (variableType env typeExpr value) := by
  cases typeExpr with
  | none => exact Rule.inferred_typing value
  | some typeExpr =>
    exact .bind (convert_typing env typeExpr) fun ty =>
      .bind (Rule.assignable_typing value ty) fun _ => .ok _

theorem loopVariableType_typing (env : Env) (typeExpr : Option TypeExpr)
    (iterable : Checked.Expr) : Rule.Typing (loopVariableType env typeExpr iterable) := by
  refine .bind (Rule.iterated_typing iterable) fun element => ?_
  cases typeExpr with
  | none => exact Rule.inferredElement_typing iterable element
  | some typeExpr =>
    exact .bind (convert_typing env typeExpr) fun ty =>
      Rule.declaredElement_typing iterable element ty

/-! ### Expressions -/

/-- The verdict about an expression of a program, in every environment that is around it. -/
def Judges (p : Program) (path : Path) (e : Expr) : Prop :=
  ∀ {env : Env} {classes : ClassTable}, path.Matches env.ambient → p.HasWhole path e →
    Verdict (expr env classes e) (e.Rooted env.ambient) p.Explains

theorem exprs_verdict {es : List Expr} (hes : ∀ e ∈ es, Judges p path e)
    (h : path.Matches env.ambient) (hp : ∀ e ∈ es, p.HasWhole path e) :
    Verdict (exprs env classes es) (List.Forall₂ (Expr.Rooted env.ambient) es) p.Explains := by
  induction es with
  | nil =>
    rw [exprs]
    exact .pure .nil
  | cons e es ih =>
    obtain ⟨he, hes⟩ := List.forall_mem_cons.mp hes
    obtain ⟨hp, hps⟩ := List.forall_mem_cons.mp hp
    rw [exprs]
    refine .bind (he h hp) fun e' hroot => .bind (ih hes hps) fun es' hroots => ?_
    exact .pure (.cons hroot hroots)

theorem passed_verdict {es : List Expr} {signature : Signature} {span : Span}
    (hes : ∀ e ∈ es, Judges p path e) (h : path.Matches env.ambient)
    (hp : ∀ e ∈ es, p.HasWhole path e) :
    Verdict (passed signature span (exprs env classes es))
      (List.Forall₂ (Expr.Rooted env.ambient) es) p.Explains := by
  rw [passed]
  refine .bind (exprs_verdict hes h hp) fun args hroots => ?_
  exact .rule (Rule.arguments_typing signature args span) fun _ _ => .pure hroots

theorem entries_verdict {items : List (Expr × Expr)}
    (hitems : ∀ q ∈ items, Judges p path q.1 ∧ Judges p path q.2) (h : path.Matches env.ambient)
    (hp : ∀ q ∈ items, p.HasWhole path q.1 ∧ p.HasWhole path q.2) {key value : Ty} :
    Verdict (entries env classes key value items)
      (fun r => List.Forall₂ (Expr.Rooted env.ambient) (items.flatMap fun q => [q.1, q.2])
        (r.1.flatMap fun q => [q.1, q.2])) p.Explains := by
  induction items generalizing key value with
  | nil =>
    rw [entries]
    exact .pure .nil
  | cons item items ih =>
    obtain ⟨k, v⟩ := item
    obtain ⟨⟨hk, hv⟩, hitems⟩ := List.forall_mem_cons.mp hitems
    obtain ⟨⟨hpk, hpv⟩, hps⟩ := List.forall_mem_cons.mp hp
    rw [entries]
    refine .bind (hk h hpk) fun k' hkroot => .bind (hv h hpv) fun v' hvroot => ?_
    refine .rule (Rule.join_typing key k') fun key' _ => ?_
    refine .rule (Rule.join_typing value v') fun value' _ => ?_
    refine .bind (ih hitems hps) fun r hroots => ?_
    exact .pure (.cons hkroot (.cons hvroot hroots))

/-- **The verdict about an expression**: when it is accepted, each self in it belongs to the
class at hand; when it is refused for a self, it has one that is in no class. -/
theorem expr_verdict (p : Program) (path : Path) (e : Expr) : Judges p path e := by
  intro env classes h hp
  -- Only a self looks at what surrounds the expression. Everything else descends, takes its
  -- parts in order and asks a rule about types.
  induction e generalizing env classes with
  | literal value span =>
    rw [expr]
    refine .bind (descend_verdict env span) fun inner _ => .pure ?_
    exact .of_parts (by simp) .nil
  | symbol name span =>
    rw [expr]
    refine .bind (descend_verdict env span) fun inner _ => ?_
    refine .rule (resolve_typing inner name span) fun entity _ => ?_
    refine .rule (require_typing rfl span) fun ty _ => .pure ?_
    exact .of_parts (by simp) .nil
  | self span =>
    rw [expr]
    refine .bind (descend_verdict env span) fun inner hinner => ?_
    obtain ⟨n, rfl⟩ := hinner
    have hself : p.HasExpr path (.self span) := hp _ .refl
    refine .bind (require_cls_verdict h (.inl hself)) fun cls hcls => .pure fun span' hspan => ?_
    cases hspan with
    | refl => exact ⟨cls, hcls, .refl⟩
    | part hc _ => cases hc
  | binary op left right span ihl ihr =>
    rw [expr]
    refine .bind (descend_verdict env span) fun inner hinner => ?_
    obtain ⟨n, rfl⟩ := hinner
    refine .bind (ihl h (hp.part (by simp [Expr.parts]))) fun l hl => ?_
    refine .bind (ihr h (hp.part (by simp [Expr.parts]))) fun r hr => ?_
    refine .rule (Rule.binary_typing op l r) fun ty _ => .pure ?_
    exact .of_parts (by simp) (.cons hl (.cons hr .nil))
  | unary op operand span ih =>
    rw [expr]
    refine .bind (descend_verdict env span) fun inner hinner => ?_
    obtain ⟨n, rfl⟩ := hinner
    refine .bind (ih h (hp.part (by simp [Expr.parts]))) fun x hx => ?_
    refine .rule (Rule.unary_typing op x) fun ty _ => .pure ?_
    exact .of_parts (by simp) (.cons hx .nil)
  | conditional test consequent alternate span iht ihc iha =>
    rw [expr]
    refine .bind (descend_verdict env span) fun inner hinner => ?_
    obtain ⟨n, rfl⟩ := hinner
    refine .bind (iht h (hp.part (by simp [Expr.parts]))) fun t ht => ?_
    refine .rule (Rule.boolean_typing t) fun _ _ => ?_
    refine .bind (ihc h (hp.part (by simp [Expr.parts]))) fun x hx => ?_
    refine .bind (iha h (hp.part (by simp [Expr.parts]))) fun y hy => ?_
    refine .rule (Rule.join_typing x.ty y) fun ty _ => .pure ?_
    exact .of_parts (by simp) (.cons ht (.cons hx (.cons hy .nil)))
  | call callee args span ihc ihs =>
    rw [expr]
    refine .bind (descend_verdict env span) fun inner hinner => ?_
    obtain ⟨n, rfl⟩ := hinner
    refine .bind (ihc h (hp.part List.mem_cons_self)) fun f hf => ?_
    refine .rule (Rule.callee_typing f) fun signature _ => ?_
    refine .bind (passed_verdict ihs h fun e he => hp.part (List.mem_cons_of_mem _ he))
      fun xs hxs => .pure ?_
    exact .of_parts (by simp) (.cons hf hxs)
  | subscript array index span iha ihi =>
    rw [expr]
    refine .bind (descend_verdict env span) fun inner hinner => ?_
    obtain ⟨n, rfl⟩ := hinner
    refine .bind (iha h (hp.part (by simp [Expr.parts]))) fun x hx => ?_
    refine .bind (ihi h (hp.part (by simp [Expr.parts]))) fun i hi => ?_
    refine .rule (Rule.subscript_typing x i) fun ty _ => .pure ?_
    exact .of_parts (by simp) (.cons hx (.cons hi .nil))
  | array elements span ihs =>
    rw [expr]
    refine .bind (descend_verdict env span) fun inner hinner => ?_
    obtain ⟨n, rfl⟩ := hinner
    refine .bind (exprs_verdict ihs h fun e he => hp.part he) fun xs hxs => ?_
    refine .rule (Rule.elements_typing .any xs) fun ty _ => .pure ?_
    exact .of_parts (by simp) hxs
  | map items span ihs =>
    rw [expr]
    refine .bind (descend_verdict env span) fun inner hinner => ?_
    obtain ⟨n, rfl⟩ := hinner
    have hparts : ∀ q ∈ items, p.HasWhole path q.1 ∧ p.HasWhole path q.2 := by
      intro q hq
      refine ⟨hp.part ?_, hp.part ?_⟩
      · exact List.mem_flatMap.mpr ⟨q, hq, List.mem_cons_self⟩
      · exact List.mem_flatMap.mpr ⟨q, hq, List.mem_cons_of_mem _ List.mem_cons_self⟩
    have hinner : path.Matches (Env.mk env.frame env.outer n env.limit).ambient := h
    refine .bind (entries_verdict ihs hinner hparts) fun r hr => .pure ?_
    exact .of_parts (by simp) hr
  | member object name span ih =>
    rw [expr]
    refine .bind (descend_verdict env span) fun inner hinner => ?_
    obtain ⟨n, rfl⟩ := hinner
    refine .bind (ih h (hp.part (by simp [Expr.parts]))) fun x hx => ?_
    refine .rule (Rule.object_typing x) fun cls _ => ?_
    refine .rule (require_typing rfl span) fun ty _ => .pure ?_
    exact .of_parts (by simp) (.cons hx .nil)
  | methodCall object name args span ih ihs =>
    rw [expr]
    refine .bind (descend_verdict env span) fun inner hinner => ?_
    obtain ⟨n, rfl⟩ := hinner
    refine .bind (ih h (hp.part List.mem_cons_self)) fun x hx => ?_
    refine .rule (Rule.object_typing x) fun cls _ => ?_
    refine .rule (require_typing rfl span) fun signature _ => ?_
    refine .bind (passed_verdict ihs h fun e he => hp.part (List.mem_cons_of_mem _ he))
      fun xs hxs => .pure ?_
    exact .of_parts (by simp) (.cons hx hxs)
  | construct className args span ihs =>
    rw [expr]
    refine .bind (descend_verdict env span) fun inner hinner => ?_
    obtain ⟨n, rfl⟩ := hinner
    refine .rule (resolve_typing _ className span) fun entity _ => ?_
    refine .rule (require_typing rfl span) fun cls _ => ?_
    refine .bind (passed_verdict ihs h fun e he => hp.part he) fun xs hxs => .pure ?_
    exact .of_parts (by simp) hxs

end Lexical

end Shipshape
