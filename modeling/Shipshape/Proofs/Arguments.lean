import Mathlib.Data.List.Forall2
import Shipshape.Proofs.Checked.Rule
import Shipshape.Proofs.Frame.Effect
import Shipshape.Proofs.Frame.Expr
import Shipshape.Proofs.Nesting.Room
import Shipshape.Proofs.Refusal.Tree

/-!
# Arguments of calls

A call, a method call and the making of an object pass arguments to a signature. How they
come by the signature differs, what becomes of the arguments does not.

* `Shipshape.State.Checks`, `Shipshape.State.Refuses` – what becomes of one argument in a scope;
* `Shipshape.State.Misfit` – why arguments are refused, and where this is reported;
* `Shipshape.State.Calls` – a call of any of the three forms, once it is known what is
  called;
* `Shipshape.checkArguments_outcome` – arguments are accepted, or refused for the first
  reason that applies, and the three forms do not differ in this.

## Three reasons in order

An argument may be wrong by itself, there may be too few or too many, and one may have a
type that does not fit. Each reason is looked for in all arguments before the next one is.
So `Shipshape.State.Misfit` has a constructor for each, with the absence of the earlier
reasons among its premises, and the proof comes in two halves: one of the cases always
applies (`Shipshape.Arena.Live.fits_or_misfits`), and whichever applies is what the check
says (`Shipshape.State.Misfit.eq_error`).
-/

namespace Shipshape

/-! ### One argument -/

/-- The expression is refused in the scope. -/
def State.Refuses (s : State) (id : ScopeId) (e : Expr) (d : Diagnostic) : Prop :=
  checkExpr id e s = .error (.refused d) s

variable {s : State} {id : ScopeId}

/-- In a scope that is alive an expression is accepted or refused. -/
theorem Arena.Live.checks_or_refuses (h : s.arena.Live id) (e : Expr) :
    (∃ e', s.Checks id e e') ∨ ∃ d, s.Refuses id e d := by
  obtain ⟨env, henv⟩ := h.exists_mirrors
  have hreads : checkExpr id e s = Check.ofRule (Lexical.expr env s.classes e) s :=
    checkExpr_reads e henv
  cases hlex : Lexical.expr env s.classes e with
  | ok e' => exact .inl ⟨e', by rw [State.Checks, hreads, hlex]; rfl⟩
  | error d => exact .inr ⟨d, by rw [State.Refuses, hreads, hlex]; rfl⟩

/-! ### Arguments one after another -/

theorem checkExprs_eq_ok {args : List Expr} {es : List Checked.Expr}
    (h : List.Forall₂ (s.Checks id) args es) : checkExprs id args s = .ok es s := by
  induction h with
  | nil => rw [checkExprs]; rfl
  | @cons arg e args es harg _ ih =>
    have harg : checkExpr id arg s = .ok e s := harg
    rw [checkExprs]
    simp only [Bind.bind, EStateM.bind, harg, ih]
    rfl

/-- The first argument that is refused decides. -/
theorem checkExprs_eq_error {before after : List Expr} {arg : Expr} {d : Diagnostic}
    (hbefore : ∀ e ∈ before, ∃ e', s.Checks id e e') (harg : s.Refuses id arg d) :
    checkExprs id (before ++ arg :: after) s = .error (.refused d) s := by
  induction before with
  | nil =>
    rw [List.nil_append, checkExprs]
    exact Check.bind_eq_error_of_left harg _
  | cons e before ih =>
    obtain ⟨⟨e', he⟩, hbefore⟩ := List.forall_mem_cons.mp hbefore
    have he : checkExpr id e s = .ok e' s := he
    rw [List.cons_append, checkExprs]
    simp only [Bind.bind, EStateM.bind, he, ih hbefore]

theorem Arena.Live.checks_or_first_refuses (h : s.arena.Live id) (args : List Expr) :
    (∃ es, List.Forall₂ (s.Checks id) args es) ∨
      ∃ before arg after d, args = before ++ arg :: after ∧
        (∀ e ∈ before, ∃ e', s.Checks id e e') ∧ s.Refuses id arg d := by
  induction args with
  | nil => exact .inl ⟨[], .nil⟩
  | cons e args ih =>
    rcases h.checks_or_refuses e with ⟨e', he⟩ | ⟨d, he⟩
    · rcases ih with ⟨es, hes⟩ | ⟨before, arg, after, d, rfl, hbefore, harg⟩
      · exact .inl ⟨e' :: es, .cons he hes⟩
      · exact .inr ⟨e :: before, arg, after, d, rfl,
          List.forall_mem_cons.mpr ⟨⟨e', he⟩, hbefore⟩, harg⟩
    · exact .inr ⟨[], e, args, d, rfl, List.forall_mem_nil _, he⟩

/-! ### Arguments against parameters -/

namespace Rule

/-- **The argument with the number `i` is the first that does not fit its parameter.** -/
structure FirstMisfit (params : List Ty) (es : List Checked.Expr) (i : Nat) (param : Ty)
    (e : Checked.Expr) : Prop where
  /-- Its parameter. -/
  param_eq : params[i]? = some param
  /-- The argument. -/
  arg_eq : es[i]? = some e
  /-- It does not fit. -/
  misfit : e.ty.assignableTo param = false
  /-- The earlier ones do. -/
  earlier : ∀ j < i, ∀ p c, params[j]? = some p → es[j]? = some c → c.ty.assignableTo p = true

variable {params : List Ty} {es : List Checked.Expr} {i : Nat} {param p : Ty} {e c : Checked.Expr}

theorem FirstMisfit.cons (hfits : c.ty.assignableTo p = true)
    (h : FirstMisfit params es i param e) :
    FirstMisfit (p :: params) (c :: es) (i + 1) param e := by
  refine ⟨h.param_eq, h.arg_eq, h.misfit, fun j hj => ?_⟩
  cases j with
  | zero =>
    rintro _ _ ⟨⟩ ⟨⟩
    exact hfits
  | succ j => exact h.earlier j (Nat.lt_of_succ_lt_succ hj)

theorem FirstMisfit.tail (h : FirstMisfit (p :: params) (c :: es) (i + 1) param e) :
    c.ty.assignableTo p = true ∧ FirstMisfit params es i param e :=
  ⟨h.earlier 0 (Nat.succ_pos i) p c rfl rfl, h.param_eq, h.arg_eq, h.misfit,
    fun j hj => h.earlier (j + 1) (Nat.succ_lt_succ hj)⟩

theorem FirstMisfit.exists_cons (h : FirstMisfit params es i param e) :
    ∃ p ps c cs, params = p :: ps ∧ es = c :: cs := by
  obtain ⟨p, ps, hparams⟩ :=
    List.exists_cons_of_ne_nil (List.ne_nil_of_mem (List.mem_of_getElem? h.param_eq))
  obtain ⟨c, cs, hes⟩ :=
    List.exists_cons_of_ne_nil (List.ne_nil_of_mem (List.mem_of_getElem? h.arg_eq))
  exact ⟨p, ps, c, cs, hparams, hes⟩

/-- **The first misfit is the one that is reported**, with its number. -/
theorem argumentTypes_eq_error (h : FirstMisfit params es i param e) (index : Nat) :
    argumentTypes index params es =
      .error (.located (.argumentMismatch (.type (index + i) param.text e.ty.text)) e.span) := by
  induction i generalizing index params es with
  | zero =>
    obtain ⟨p, ps, c, cs, rfl, rfl⟩ := h.exists_cons
    obtain ⟨⟨⟩, ⟨⟩, hmisfit, -⟩ := h
    rw [argumentTypes, if_neg (Bool.eq_false_iff.mp hmisfit)]
    rfl
  | succ i ih =>
    obtain ⟨p, ps, c, cs, rfl, rfl⟩ := h.exists_cons
    obtain ⟨hfits, htail⟩ := h.tail
    rw [argumentTypes, if_pos hfits, ih htail, Nat.add_right_comm]
    rfl

theorem fits_or_firstMisfit (hlen : es.length = params.length) :
    List.Forall₂ (fun e param => e.ty.assignableTo param = true) es params ∨
      ∃ i param e, FirstMisfit params es i param e := by
  induction es generalizing params with
  | nil =>
    obtain rfl := List.length_eq_zero_iff.mp hlen.symm
    exact .inl .nil
  | cons c es ih =>
    cases params with
    | nil => cases hlen
    | cons p params =>
      cases hfits : c.ty.assignableTo p with
      | false => exact .inr ⟨0, p, c, rfl, rfl, hfits, fun j hj => absurd hj (Nat.not_lt_zero j)⟩
      | true =>
        rcases ih (Nat.succ.inj hlen) with hall | ⟨i, param, e, hfirst⟩
        · exact .inl (.cons hfits hall)
        · exact .inr ⟨i + 1, param, e, hfirst.cons hfits⟩

end Rule

/-! ### Why arguments are refused -/

/-- **Why arguments are refused**, and where this is reported. A later reason counts only
where the earlier ones do not apply. -/
inductive State.Misfit (s : State) (id : ScopeId) (signature : Signature) (args : List Expr)
    (span : Span) : Diagnostic → Prop
  /-- An argument is refused by itself, and none before it is. Nothing is said about those
  after it, nor about their number. -/
  | argument {before after : List Expr} {arg : Expr} {d : Diagnostic}
      (hargs : args = before ++ arg :: after)
      (hbefore : ∀ e ∈ before, ∃ e', s.Checks id e e') (harg : s.Refuses id arg d) :
      Misfit s id signature args span d
  /-- The arguments are accepted by themselves, but there are too few or too many. -/
  | count {es : List Checked.Expr} (hargs : List.Forall₂ (s.Checks id) args es)
      (hcount : args.length ≠ signature.params.length) :
      Misfit s id signature args span
        (.located (.argumentMismatch (.count signature.params.length args.length)) span)
  /-- There are as many arguments as parameters, but one has a type that does not fit. -/
  | type {es : List Checked.Expr} {i : Nat} {param : Ty} {e : Checked.Expr} {arg : Expr}
      (hargs : List.Forall₂ (s.Checks id) args es)
      (hcount : args.length = signature.params.length)
      (hfirst : Rule.FirstMisfit signature.params es i param e) (harg : args[i]? = some arg) :
      Misfit s id signature args span
        (.located (.argumentMismatch (.type i param.text e.ty.text)) arg.span)

variable {signature : Signature} {args : List Expr} {span : Span} {d : Diagnostic}

/-- **Arguments that fit are accepted**, in order. -/
theorem checkArguments_eq_ok {es : List Checked.Expr} (hargs : List.Forall₂ (s.Checks id) args es)
    (haccepts : signature.Accepts es) : checkArguments id signature args span s = .ok es s := by
  have hrule : Rule.arguments signature es span = .ok () := Rule.arguments_eq_ok_iff.mpr haccepts
  rw [checkArguments, passArguments]
  simp only [Bind.bind, EStateM.bind, checkExprs_eq_ok hargs, hrule, Check.ofRule]
  rfl

theorem checks_getElem? {es : List Checked.Expr} {i : Nat} {arg : Expr} {e : Checked.Expr}
    (hargs : List.Forall₂ (s.Checks id) args es) (harg : args[i]? = some arg)
    (he : es[i]? = some e) : s.Checks id arg e := by
  obtain ⟨hi, rfl⟩ := List.getElem?_eq_some_iff.mp harg
  obtain ⟨hj, rfl⟩ := List.getElem?_eq_some_iff.mp he
  exact hargs.get hi hj

/-- **A reason to refuse arguments is what is reported.** -/
theorem State.Misfit.eq_error (h : s.Misfit id signature args span d) :
    checkArguments id signature args span s = .error (.refused d) s := by
  rw [checkArguments, passArguments]
  cases h with
  | argument hargs hbefore harg =>
    subst hargs
    exact Check.bind_eq_error_of_left (checkExprs_eq_error hbefore harg) _
  | @count es hargs hcount =>
    have hlen : args.length = es.length := hargs.length_eq
    have hrule : Rule.arguments signature es span = .error (.located
        (.argumentMismatch (.count signature.params.length args.length)) span) := by
      rw [Rule.arguments, if_neg (hlen ▸ hcount), hlen]
    simp only [Bind.bind, EStateM.bind, checkExprs_eq_ok hargs, hrule, Check.ofRule]
  | @type es i param e arg hargs hcount hfirst harg =>
    have hspan : e.span = arg.span := checkExpr_span (checks_getElem? hargs harg hfirst.arg_eq)
    have hrule : Rule.arguments signature es span = .error (.located
        (.argumentMismatch (.type i param.text e.ty.text)) arg.span) := by
      rw [Rule.arguments, if_pos (hargs.length_eq ▸ hcount), Rule.argumentTypes_eq_error hfirst,
        Nat.zero_add, hspan]
    simp only [Bind.bind, EStateM.bind, checkExprs_eq_ok hargs, hrule, Check.ofRule]

/-- **Arguments fit, or there is a reason to refuse them.** -/
theorem Arena.Live.fits_or_misfits (h : s.arena.Live id) (signature : Signature)
    (args : List Expr) (span : Span) :
    (∃ es, List.Forall₂ (s.Checks id) args es ∧ signature.Accepts es) ∨
      ∃ d, s.Misfit id signature args span d := by
  rcases h.checks_or_first_refuses args with
    ⟨es, hes⟩ | ⟨before, arg, after, d, hargs, hbefore, harg⟩
  · by_cases hcount : args.length = signature.params.length
    · rcases Rule.fits_or_firstMisfit (hes.length_eq ▸ hcount) with hall | ⟨i, param, e, hfirst⟩
      · exact .inl ⟨es, hes, hall⟩
      · have hi : i < args.length := by
          rw [hes.length_eq]
          exact (List.getElem?_eq_some_iff.mp hfirst.arg_eq).1
        exact .inr ⟨_, .type hes hcount hfirst (List.getElem?_eq_getElem hi)⟩
    · exact .inr ⟨_, .count hes hcount⟩
  · exact .inr ⟨d, .argument hargs hbefore harg⟩

theorem checkArguments_eq_ok_iff (h : s.arena.Live id) {es : List Checked.Expr} {t : State} :
    checkArguments id signature args span s = .ok es t ↔
      List.Forall₂ (s.Checks id) args es ∧ signature.Accepts es ∧ t = s := by
  constructor
  · intro hrun
    rcases h.fits_or_misfits signature args span with ⟨es', hargs, haccepts⟩ | ⟨d, hmisfit⟩
    · cases (checkArguments_eq_ok hargs haccepts).symm.trans hrun
      exact ⟨hargs, haccepts, rfl⟩
    · cases hmisfit.eq_error.symm.trans hrun
  · rintro ⟨hargs, haccepts, rfl⟩
    exact checkArguments_eq_ok hargs haccepts

theorem checkArguments_eq_error_iff (h : s.arena.Live id) {failure : Failure} {t : State} :
    checkArguments id signature args span s = .error failure t ↔
      (∃ d, s.Misfit id signature args span d ∧ failure = .refused d) ∧ t = s := by
  constructor
  · intro hrun
    rcases h.fits_or_misfits signature args span with ⟨es', hargs, haccepts⟩ | ⟨d, hmisfit⟩
    · cases (checkArguments_eq_ok hargs haccepts).symm.trans hrun
    · cases hmisfit.eq_error.symm.trans hrun
      exact ⟨⟨d, hmisfit, rfl⟩, rfl⟩
  · rintro ⟨⟨d, hmisfit, rfl⟩, rfl⟩
    exact hmisfit.eq_error

/-! ### Three forms of calls -/

/-- **A call whose callee is resolved** to a signature, one level below the state: a call
of a function, of a method, or of a constructor. With it stands what the call becomes,
given its arguments. -/
inductive State.Calls (s : State) (id : ScopeId) (signature : Signature) (args : List Expr) :
    Expr → (List Checked.Expr → Checked.Expr) → Prop
  /-- What is called is a function. -/
  | call {callee : Expr} {callee' : Checked.Expr} {span : Span}
      (hcallee : s.deeper.Checks id callee callee') (hty : callee'.ty = signature.toTy) :
      Calls s id signature args (.call callee args span)
        fun es => .call callee' signature es signature.result span
  /-- What is called is a method of the class of an object. -/
  | methodCall {object : Expr} {object' : Checked.Expr} {cls : ClassRef} {name : String}
      {span : Span} (hobject : s.deeper.Checks id object object') (hty : object'.ty = .object cls)
      (hmethod : (s.classes.info cls).method? name = some signature) :
      Calls s id signature args (.methodCall object name args span)
        fun es => .methodCall object' name signature es signature.result span
  /-- What is called is the constructor of a class. -/
  | construct {className : String} {entity : Entity} {cls : ClassRef} {span : Span}
      (hname : s.arena.resolve id className span = .ok entity) (hcls : entity.class? = some cls)
      (hctor : (s.classes.info cls).ctor = signature) :
      Calls s id signature args (.construct className args span)
        fun es => .construct cls es (.object cls) span

variable {x : Expr} {node : List Checked.Expr → Checked.Expr}

theorem Check.nested_congr {α : Type} {m n : Check α} {span : Span}
    (h : m s.deeper = n s.deeper) : Check.nested span m s = Check.nested span n s := by
  rw [State.deeper] at h
  rw [Check.nested, Check.nested, h]

/-- **Once its callee is resolved, a call only passes its arguments.** -/
theorem State.Calls.checkExpr_eq (h : s.Calls id signature args x node) :
    checkExpr id x s = Check.nested x.span (do
      let es ← checkArguments id signature args x.span
      return node es) s := by
  cases h with
  | @call callee callee' span hcallee hty =>
    have hcallee : checkExpr id callee s.deeper = .ok callee' s.deeper := hcallee
    have hrule : Rule.callee callee' = .ok signature := Rule.callee_eq_ok_iff.mpr hty
    rw [checkExpr]
    refine Check.nested_congr ?_
    simp only [Bind.bind, EStateM.bind, hcallee, hrule, Check.ofRule]
    rfl
  | @methodCall object object' cls name span hobject hty hmethod =>
    have hobject : checkExpr id object s.deeper = .ok object' s.deeper := hobject
    have hrule : Rule.object object' = .ok cls := Rule.object_eq_ok_iff.mpr hty
    have hmethod : (s.deeper.classes.info cls).method? name = some signature := hmethod
    rw [checkExpr]
    refine Check.nested_congr ?_
    simp only [Bind.bind, EStateM.bind, hobject, hrule, Check.ofRule, Check.classInfo,
      Check.require, hmethod]
    rfl
  | @construct className entity cls span hname hcls hctor =>
    have hname : s.deeper.arena.resolve id className span = .ok entity := hname
    have hctor : (s.deeper.classes.info cls).ctor = signature := hctor
    rw [checkExpr]
    refine Check.nested_congr ?_
    simp only [Bind.bind, EStateM.bind, Check.resolve, hname, hcls, Check.classInfo,
      Check.require, hctor]
    rfl

section Room

variable (h : s.Calls id signature args x node) (hroom : s.depth < s.limit)

include h hroom

theorem State.Calls.eq_ok {es : List Checked.Expr}
    (hargs : checkArguments id signature args x.span s.deeper = .ok es s.deeper) :
    checkExpr id x s = .ok (node es) s := by
  rw [h.checkExpr_eq, Check.nested_eq_ok_iff]
  exact ⟨hroom, s.deeper, by simp only [Bind.bind, EStateM.bind, hargs]; rfl, rfl⟩

theorem State.Calls.eq_error
    (hargs : checkArguments id signature args x.span s.deeper = .error (.refused d) s.deeper) :
    checkExpr id x s = .error (.refused d) s := by
  rw [State.deeper] at hargs
  rw [h.checkExpr_eq, Check.nested, if_pos hroom, Check.bind_eq_error_of_left hargs]
  rfl

/-- **A call is accepted when its arguments are.** -/
theorem State.Calls.eq_ok_iff (hlive : s.arena.Live id) {e : Checked.Expr} {t : State} :
    checkExpr id x s = .ok e t ↔
      (∃ es, checkArguments id signature args x.span s.deeper = .ok es s.deeper ∧
        e = node es) ∧ t = s := by
  constructor
  · intro hrun
    have hdeeper : s.deeper.arena.Live id := hlive
    rcases hdeeper.fits_or_misfits signature args x.span with ⟨es, hargs, haccepts⟩ | ⟨d, hmisfit⟩
    · have hes : checkArguments id signature args x.span s.deeper = .ok es s.deeper :=
        checkArguments_eq_ok hargs haccepts
      cases (h.eq_ok hroom hes).symm.trans hrun
      exact ⟨⟨es, hes, rfl⟩, rfl⟩
    · cases (h.eq_error hroom hmisfit.eq_error).symm.trans hrun
  · rintro ⟨⟨es, hes, rfl⟩, rfl⟩
    exact h.eq_ok hroom hes

/-- **A call is refused as its arguments are.** -/
theorem State.Calls.eq_error_iff (hlive : s.arena.Live id) {failure : Failure} {t : State} :
    checkExpr id x s = .error failure t ↔
      checkArguments id signature args x.span s.deeper = .error failure s.deeper ∧ t = s := by
  have hdeeper : s.deeper.arena.Live id := hlive
  constructor
  · intro hrun
    rcases hdeeper.fits_or_misfits signature args x.span with ⟨es, hargs, haccepts⟩ | ⟨d, hmisfit⟩
    · cases (h.eq_ok hroom (checkArguments_eq_ok hargs haccepts)).symm.trans hrun
    · cases (h.eq_error hroom hmisfit.eq_error).symm.trans hrun
      exact ⟨hmisfit.eq_error, rfl⟩
  · rintro ⟨hargs, rfl⟩
    obtain ⟨⟨d, -, rfl⟩, -⟩ := (checkArguments_eq_error_iff hdeeper).mp hargs
    exact h.eq_error hroom hargs

/-- Of two calls with the same arguments, the second is accepted if the first is. -/
theorem State.Calls.accepted_of {y : Expr} {other : List Checked.Expr → Checked.Expr}
    (hy : s.Calls id signature args y other) (hlive : s.arena.Live id) {e : Checked.Expr}
    (he : checkExpr id x s = .ok e s) : ∃ e', checkExpr id y s = .ok e' s := by
  have hdeeper : s.deeper.arena.Live id := hlive
  obtain ⟨⟨es, hargs, -⟩, -⟩ := (h.eq_ok_iff hroom hlive).mp he
  -- That arguments fit does not depend on where the call stands.
  have hfits := (checkArguments_eq_ok_iff hdeeper).mp hargs
  exact ⟨other es, hy.eq_ok hroom ((checkArguments_eq_ok_iff hdeeper).mpr hfits)⟩

end Room

/-- The reasons against the arguments of one call are those against the arguments of another
one, reported at the call itself if it is their number. -/
theorem State.Misfit.elsewhere (h : s.Misfit id signature args span d) (span' : Span) :
    ∃ d', s.Misfit id signature args span' d' ∧ d'.cause = d.cause ∧
      (d' = d ∨ d.position = some span.start ∧ d'.position = some span'.start) := by
  cases h with
  | argument hargs hbefore harg => exact ⟨d, .argument hargs hbefore harg, rfl, .inl rfl⟩
  | count hargs hcount => exact ⟨_, .count hargs hcount, rfl, .inr ⟨rfl, rfl⟩⟩
  | type hargs hcount hfirst harg => exact ⟨_, .type hargs hcount hfirst harg, rfl, .inl rfl⟩

/-- **What becomes of arguments.** In every state whose scopes are well-formed, and in every
scope of it: arguments are accepted exactly when each of them is, they are as many as the
parameters, and the type of each fits its parameter; they are then what they became, in order.
Otherwise they are refused for a reason of `Shipshape.State.Misfit`, and nothing changes.

A call of a function, of a method or of a constructor, once its callee is resolved and if
there is room for it, is accepted and refused as its arguments are, one level deeper. So two
calls that pass the same arguments to the same signature are both accepted or both refused,
for the same cause and at the same place, where a wrong number of arguments is reported at
the call itself. -/
theorem checkArguments_outcome (hs : s.arena.WellFormed) (hid : id < s.arena.size)
    (signature : Signature) (args : List Expr) :
    (∀ span es t, checkArguments id signature args span s = .ok es t ↔
      List.Forall₂ (s.Checks id) args es ∧ signature.Accepts es ∧ t = s) ∧
    (∀ span failure t, checkArguments id signature args span s = .error failure t ↔
      (∃ d, s.Misfit id signature args span d ∧ failure = .refused d) ∧ t = s) ∧
    (∀ x node, s.Calls id signature args x node → s.depth < s.limit →
      (∀ e t, checkExpr id x s = .ok e t ↔ (∃ es,
        checkArguments id signature args x.span s.deeper = .ok es s.deeper ∧ e = node es) ∧ t = s) ∧
      (∀ failure t, checkExpr id x s = .error failure t ↔
        checkArguments id signature args x.span s.deeper = .error failure s.deeper ∧ t = s)) ∧
    ∀ x y node other, s.Calls id signature args x node → s.Calls id signature args y other →
      s.depth < s.limit →
      ((∃ e, checkExpr id x s = .ok e s) ↔ ∃ e, checkExpr id y s = .ok e s) ∧
      ∀ d, checkExpr id x s = .error (.refused d) s →
        ∃ d', checkExpr id y s = .error (.refused d') s ∧ d'.cause = d.cause ∧
          (d' = d ∨ d.position = some x.span.start ∧ d'.position = some y.span.start) := by
  have hlive : s.arena.Live id := ⟨hs, hid⟩
  have hdeeper : s.deeper.arena.Live id := hlive
  refine ⟨fun span es t => checkArguments_eq_ok_iff hlive,
    fun span failure t => checkArguments_eq_error_iff hlive,
    fun x node hx hroom => ⟨fun e t => hx.eq_ok_iff hroom hlive,
      fun failure t => hx.eq_error_iff hroom hlive⟩,
    fun x y node other hx hy hroom => ⟨?_, fun d hd => ?_⟩⟩
  · exact ⟨fun ⟨_, he⟩ => hx.accepted_of hroom hy hlive he,
      fun ⟨_, he⟩ => hy.accepted_of hroom hx hlive he⟩
  · obtain ⟨hargs, -⟩ := (hx.eq_error_iff hroom hlive).mp hd
    obtain ⟨⟨_, hmisfit, ⟨⟩⟩, -⟩ := (checkArguments_eq_error_iff hdeeper).mp hargs
    obtain ⟨d', hother, hcause, hplace⟩ := hmisfit.elsewhere y.span
    exact ⟨d', hy.eq_error hroom hother.eq_error, hcause, hplace⟩

/-- A pier with a function, a constructor and a method that all take a whole number. -/
def pier : State where
  arena := Arena.initial.extend Arena.root
    [("load", ⟨5, .function "load" ⟨[.int], .none⟩⟩), ("Crane", ⟨6, .classType ⟨0, "Crane"⟩⟩),
      ("crane", ⟨7, .var "crane" (.object ⟨0, "Crane"⟩)⟩)]
  classes := ⟨[⟨"Crane", ⟨[.int], .none⟩, [], [("load", .function [.int] .none)]⟩]⟩
  nextEntity := 8
  depth := 0
  limit := 8

/-- A number, and a name that nothing has. -/
def lost : List Expr := [.literal (.int 1) .null, .symbol "dock" .null]

/-- What is said about the name. -/
def lostDock : Diagnostic := .located (.undeclaredIdentifier "dock") .null

/-- There are too many arguments, and the second is refused by itself. The latter is what is
reported, by the arguments alone and by each of the three calls. -/
theorem pier_outcome : pier.arena.WellFormed ∧ Arena.root < pier.arena.size ∧
    pier.depth < pier.limit ∧
    checkArguments Arena.root ⟨[.int], .none⟩ lost .null pier = .error (.refused lostDock) pier ∧
    ∀ x ∈ [.call (.symbol "load" .null) lost .null,
        .methodCall (.symbol "crane" .null) "load" lost .null, .construct "Crane" lost .null],
      (∃ node, pier.Calls Arena.root ⟨[.int], .none⟩ lost x node) ∧
        checkExpr Arena.root x pier = .error (.refused lostDock) pier := by
  have hwf : pier.arena.WellFormed := Arena.wellFormed_initial.extend _ _
  have hsize : Arena.root < pier.arena.size := by decide
  have hroom : pier.depth < pier.limit := by decide
  obtain ⟨-, herror, hcall, -⟩ := checkArguments_outcome hwf hsize ⟨[.int], .none⟩ lost
  have hlost : lost = [.literal (.int 1) .null] ++ .symbol "dock" .null :: [] := rfl
  have hfirst : ∀ e ∈ [.literal (.int 1) .null], ∃ e', pier.Checks Arena.root e e' := by
    simp only [List.forall_mem_singleton]
    exact ⟨_, rfl⟩
  have hargs := (herror .null (.refused lostDock) pier).mpr
    ⟨⟨_, .argument hlost hfirst rfl, rfl⟩, rfl⟩
  have hfunction : pier.Calls Arena.root ⟨[.int], .none⟩ lost
      (.call (.symbol "load" .null) lost .null) _ := .call rfl rfl
  have hmethod : pier.Calls Arena.root ⟨[.int], .none⟩ lost
      (.methodCall (.symbol "crane" .null) "load" lost .null) _ := .methodCall rfl rfl rfl
  have hctor : pier.Calls Arena.root ⟨[.int], .none⟩ lost (.construct "Crane" lost .null) _ :=
    .construct rfl rfl rfl
  refine ⟨hwf, hsize, hroom, hargs, ?_⟩
  simp only [List.forall_mem_cons, List.not_mem_nil, false_imp_iff, implies_true, and_true]
  exact ⟨⟨⟨_, hfunction⟩, ((hcall _ _ hfunction hroom).2 _ _).mpr ⟨rfl, rfl⟩⟩,
    ⟨⟨_, hmethod⟩, ((hcall _ _ hmethod hroom).2 _ _).mpr ⟨rfl, rfl⟩⟩,
    ⟨_, hctor⟩, ((hcall _ _ hctor hroom).2 _ _).mpr ⟨rfl, rfl⟩⟩

end Shipshape
