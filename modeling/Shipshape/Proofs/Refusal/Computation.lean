import Shipshape.Check.Monad
import Shipshape.Check.Rule

/-!
# What a rule or a computation can complain about

A diagnostic says why something is refused, and where. What is common to all diagnostics of a
computation is found by going through the computation once, whatever it is: that they point to
some spans, or that they do not have a certain cause.

* `Shipshape.Cause.isOperand` – the causes that have to do with the type of a part;
* `Shipshape.Rule.Only` – a rule that fails does so with a diagnostic of a given kind only;
* `Shipshape.Check.Answers` – a computation that refuses something does so with a diagnostic
  of a given kind only, from whatever state it starts, and its value has a given property
  otherwise.

Each rule asks for the diagnostics that it can give itself, and each operation for those that
it can give. For computations there is one statement for each way of putting them together
(`Shipshape.Check.Answers.bind`, `Shipshape.Check.Answers.nested`,
`Shipshape.Check.Answers.withChild`).
-/

namespace Shipshape

/-- **The causes that have to do with the type of a part** of an expression or a statement. -/
def Cause.isOperand : Cause → Bool
  | .typeMismatch _ _ | .notABoolean _ | .notANumber _ | .notAnInteger _ | .notIterable _
  | .notCallable _ | .notAClass _ | .argumentMismatch _ => true
  | .duplicateDeclaration _ | .breakOutsideLoop | .selfOutsideClass | .returnOutsideFunction
  | .nestingTooDeep _ | .undeclaredIdentifier _ | .notAType _ | .notAValue _
  | .returnArityMismatch _ _ | .unknownMember _ _ | .ambiguousEmptyLiteral _ => false

/-- The causes that show two types. -/
def Cause.isMismatch : Cause → Bool
  | .typeMismatch _ _ | .argumentMismatch (.type _ _ _) => true
  | _ => false

variable {α β : Type} {E : Diagnostic → Prop}

/-! ### Rules -/

namespace Rule

/-- **A rule that fails** does so with a diagnostic of a given kind only. -/
def Only (result : Except Diagnostic α) (E : Diagnostic → Prop) : Prop :=
  ∀ d, result = .error d → E d

theorem Only.ok (a : α) : Only (.ok a) E := fun _ h => nomatch h

theorem Only.error {d : Diagnostic} (h : E d) : Only (α := α) (.error d) E := by
  rintro _ ⟨⟩
  exact h

theorem Only.bind {x : Except Diagnostic α} {f : α → Except Diagnostic β} (hx : Only x E)
    (hf : ∀ a, Only (f a) E) : Only (x >>= f) E := by
  cases x with
  | ok a => exact hf a
  | error d =>
    rintro _ ⟨⟩
    exact hx d rfl

/-- A rule that tests a condition. -/
theorem Only.test {c : Prop} [Decidable c] {a : α} {d : Diagnostic} (h : E d) :
    Only (if c then .ok a else .error d) E := by
  split
  · exact .ok a
  · exact .error h

/-- A diagnostic of the kind `E` may be given about a part. -/
def Allows (E : Diagnostic → Prop) (e : Checked.Expr) : Prop :=
  ∀ cause : Cause, cause.isOperand = true → E (.located cause e.span)

/-- A diagnostic of the kind `E` may be given about a part, unless it shows two types. -/
def AllowsPlain (E : Diagnostic → Prop) (e : Checked.Expr) : Prop :=
  ∀ cause : Cause, cause.isOperand = true → cause.isMismatch = false → E (.located cause e.span)

theorem Allows.plain {e : Checked.Expr} (h : Allows E e) : AllowsPlain E e :=
  fun cause hcause _ => h cause hcause

section PlainParts

variable {e : Checked.Expr} (he : AllowsPlain E e)
include he

theorem boolean_only : Only (boolean e) E := .test (he _ rfl rfl)

theorem integer_only : Only (integer e) E := .test (he _ rfl rfl)

theorem number_only : Only (number e) E := .test (he _ rfl rfl)

theorem summand_only : Only (summand e) E := .test (he _ rfl rfl)

theorem unary_only (op : UnaryOp) : Only (unary op e) E := by
  cases op with
  | negate => exact .bind (number_only he) fun _ => .ok _
  | not => exact .bind (boolean_only he) fun _ => .ok _

theorem callee_only : Only (callee e) E := by
  rw [callee]
  split
  · exact .ok _
  · exact .error (he _ rfl rfl)

theorem object_only : Only (object e) E := by
  rw [object]
  split
  · exact .ok _
  · exact .error (he _ rfl rfl)

theorem iterated_only : Only (iterated e) E := by
  rw [iterated]
  split
  · exact .ok _
  · exact .ok _
  · exact .error (he _ rfl rfl)

end PlainParts

section Parts

variable {e : Checked.Expr} (he : Allows E e)
include he

theorem assignable_only (target : Ty) : Only (assignable e target) E := .test (he _ rfl)

/-- An element that does not fit is blamed on all that is run over. -/
theorem declaredElement_only (element declared : Ty) :
    Only (declaredElement e element declared) E :=
  .test (he _ rfl)

theorem join_only (ty : Ty) : Only (join ty e) E := by
  rw [join]
  split
  · exact .ok _
  · exact .error (he _ rfl)

end Parts

variable {left right array index : Checked.Expr}

theorem subscript_only (harray : AllowsPlain E array) (hindex : AllowsPlain E index) :
    Only (subscript array index) E := by
  refine .bind (integer_only hindex) fun _ => ?_
  split
  · exact .ok _
  · exact .error (harray _ rfl rfl)

theorem binary_only (hleft : Allows E left) (hright : Allows E right) (op : BinaryOp) :
    Only (binary op left right) E := by
  have hjoin : Only (join left.ty right) E := join_only hright _
  have hshared : Only (discard (join left.ty right)) E := .bind hjoin fun _ => .ok _
  cases op with
  | add => exact .bind (summand_only hleft.plain) fun _ => hjoin
  | sub | mul | div | pow | rem => exact .bind (number_only hleft.plain) fun _ => hjoin
  | lt | le | gt | ge => exact .bind (number_only hleft.plain) fun _ => .bind hshared fun _ => .ok _
  | eq | ne => exact .bind hshared fun _ => .ok _
  | and | or =>
    exact .bind (boolean_only hleft.plain) fun _ => .bind (boolean_only hright.plain) fun _ => .ok _

theorem elements_only {es : List Checked.Expr} (hes : ∀ e ∈ es, Allows E e) (ty : Ty) :
    Only (elements ty es) E := by
  induction es generalizing ty with
  | nil => exact .ok ty
  | cons e es ih =>
    obtain ⟨he, hes⟩ := List.forall_mem_cons.mp hes
    rw [elements]
    split
    · exact ih hes _
    · next d hd => exact .error (join_only he ty d hd)

theorem argumentTypes_only {args : List Checked.Expr} (hargs : ∀ e ∈ args, Allows E e)
    (index : Nat) (params : List Ty) : Only (argumentTypes index params args) E := by
  induction args generalizing index params with
  | nil => cases params <;> exact .ok ()
  | cons arg args ih =>
    obtain ⟨harg, hargs⟩ := List.forall_mem_cons.mp hargs
    cases params with
    | nil => exact .ok ()
    | cons param params =>
      rw [argumentTypes]
      split
      · exact ih hargs _ _
      · exact .error (harg _ rfl)

/-- A wrong number of arguments is blamed on the call. -/
theorem arguments_only {args : List Checked.Expr} (hargs : ∀ e ∈ args, Allows E e) {span : Span}
    (hspan : ∀ mismatch, E (.located (.argumentMismatch mismatch) span)) (signature : Signature) :
    Only (arguments signature args span) E := by
  rw [arguments]
  split
  · exact argumentTypes_only hargs _ _
  · exact .error (hspan _)

theorem ambiguous_only {span : Span} (h : ∀ kind, E (.located (.ambiguousEmptyLiteral kind) span))
    (ty : Ty) : E (ambiguous ty span) := by
  rw [ambiguous.eq_def]
  split
  · exact h _
  · exact h _

theorem inferred_only {value : Checked.Expr}
    (h : ∀ kind, E (.located (.ambiguousEmptyLiteral kind) value.span)) :
    Only (inferred value) E := by
  rw [inferred]
  split
  · exact .error (ambiguous_only h _)
  · exact .ok _

theorem inferredElement_only {iterable : Checked.Expr}
    (h : ∀ kind, E (.located (.ambiguousEmptyLiteral kind) iterable.span)) (element : Ty) :
    Only (inferredElement iterable element) E := by
  rw [inferredElement]
  split
  · exact .error (ambiguous_only h _)
  · exact .ok _

theorem returns_only {span : Span}
    (h : ∀ name needed, E (.located (.returnArityMismatch name needed) span)) (function : Entity)
    (hasValue : Bool) : Only (returns function hasValue span) E := by
  rw [returns]
  split
  · exact .error (h _ _)
  · exact .ok ()

end Rule

/-! ### Computations -/

namespace Check

/-- **What a computation answers**, from whatever state it starts: it refuses something with a
diagnostic of the kind `E` only, and its value has the property `Q` when it succeeds. -/
structure Answers (m : Check α) (E : Diagnostic → Prop) (Q : α → Prop) : Prop where
  /-- A success. -/
  ok : ∀ {s a t}, m s = .ok a t → Q a
  /-- A refusal. -/
  refused : ∀ {s d t}, m s = .error (.refused d) t → E d

/-- A computation that refuses with a diagnostic of the kind `E` only, whatever it yields. -/
abbrev Only (m : Check α) (E : Diagnostic → Prop) : Prop := Answers m E fun _ => True

namespace Answers

variable {P : α → Prop} {Q : β → Prop}

theorem pure {b : β} (h : Q b) : Answers (pure b) E Q := by
  constructor
  · rintro s _ _ ⟨⟩
    exact h
  · rintro s d t ⟨⟩

theorem mono {m : Check β} {F : Diagnostic → Prop} {R : β → Prop} (h : Answers m E Q)
    (hE : ∀ d, E d → F d) (hQ : ∀ b, Q b → R b) : Answers m F R :=
  ⟨fun hrun => hQ _ (h.ok hrun), fun hrun => hE _ (h.refused hrun)⟩

/-- One computation after another. -/
theorem bind {m : Check α} {f : α → Check β} (hm : Answers m E P)
    (hf : ∀ a, P a → Answers (f a) E Q) : Answers (m >>= f) E Q := by
  constructor
  · intro s b t hrun
    cases hfirst : m s with
    | ok a u =>
      have hbind : (m >>= f) s = f a u := by simp [Bind.bind, EStateM.bind, hfirst]
      exact (hf a (hm.ok hfirst)).ok (hbind.symm.trans hrun)
    | error failure u =>
      have hbind : (m >>= f) s = .error failure u := by simp [Bind.bind, EStateM.bind, hfirst]
      cases hbind.symm.trans hrun
  · intro s d t hrun
    cases hfirst : m s with
    | ok a u =>
      have hbind : (m >>= f) s = f a u := by simp [Bind.bind, EStateM.bind, hfirst]
      exact (hf a (hm.ok hfirst)).refused (hbind.symm.trans hrun)
    | error failure u =>
      have hbind : (m >>= f) s = .error failure u := by simp [Bind.bind, EStateM.bind, hfirst]
      cases hbind.symm.trans hrun
      exact hm.refused hfirst

/-- One computation after another, when the value of the first does not matter. -/
theorem next {m : Check α} {f : α → Check β} (hm : m.Only E) (hf : ∀ a, Answers (f a) E Q) :
    Answers (m >>= f) E Q :=
  bind hm fun a _ => hf a

/-- What may fail, but not by a refusal. -/
theorem of_total {m : Check α} (h : ∀ s d t, m s ≠ .error (.refused d) t) : m.Only E :=
  ⟨fun _ => trivial, fun hrun => absurd hrun (h _ _ _)⟩

theorem refuse {cause : Cause} {span : Span} (h : E (.located cause span)) :
    Answers (refuse cause span : Check β) E Q := by
  constructor
  · rintro s _ _ ⟨⟩
  · rintro s d t ⟨⟩
    exact h

theorem ofRule {x : Except Diagnostic α} (h : Rule.Only x E) : (ofRule x).Only E := by
  cases x with
  | ok a => exact pure trivial
  | error d =>
    refine ⟨fun _ => trivial, ?_⟩
    rintro s _ t ⟨⟩
    exact h d rfl

theorem require {value : Option α} {cause : Cause} {span : Span} (h : E (.located cause span)) :
    (require value cause span).Only E := by
  cases value with
  | some a => exact pure trivial
  | none => exact refuse h

/-! ### Scopes -/

theorem get_ne_refused (a : Arena) (id : ScopeId) (d : Diagnostic) :
    a.get id ≠ .error (.refused d) := by
  rw [Arena.get]
  split
  · rintro ⟨⟩
  · rintro ⟨⟩

theorem findFrom_ne_refused (a : Arena) (name : String) (steps : Nat) (id : ScopeId)
    (d : Diagnostic) : a.findFrom name steps id ≠ .error (.refused d) := by
  induction steps generalizing id with
  | zero => exact nofun
  | succ steps ih =>
    rw [Arena.findFrom]
    split
    · next failure hget =>
      rintro ⟨⟩
      exact get_ne_refused a id d hget
    · split
      · exact nofun
      · split
        · exact ih _
        · exact nofun

theorem scope (id : ScopeId) : (scope id).Only E := by
  refine of_total fun s d t => ?_
  rw [Check.scope]
  split
  · exact nofun
  · next failure hget =>
    rintro ⟨⟩
    exact get_ne_refused _ id d hget

theorem resolve {name : String} {span : Span} (h : E (.located (.undeclaredIdentifier name) span))
    (id : ScopeId) : (resolve id name span).Only E := by
  refine ⟨fun _ => trivial, fun {s d t} hrun => ?_⟩
  rw [Check.resolve, Arena.resolve] at hrun
  split at hrun
  · cases hrun
  · next hresolve =>
    cases hrun
    split at hresolve
    · next hfind =>
      cases hresolve
      exact absurd hfind (findFrom_ne_refused _ _ _ _ d)
    · cases hresolve
    · cases hresolve
      exact h

theorem declare {name : String} {span : Span} (h : E (.located (.duplicateDeclaration name) span))
    (id : ScopeId) (entity : Entity) : (declare id name entity span).Only E := by
  refine ⟨fun _ => trivial, fun {s d t} hrun => ?_⟩
  rw [Check.declare, Arena.declare] at hrun
  split at hrun
  · cases hrun
  · next hdeclare =>
    cases hrun
    split at hdeclare
    · next hget =>
      cases hdeclare
      exact absurd hget (get_ne_refused _ id d)
    · split at hdeclare
      · cases hdeclare
        exact h
      · cases hdeclare

theorem openScope (id : ScopeId) (changes : Overrides) : (openScope id changes).Only E := by
  refine of_total fun s d t => ?_
  rw [Check.openScope, Arena.child]
  cases hget : s.arena.get id with
  | ok found => exact nofun
  | error failure =>
    rintro ⟨⟩
    exact get_ne_refused _ id d hget

theorem closeScope (id : ScopeId) : (closeScope id).Only E := of_total fun _ _ _ => nofun

/-- A computation in a new scope. -/
theorem withChild {id : ScopeId} {changes : Overrides} {act : ScopeId → Check β}
    (h : ∀ inner, Answers (act inner) E Q) : Answers (withChild id changes act) E Q :=
  next (openScope id changes) fun inner => bind (h inner) fun _ hb =>
    next (closeScope inner) fun _ => pure hb

/-! ### Identities and members -/

theorem newEntity (binding : Binding) : (newEntity binding).Only E :=
  of_total fun _ _ _ => nofun

theorem newClass (name : String) : (newClass name).Only E := of_total fun _ _ _ => nofun

theorem classInfo (cls : ClassRef) : (classInfo cls).Only E := of_total fun _ _ _ => nofun

theorem setCtor (cls : ClassRef) (signature : Signature) : (setCtor cls signature).Only E :=
  of_total fun _ _ _ => nofun

theorem addField (cls : ClassRef) (name : String) (ty : Ty) : (addField cls name ty).Only E := by
  refine of_total fun s d t => ?_
  rw [Check.addField]
  split
  · exact nofun
  · exact nofun

theorem addMethod (cls : ClassRef) (name : String) (signature : Signature) :
    (addMethod cls name signature).Only E := by
  refine of_total fun s d t => ?_
  rw [Check.addMethod]
  split
  · exact nofun
  · exact nofun

/-! ### Nesting -/

/-- A node may lie too deep itself. -/
theorem nested {span : Span} {m : Check β} (hspan : ∀ n, E (.located (.nestingTooDeep n) span))
    (h : Answers m E Q) : Answers (nested span m) E Q := by
  constructor
  · intro s b t hrun
    rw [Check.nested] at hrun
    split at hrun
    · split at hrun
      · next hm =>
        cases hrun
        exact h.ok hm
      · cases hrun
    · cases hrun
  · intro s d t hrun
    rw [Check.nested] at hrun
    split at hrun
    · split at hrun
      · cases hrun
      · next hm =>
        cases hrun
        exact h.refused hm
    · cases hrun
      exact hspan _

end Answers

end Check

end Shipshape
