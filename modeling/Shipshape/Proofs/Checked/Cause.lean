import Shipshape.Proofs.Refusal.Computation

/-!
# Why a rule fails

* `Shipshape.Cause.isTyping` – the reasons that are about types, or about what a name
  stands for;
* `Shipshape.Rule.Typing` – a result that fails for such a reason only.

Every rule of `Shipshape.Rule` is of this sort. So a duplicate declaration, a break, a
return or a self in the wrong place, and a tree that nests too deep are never reported by
a rule, only where the checker itself says so.
-/

namespace Shipshape

/-- **The reasons that are about types**, or about what a name stands for. -/
def Cause.isTyping : Cause → Bool
  | .duplicateDeclaration _ | .breakOutsideLoop | .selfOutsideClass | .returnOutsideFunction
  | .nestingTooDeep _ => false
  | .undeclaredIdentifier _ | .typeMismatch _ _ | .notABoolean _ | .notANumber _ | .notAnInteger _
  | .notIterable _ | .notCallable _ | .notAClass _ | .notAType _ | .notAValue _
  | .returnArityMismatch _ _ | .argumentMismatch _ | .unknownMember _ _
  | .ambiguousEmptyLiteral _ => true

namespace Rule

variable {α β : Type}

/-- **A result that fails for a reason about types only.** -/
def Typing (result : Except Diagnostic α) : Prop :=
  ∀ d, result = .error d → d.cause.isTyping = true

theorem Typing.ok (a : α) : Typing (.ok a) := Only.ok a

theorem Typing.located {cause : Cause} (h : cause.isTyping = true) (span : Span) :
    Typing (α := α) (.error (.located cause span)) :=
  Only.error h

theorem Typing.bind {x : Except Diagnostic α} {f : α → Except Diagnostic β} (hx : Typing x)
    (hf : ∀ a, Typing (f a)) : Typing (x >>= f) :=
  Only.bind hx hf

/-- A part that does not have the type it needs is a reason of this sort. -/
theorem allows_typing (e : Checked.Expr) : Allows (·.cause.isTyping = true) e := by
  intro cause hcause
  cases cause with
  | typeMismatch | notABoolean | notANumber | notAnInteger | notIterable | notCallable
  | notAClass | argumentMismatch => rfl
  | _ => cases hcause

theorem boolean_typing (e : Checked.Expr) : Typing (boolean e) :=
  boolean_only (allows_typing e).plain

theorem integer_typing (e : Checked.Expr) : Typing (integer e) :=
  integer_only (allows_typing e).plain

theorem assignable_typing (value : Checked.Expr) (target : Ty) : Typing (assignable value target) :=
  assignable_only (allows_typing value) target

theorem declaredElement_typing (iterable : Checked.Expr) (element declared : Ty) :
    Typing (declaredElement iterable element declared) :=
  declaredElement_only (allows_typing iterable) element declared

theorem join_typing (ty : Ty) (e : Checked.Expr) : Typing (join ty e) :=
  join_only (allows_typing e) ty

theorem elements_typing (ty : Ty) (es : List Checked.Expr) : Typing (elements ty es) :=
  elements_only (fun e _ => allows_typing e) ty

theorem binary_typing (op : BinaryOp) (left right : Checked.Expr) :
    Typing (binary op left right) :=
  binary_only (allows_typing left) (allows_typing right) op

theorem unary_typing (op : UnaryOp) (operand : Checked.Expr) : Typing (unary op operand) :=
  unary_only (allows_typing operand).plain op

theorem callee_typing (e : Checked.Expr) : Typing (callee e) := callee_only (allows_typing e).plain

theorem object_typing (e : Checked.Expr) : Typing (object e) := object_only (allows_typing e).plain

theorem subscript_typing (array index : Checked.Expr) : Typing (subscript array index) :=
  subscript_only (allows_typing array).plain (allows_typing index).plain

theorem arguments_typing (signature : Signature) (args : List Checked.Expr) (span : Span) :
    Typing (arguments signature args span) :=
  arguments_only (fun e _ => allows_typing e) (fun _ => rfl) signature

theorem inferred_typing (value : Checked.Expr) : Typing (inferred value) :=
  inferred_only fun _ => rfl

theorem inferredElement_typing (iterable : Checked.Expr) (element : Ty) :
    Typing (inferredElement iterable element) :=
  inferredElement_only (fun _ => rfl) element

theorem iterated_typing (iterable : Checked.Expr) : Typing (iterated iterable) :=
  iterated_only (allows_typing iterable).plain

theorem returns_typing (function : Entity) (hasValue : Bool) (span : Span) :
    Typing (returns function hasValue span) :=
  returns_only (fun _ _ => rfl) function hasValue

end Rule

end Shipshape
