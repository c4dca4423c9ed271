import Shipshape.Proofs.Induction
import Shipshape.Proofs.Respelling.Tree

/-!
# Rules do not see the spelling

* `Shipshape.Ty.equivalent_respell`, `Shipshape.Ty.common_respell` – types compare as before
  when classes have other names: classes are told apart by their numbers, and names that differ
  still differ;
* `Shipshape.Diagnostic.Respells` – two diagnostics say the same about respelled programs;
* `Shipshape.Echoes` – two results say the same: both fail, with diagnostics that say the same,
  or the second is a function of the first;
* `Shipshape.Rule.binary_echoes`, `Shipshape.Rule.arguments_echoes` and the like – every rule
  says the same about respelled parts.

A diagnostic names types by their texts, and a text does not determine the type. So that two
texts belong together is said through a type that has the one, and the other once it is
respelled.
-/

namespace Shipshape

variable {f : Respelling}

/-! ### Types -/

theorem ClassRef.respell_injective : Function.Injective (ClassRef.respell f) := by
  rintro ⟨id, name⟩ ⟨id', name'⟩ h
  obtain ⟨hid, hname⟩ := ClassRef.mk.inj h
  rw [ClassRef.mk.injEq]
  exact ⟨hid, f.name_injective hname⟩

@[simp] theorem ClassRef.respell_inj {c d : ClassRef} : c.respell f = d.respell f ↔ c = d :=
  respell_injective.eq_iff

namespace Ty

@[simp] theorem isAny_respell (ty : Ty) : (ty.respell f).isAny = ty.isAny := by
  cases ty <;> rfl

@[simp] theorem isNone_respell (ty : Ty) : (ty.respell f).isNone = ty.isNone := by
  cases ty <;> rfl

@[simp] theorem isInteger_respell (ty : Ty) : (ty.respell f).isInteger = ty.isInteger := by
  cases ty <;> rfl

@[simp] theorem isNumeric_respell (ty : Ty) : (ty.respell f).isNumeric = ty.isNumeric := by
  cases ty <;> rfl

@[simp] theorem isBoolean_respell (ty : Ty) : (ty.respell f).isBoolean = ty.isBoolean := by
  cases ty <;> rfl

@[simp] theorem isString_respell (ty : Ty) : (ty.respell f).isString = ty.isString := by
  cases ty <;> rfl

@[simp] theorem containsAny_respell (ty : Ty) : (ty.respell f).containsAny = ty.containsAny := by
  induction ty with
  | scalar kind => rfl
  | array element ih => rw [respell_array, containsAny, containsAny, ih]
  | map key value ihk ihv => rw [respell_map, containsAny, containsAny, ihk, ihv]
  | function params result => rfl
  | object cls => rfl

theorem equivalentList_respell {as : List Ty}
    (has : ∀ a ∈ as, ∀ b : Ty, (a.respell f).equivalent (b.respell f) = a.equivalent b)
    (bs : List Ty) : equivalentList (respellTys f as) (respellTys f bs) = equivalentList as bs := by
  induction as generalizing bs with
  | nil => cases bs <;> simp [equivalentList]
  | cons a as ih =>
    obtain ⟨ha, has⟩ := List.forall_mem_cons.mp has
    cases bs with
    | nil => simp [equivalentList]
    | cons b bs => rw [respellTys_cons, respellTys_cons, equivalentList, equivalentList, ha, ih has]

/-- **Types that can be read as one another still can.** -/
@[simp] theorem equivalent_respell (a b : Ty) :
    (a.respell f).equivalent (b.respell f) = a.equivalent b := by
  induction a generalizing b with
  | scalar kind => cases kind <;> cases b <;> simp [equivalent]
  | array element ih => cases b <;> simp [equivalent, ih]
  | map key value ihk ihv => cases b <;> simp [equivalent, ihk, ihv]
  | function params result ihp ihr =>
    cases b <;> simp [equivalent, equivalentList_respell ihp, ihr]
  | object cls =>
    cases b with
    | object other =>
      rw [respell_object, respell_object, equivalent, equivalent, Bool.eq_iff_iff, beq_iff_eq,
        beq_iff_eq]
      exact ClassRef.respell_inj
    | _ => simp [equivalent]

@[simp] theorem assignableTo_respell (ty target : Ty) :
    (ty.respell f).assignableTo (target.respell f) = ty.assignableTo target := by
  rw [assignableTo, assignableTo, isAny_respell, equivalent_respell]

/-- **The type that two types share is respelled with them.** -/
theorem common_respell (a b : Ty) :
    (a.respell f).common (b.respell f) = (a.common b).map (Ty.respell f) := by
  induction a generalizing b with
  | scalar kind =>
    cases kind with
    | any => simp [common]
    | _ =>
      cases b with
      | scalar other => cases other <;> simp [common]
      | _ => simp [common]
  | array element ih =>
    cases b with
    | scalar other => cases other <;> simp [common]
    | array other => simp [common, ih, Function.comp_def]
    | _ => simp [common]
  | map key value ihk ihv =>
    cases b with
    | scalar other => cases other <;> simp [common]
    | map key' value' =>
      rw [respell_map, respell_map, common, common, ihk, ihv]
      cases key.common key' <;> cases value.common value' <;> simp
    | _ => simp [common]
  | function params result =>
    cases b with
    | scalar other => cases other <;> simp [common]
    | function params' result' =>
      have hto := equivalent_respell (f := f) (.function params result) (.function params' result')
      have hfro := equivalent_respell (f := f) (.function params' result') (.function params result)
      rw [respell_function, respell_function] at hto hfro ⊢
      rw [common, common, hto, hfro]
      split <;> simp
    | _ => simp [common]
  | object cls =>
    cases b with
    | scalar other => cases other <;> simp [common]
    | object other =>
      by_cases h : cls = other <;> simp [common, h]
    | _ => simp [common]

end Ty

/-! ### Entities -/

namespace Entity

theorem valueType?_respell (e : Entity) :
    (e.respell f).valueType? = e.valueType?.map (Ty.respell f) := by
  obtain ⟨id, binding⟩ := e
  cases binding with
  | function name signature => simp [respell, Binding.respell, valueType?, Signature.respell,
      Signature.toTy, Ty.respell]
  | var | param | field | classType | typeName => rfl

theorem denotedType?_respell (e : Entity) :
    (e.respell f).denotedType? = e.denotedType?.map (Ty.respell f) := by
  obtain ⟨id, binding⟩ := e
  cases binding with
  | classType cls => simp [respell, Binding.respell, denotedType?, Ty.respell]
  | var | param | field | function | typeName => rfl

theorem class?_respell (e : Entity) :
    (e.respell f).class? = e.class?.map (ClassRef.respell f) := by
  obtain ⟨id, binding⟩ := e
  cases binding <;> rfl

@[simp] theorem resultType_respell (e : Entity) :
    (e.respell f).resultType = e.resultType.respell f := by
  obtain ⟨id, binding⟩ := e
  cases binding with
  | function name signature => rfl
  | var | param | field | classType | typeName => simp [respell, Binding.respell, resultType]

end Entity

/-! ### Diagnostics -/

/-- **Two reasons say the same**, the one about a program and the other about the program
respelled: they are of one kind, with the same numbers and flags, and with names and types that
belong together. -/
inductive Cause.Respells (f : Respelling) : Cause → Cause → Prop
  /-- The name is taken. -/
  | duplicateDeclaration (name : String) :
    Respells f (.duplicateDeclaration name) (.duplicateDeclaration (f.name name))
  /-- The name is not visible. -/
  | undeclaredIdentifier (name : String) :
    Respells f (.undeclaredIdentifier name) (.undeclaredIdentifier (f.name name))
  /-- One type stands for another. -/
  | typeMismatch (expected received : Ty) :
    Respells f (.typeMismatch expected.text received.text)
      (.typeMismatch (expected.respell f).text (received.respell f).text)
  /-- A truth value is needed. -/
  | notABoolean (found : Ty) :
    Respells f (.notABoolean found.text) (.notABoolean (found.respell f).text)
  /-- A number is needed. -/
  | notANumber (found : Ty) :
    Respells f (.notANumber found.text) (.notANumber (found.respell f).text)
  /-- A whole number is needed. -/
  | notAnInteger (found : Ty) :
    Respells f (.notAnInteger found.text) (.notAnInteger (found.respell f).text)
  /-- An array or a map is needed. -/
  | notIterable (found : Ty) :
    Respells f (.notIterable found.text) (.notIterable (found.respell f).text)
  /-- A function is needed. -/
  | notCallable (found : Ty) :
    Respells f (.notCallable found.text) (.notCallable (found.respell f).text)
  /-- An object is needed. -/
  | notAnObject (found : Ty) :
    Respells f (.notAClass found.text) (.notAClass (found.respell f).text)
  /-- The name of a class is needed. -/
  | notAClass (name : String) : Respells f (.notAClass name) (.notAClass (f.name name))
  /-- The name denotes no type. -/
  | notAType (name : String) : Respells f (.notAType name) (.notAType (f.name name))
  /-- The name denotes no value. -/
  | notAValue (name : String) : Respells f (.notAValue name) (.notAValue (f.name name))
  /-- A break without a loop. -/
  | breakOutsideLoop : Respells f .breakOutsideLoop .breakOutsideLoop
  /-- A self without a class. -/
  | selfOutsideClass : Respells f .selfOutsideClass .selfOutsideClass
  /-- A return without a function. -/
  | returnOutsideFunction : Respells f .returnOutsideFunction .returnOutsideFunction
  /-- A return with a value where none is expected, or the other way round. -/
  | returnArityMismatch (function : Entity) (expectsValue : Bool) :
    Respells f (.returnArityMismatch function.name expectsValue)
      (.returnArityMismatch (function.respell f).name expectsValue)
  /-- Too many or too few arguments. -/
  | argumentCount (required passed : Nat) :
    Respells f (.argumentMismatch (.count required passed))
      (.argumentMismatch (.count required passed))
  /-- An argument of the wrong type. -/
  | argumentType (index : Nat) (expected received : Ty) :
    Respells f (.argumentMismatch (.type index expected.text received.text))
      (.argumentMismatch (.type index (expected.respell f).text (received.respell f).text))
  /-- The class has no such member. -/
  | unknownMember (cls member : String) :
    Respells f (.unknownMember cls member) (.unknownMember (f.name cls) (f.name member))
  /-- An empty literal leaves a type open. -/
  | ambiguousEmptyLiteral (literal : String) :
    Respells f (.ambiguousEmptyLiteral literal) (.ambiguousEmptyLiteral literal)
  /-- The program nests too deep. -/
  | nestingTooDeep (limit : Nat) : Respells f (.nestingTooDeep limit) (.nestingTooDeep limit)

/-- **Two diagnostics say the same**, at positions that belong together. -/
structure Diagnostic.Respells (f : Respelling) (d d' : Diagnostic) : Prop where
  /-- The reasons. -/
  cause : d.cause.Respells f d'.cause
  /-- The positions. -/
  position : d'.position = d.position.map f.position

theorem Diagnostic.Respells.located {c c' : Cause} (h : c.Respells f c') (span : Span) :
    (Diagnostic.located c span).Respells f (.located c' (span.respell f)) :=
  ⟨h, rfl⟩

/-! ### Results -/

section Results

variable {α β γ δ : Type}

/-- **Two results say the same**: both fail and say the same, or `g` gives the second from the
first. -/
inductive Echoes (f : Respelling) (g : α → β) : Except Diagnostic α → Except Diagnostic β → Prop
  /-- Two successes. -/
  | ok (a : α) : Echoes f g (.ok a) (.ok (g a))
  /-- Two failures. -/
  | error {d d' : Diagnostic} : d.Respells f d' → Echoes f g (.error d) (.error d')

namespace Echoes

variable {g : α → β} {h : γ → δ}

theorem bind {x : Except Diagnostic α} {x' : Except Diagnostic β} {k : α → Except Diagnostic γ}
    {k' : β → Except Diagnostic δ} (hx : Echoes f g x x')
    (hk : ∀ a, Echoes f h (k a) (k' (g a))) : Echoes f h (x >>= k) (x' >>= k') := by
  cases hx with
  | ok a => exact hk a
  | error hd => exact .error hd

theorem pure {a : α} {b : β} (hb : b = g a) :
    Echoes f g (Pure.pure a : Except Diagnostic α) (Pure.pure b) := by
  subst hb
  exact .ok a

/-- A test that comes out the same. -/
theorem ite {c c' : Bool} (hc : c' = c) {x y : Except Diagnostic α} {x' y' : Except Diagnostic β}
    (hx : Echoes f g x x') (hy : Echoes f g y y') :
    Echoes f g (if c then x else y) (if c' then x' else y') := by
  subst hc
  cases c' with
  | true => exact hx
  | false => exact hy

end Echoes

end Results

/-! ### Rules -/

namespace Rule

variable (f : Respelling)

theorem mismatch_respells (expected received : Ty) (span : Span) :
    (mismatch expected received span).Respells f
      (mismatch (expected.respell f) (received.respell f) (span.respell f)) :=
  Diagnostic.Respells.located (.typeMismatch ..) span

theorem boolean_echoes (e : Checked.Expr) : Echoes f id (boolean e) (boolean (e.respell f)) := by
  rw [boolean, boolean, e.ty_respell, e.span_respell]
  exact .ite (by simp) (.ok ()) (.error (.located (.notABoolean _) _))

theorem integer_echoes (e : Checked.Expr) : Echoes f id (integer e) (integer (e.respell f)) := by
  rw [integer, integer, e.ty_respell, e.span_respell]
  exact .ite (by simp) (.ok ()) (.error (.located (.notAnInteger _) _))

theorem number_echoes (e : Checked.Expr) : Echoes f id (number e) (number (e.respell f)) := by
  rw [number, number, e.ty_respell, e.span_respell]
  exact .ite (by simp) (.ok ()) (.error (.located (.notANumber _) _))

theorem summand_echoes (e : Checked.Expr) : Echoes f id (summand e) (summand (e.respell f)) := by
  rw [summand, summand, e.ty_respell, e.span_respell]
  exact .ite (by simp) (.ok ()) (.error (.located (.notANumber _) _))

theorem assignable_echoes (value : Checked.Expr) (target : Ty) :
    Echoes f id (assignable value target) (assignable (value.respell f) (target.respell f)) := by
  rw [assignable, assignable, value.ty_respell, value.span_respell]
  exact .ite (by simp) (.ok ()) (.error (mismatch_respells ..))

theorem join_echoes (ty : Ty) (e : Checked.Expr) :
    Echoes f (Ty.respell f) (join ty e) (join (ty.respell f) (e.respell f)) := by
  rw [join, join, e.ty_respell, e.span_respell, Ty.common_respell]
  cases ty.common e.ty with
  | some shared => exact .ok shared
  | none => exact .error (mismatch_respells ..)

theorem elements_echoes (ty : Ty) (es : List Checked.Expr) :
    Echoes f (Ty.respell f) (elements ty es)
      (elements (ty.respell f) (Checked.respellExprs f es)) := by
  induction es generalizing ty with
  | nil =>
    rw [Checked.respellExprs, elements, elements]
    exact .ok ty
  | cons e es ih =>
    rw [Checked.respellExprs, elements, elements]
    have hjoin := join_echoes f ty e
    generalize join ty e = x at hjoin ⊢
    generalize join (ty.respell f) (e.respell f) = x' at hjoin ⊢
    cases hjoin with
    | ok shared => exact ih shared
    | error hd => exact .error hd

theorem binary_echoes (op : BinaryOp) (left right : Checked.Expr) :
    Echoes f (Ty.respell f) (binary op left right)
      (binary op (left.respell f) (right.respell f)) := by
  have hjoin := join_echoes f left.ty right
  rw [← left.ty_respell] at hjoin
  cases op with
  | add => exact .bind (summand_echoes f left) fun _ => hjoin
  | sub | mul | div | pow | rem => exact .bind (number_echoes f left) fun _ => hjoin
  | lt | le | gt | ge =>
    refine .bind (number_echoes f left) fun _ => .bind (g := id) ?_ fun _ => .pure rfl
    exact .bind hjoin fun _ => .pure rfl
  | eq | ne =>
    refine .bind (g := id) ?_ fun _ => .pure rfl
    exact .bind hjoin fun _ => .pure rfl
  | and | or =>
    exact .bind (boolean_echoes f left) fun _ => .bind (boolean_echoes f right) fun _ => .pure rfl

theorem unary_echoes (op : UnaryOp) (operand : Checked.Expr) :
    Echoes f (Ty.respell f) (unary op operand) (unary op (operand.respell f)) := by
  cases op with
  | negate => exact .bind (number_echoes f operand) fun _ => .pure (operand.ty_respell f)
  | not => exact .bind (boolean_echoes f operand) fun _ => .pure rfl

theorem callee_echoes (e : Checked.Expr) :
    Echoes f (Signature.respell f) (callee e) (callee (e.respell f)) := by
  rw [callee, callee, e.ty_respell, e.span_respell]
  cases hty : e.ty with
  | function params result => exact .ok (Signature.mk params result)
  | scalar | array | map | object => exact .error (.located (.notCallable _) _)

theorem object_echoes (e : Checked.Expr) :
    Echoes f (ClassRef.respell f) (object e) (object (e.respell f)) := by
  rw [object, object, e.ty_respell, e.span_respell]
  cases hty : e.ty with
  | object cls => exact .ok cls
  | scalar | array | map | function => exact .error (.located (.notAnObject _) _)

theorem subscript_echoes (array index : Checked.Expr) :
    Echoes f (Ty.respell f) (subscript array index)
      (subscript (array.respell f) (index.respell f)) := by
  refine .bind (integer_echoes f index) fun _ => ?_
  rw [array.ty_respell, array.span_respell]
  cases hty : array.ty with
  | array element => exact .ok element
  | scalar | map | function | object => exact .error (.located (.notIterable _) _)

theorem argumentTypes_echoes (index : Nat) (params : List Ty) (args : List Checked.Expr) :
    Echoes f id (argumentTypes index params args)
      (argumentTypes index (respellTys f params) (Checked.respellExprs f args)) := by
  induction params generalizing index args with
  | nil =>
    rw [respellTys_nil, argumentTypes.eq_def, argumentTypes.eq_def]
    exact .ok ()
  | cons param params ih =>
    cases args with
    | nil =>
      rw [respellTys_cons, Checked.respellExprs, argumentTypes.eq_def, argumentTypes.eq_def]
      exact .ok ()
    | cons arg args =>
      rw [respellTys_cons, Checked.respellExprs, argumentTypes, argumentTypes, arg.ty_respell,
        arg.span_respell]
      exact .ite (by simp) (ih (index + 1) args) (.error (.located (.argumentType ..) _))

theorem arguments_echoes (signature : Signature) (args : List Checked.Expr) (span : Span) :
    Echoes f id (arguments signature args span)
      (arguments (signature.respell f) (Checked.respellExprs f args) (span.respell f)) := by
  have hlen : (respellTys f signature.params).length = signature.params.length := by
    rw [respellTys_eq_map, List.length_map]
  rw [arguments, arguments, Checked.length_respellExprs, Signature.respell, hlen]
  split
  · exact argumentTypes_echoes f 0 signature.params args
  · exact .error (.located (.argumentCount ..) span)

theorem ambiguous_respells (ty : Ty) (span : Span) :
    (ambiguous ty span).Respells f (ambiguous (ty.respell f) (span.respell f)) := by
  cases ty with
  | map key value => exact .located (.ambiguousEmptyLiteral "map") span
  | scalar | array | function | object => exact .located (.ambiguousEmptyLiteral "array") span

theorem inferred_echoes (value : Checked.Expr) :
    Echoes f (Ty.respell f) (inferred value) (inferred (value.respell f)) := by
  rw [inferred, inferred, value.ty_respell, value.span_respell]
  exact .ite (by simp) (.error (ambiguous_respells ..)) (.ok value.ty)

theorem iterated_echoes (iterable : Checked.Expr) :
    Echoes f (Ty.respell f) (iterated iterable) (iterated (iterable.respell f)) := by
  rw [iterated, iterated, iterable.ty_respell, iterable.span_respell]
  cases hty : iterable.ty with
  | array element => exact .ok element
  | map key value => exact .ok value
  | scalar | function | object => exact .error (.located (.notIterable _) _)

theorem inferredElement_echoes (iterable : Checked.Expr) (element : Ty) :
    Echoes f (Ty.respell f) (inferredElement iterable element)
      (inferredElement (iterable.respell f) (element.respell f)) := by
  rw [inferredElement, inferredElement, iterable.ty_respell, iterable.span_respell]
  exact .ite (by simp) (.error (ambiguous_respells ..)) (.ok element)

theorem declaredElement_echoes (iterable : Checked.Expr) (element declared : Ty) :
    Echoes f (Ty.respell f) (declaredElement iterable element declared)
      (declaredElement (iterable.respell f) (element.respell f) (declared.respell f)) := by
  rw [declaredElement, declaredElement, iterable.span_respell]
  exact .ite (by simp) (.ok declared) (.error (mismatch_respells ..))

theorem returns_echoes (function : Entity) (hasValue : Bool) (span : Span) :
    Echoes f id (returns function hasValue span)
      (returns (function.respell f) hasValue (span.respell f)) := by
  rw [returns, returns, function.resultType_respell, Ty.isNone_respell]
  split
  · exact .error (.located (.returnArityMismatch ..) span)
  · exact .ok ()

end Rule

end Shipshape
