import Shipshape.Check.Rule
import Shipshape.Proofs.Checked.Typing
import Shipshape.Proofs.Induction

/-!
# When a rule succeeds

Each rule of the checker, read as a condition on types: a rule succeeds exactly
when its part of the local typing rules holds.

* `Shipshape.bind_eq_ok_iff` – when one step after another succeeds;
* `Shipshape.Rule.binary_eq_ok`, `Shipshape.Rule.unary_eq_ok` – operators;
* `Shipshape.Rule.elements_eq_ok_iff` – the type that all values of a list share;
* `Shipshape.Rule.arguments_eq_ok_iff` – arguments against parameters.
-/

namespace Shipshape

/-- Two steps succeed when the first does and then the second. -/
theorem bind_eq_ok_iff {ε α β : Type} {x : Except ε α} {f : α → Except ε β} {b : β} :
    (x >>= f) = .ok b ↔ ∃ a, x = .ok a ∧ f a = .ok b := by
  cases x with
  | ok a => exact ⟨fun h => ⟨a, rfl, h⟩, fun ⟨_, ha, h⟩ => Except.ok.inj ha ▸ h⟩
  | error d => exact ⟨fun h => (nomatch h), fun ⟨_, ha, _⟩ => nomatch ha⟩

/-- A step whose value does not matter. -/
theorem discard_eq_ok_iff {ε α : Type} {x : Except ε α} {u : Unit} :
    discard x = .ok u ↔ ∃ a, x = .ok a := by
  cases x with
  | ok a => exact ⟨fun _ => ⟨a, rfl⟩, fun _ => rfl⟩
  | error d => exact ⟨fun h => (nomatch h), fun ⟨_, ha⟩ => nomatch ha⟩

namespace Ty

theorem isBoolean_iff {t : Ty} : t.isBoolean = true ↔ t = .bool := by
  unfold isBoolean
  split <;> simp_all

theorem isInteger_iff {t : Ty} : t.isInteger = true ↔ t = .int := by
  unfold isInteger
  split <;> simp_all

theorem isString_iff {t : Ty} : t.isString = true ↔ t = .string := by
  unfold isString
  split <;> simp_all

theorem isNone_iff {t : Ty} : t.isNone = true ↔ t = .none := by
  unfold isNone
  split <;> simp_all

/-- What shares a type with a known scalar is that scalar, or is not yet known. -/
theorem common_scalar {kind : Scalar} (hkind : kind ≠ .any) {b c : Ty}
    (h : (Ty.scalar kind).common b = some c) :
    (b = .scalar kind ∨ b = .any) ∧ c = .scalar kind := by
  unfold common at h
  split at h <;> simp_all

theorem common_of_isNumeric {a b c : Ty} (ha : a.isNumeric = true) (h : a.common b = some c) :
    (b = a ∨ b = .any) ∧ c = a := by
  unfold isNumeric at ha
  split at ha
  · exact common_scalar (by decide) h
  · exact common_scalar (by decide) h
  · cases ha

theorem equivalentList_refl {ts : List Ty} (h : ∀ t ∈ ts, t.equivalent t = true) :
    equivalentList ts ts = true := by
  induction ts with
  | nil => rfl
  | cons t ts ih =>
    have ht := h t List.mem_cons_self
    have hts := ih fun u hu => h u (List.mem_cons_of_mem _ hu)
    rw [equivalentList, ht, hts, Bool.and_self]

/-- A type reads as itself. -/
theorem equivalent_refl (t : Ty) : t.equivalent t = true := by
  induction t with
  | scalar kind => cases kind <;> rfl
  | array element ih => rw [equivalent, ih]
  | map key value ihk ihv => rw [equivalent, ihk, ihv, Bool.and_self]
  | function params result ihps ihr =>
    rw [equivalent, equivalentList_refl ihps, ihr, Bool.and_self]
  | object cls => rw [equivalent, beq_self_eq_true]

theorem assignableTo_refl (t : Ty) : t.assignableTo t = true := by
  rw [assignableTo, equivalent_refl, Bool.or_true]

end Ty

namespace Rule

variable {e left right : Checked.Expr} {ty : Ty}

theorem boolean_eq_ok_iff {u : Unit} : boolean e = .ok u ↔ e.ty = .bool := by
  rw [boolean, ← Ty.isBoolean_iff]
  split <;> simp_all

theorem integer_eq_ok_iff {u : Unit} : integer e = .ok u ↔ e.ty = .int := by
  rw [integer, ← Ty.isInteger_iff]
  split <;> simp_all

theorem number_eq_ok_iff {u : Unit} : number e = .ok u ↔ e.ty.isNumeric = true := by
  rw [number]
  split <;> simp_all

theorem summand_eq_ok_iff {u : Unit} :
    summand e = .ok u ↔ e.ty.isNumeric = true ∨ e.ty = .string := by
  rw [summand, ← Ty.isString_iff, ← Bool.or_eq_true]
  split <;> simp_all

theorem assignable_eq_ok_iff {u : Unit} :
    assignable e ty = .ok u ↔ e.ty.assignableTo ty = true := by
  rw [assignable]
  split <;> simp_all

theorem join_eq_ok_iff {shared : Ty} : join ty e = .ok shared ↔ ty.common e.ty = some shared := by
  rw [join]
  split <;> simp_all

theorem elements_eq_ok_iff {es : List Checked.Expr} {shared : Ty} :
    elements ty es = .ok shared ↔ (es.map Checked.Expr.ty).foldlM Ty.common ty = some shared := by
  induction es generalizing ty with
  | nil => simp [elements]
  | cons e es ih =>
    rw [elements, List.map_cons, List.foldlM_cons, join]
    cases ty.common e.ty with
    | none => simp
    | some next => exact ih

/-- **An operator between operands succeeds by its typing.** -/
theorem binary_eq_ok {op : BinaryOp} (h : binary op left right = .ok ty) :
    op.Typed left.ty right.ty ty := by
  cases op with
  | add =>
    obtain ⟨_, hleft, hjoin⟩ := bind_eq_ok_iff.mp h
    have hleft := summand_eq_ok_iff.mp hleft
    have hjoin := join_eq_ok_iff.mp hjoin
    refine ⟨hleft, ?_⟩
    -- A number or a string shares a type with nothing but its like and `any`.
    rcases hleft with hnum | hstr
    · exact Ty.common_of_isNumeric hnum hjoin
    · rw [hstr] at hjoin ⊢
      exact Ty.common_scalar (by decide) hjoin
  | sub | mul | div | pow | rem =>
    obtain ⟨_, hleft, hjoin⟩ := bind_eq_ok_iff.mp h
    have hleft := number_eq_ok_iff.mp hleft
    exact ⟨hleft, Ty.common_of_isNumeric hleft (join_eq_ok_iff.mp hjoin)⟩
  | lt | le | gt | ge =>
    obtain ⟨_, hleft, h⟩ := bind_eq_ok_iff.mp h
    obtain ⟨_, hjoin, h⟩ := bind_eq_ok_iff.mp h
    have hleft := number_eq_ok_iff.mp hleft
    -- The shared type is not kept, but that there is one says what the right operand is.
    obtain ⟨shared, hjoin⟩ := discard_eq_ok_iff.mp hjoin
    have hright := (Ty.common_of_isNumeric hleft (join_eq_ok_iff.mp hjoin)).1
    exact ⟨hleft, hright, (Except.ok.inj h).symm⟩
  | eq | ne =>
    obtain ⟨_, hjoin, h⟩ := bind_eq_ok_iff.mp h
    obtain ⟨shared, hjoin⟩ := discard_eq_ok_iff.mp hjoin
    exact ⟨⟨shared, join_eq_ok_iff.mp hjoin⟩, (Except.ok.inj h).symm⟩
  | and | or =>
    obtain ⟨_, hleft, h⟩ := bind_eq_ok_iff.mp h
    obtain ⟨_, hright, h⟩ := bind_eq_ok_iff.mp h
    exact ⟨boolean_eq_ok_iff.mp hleft, boolean_eq_ok_iff.mp hright, (Except.ok.inj h).symm⟩

/-- **An operator before an operand succeeds by its typing.** -/
theorem unary_eq_ok {op : UnaryOp} (h : unary op e = .ok ty) : op.Typed e.ty ty := by
  cases op with
  | negate =>
    obtain ⟨_, hnum, h⟩ := bind_eq_ok_iff.mp h
    exact ⟨number_eq_ok_iff.mp hnum, (Except.ok.inj h).symm⟩
  | not =>
    obtain ⟨_, hbool, h⟩ := bind_eq_ok_iff.mp h
    exact ⟨boolean_eq_ok_iff.mp hbool, (Except.ok.inj h).symm⟩

theorem callee_eq_ok_iff {signature : Signature} :
    callee e = .ok signature ↔ e.ty = signature.toTy := by
  obtain ⟨params, result⟩ := signature
  rw [callee, Signature.toTy]
  split <;> simp_all

theorem object_eq_ok_iff {cls : ClassRef} : object e = .ok cls ↔ e.ty = .object cls := by
  rw [object]
  split <;> simp_all

theorem subscript_eq_ok {whole index : Checked.Expr} (h : subscript whole index = .ok ty) :
    whole.ty = .array ty ∧ index.ty = .int := by
  obtain ⟨_, hindex, h⟩ := bind_eq_ok_iff.mp h
  refine ⟨?_, integer_eq_ok_iff.mp hindex⟩
  split at h
  · next element heq => rw [heq, Except.ok.inj h]
  · cases h

theorem argumentTypes_eq_ok_iff {index : Nat} {params : List Ty} {args : List Checked.Expr}
    {u : Unit} (hlen : args.length = params.length) :
    argumentTypes index params args = .ok u ↔
      List.Forall₂ (fun arg param => arg.ty.assignableTo param = true) args params := by
  induction params generalizing index args with
  | nil =>
    obtain rfl := List.length_eq_zero_iff.mp hlen
    simp [argumentTypes]
  | cons param params ih =>
    cases args with
    | nil => cases hlen
    | cons arg args =>
      rw [argumentTypes, List.forall₂_cons]
      by_cases hfit : arg.ty.assignableTo param = true
      · rw [if_pos hfit, ih (Nat.succ.inj hlen)]
        exact ⟨fun h => ⟨hfit, h⟩, And.right⟩
      · rw [if_neg hfit]
        exact ⟨fun h => (nomatch h), fun h => absurd h.1 hfit⟩

/-- **Arguments are passed when they fit, in number and in type.** -/
theorem arguments_eq_ok_iff {signature : Signature} {args : List Checked.Expr} {span : Span}
    {u : Unit} : arguments signature args span = .ok u ↔ signature.Accepts args := by
  rw [arguments, Signature.Accepts]
  by_cases hlen : args.length = signature.params.length
  · rw [if_pos hlen, argumentTypes_eq_ok_iff hlen]
  · rw [if_neg hlen]
    exact ⟨fun h => (nomatch h), fun h => absurd h.length_eq hlen⟩

theorem inferred_eq_ok_iff : inferred e = .ok ty ↔ e.ty.containsAny = false ∧ e.ty = ty := by
  rw [inferred]
  split <;> simp_all

theorem iterated_eq_ok_iff {element : Ty} :
    iterated e = .ok element ↔ e.ty = .array element ∨ ∃ key, e.ty = .map key element := by
  rw [iterated]
  split <;> simp_all

theorem inferredElement_eq_ok_iff {element : Ty} :
    inferredElement e element = .ok ty ↔ element.containsAny = false ∧ element = ty := by
  rw [inferredElement]
  split <;> simp_all

theorem declaredElement_eq_ok_iff {element declared : Ty} :
    declaredElement e element declared = .ok ty ↔
      element.assignableTo declared = true ∧ declared = ty := by
  rw [declaredElement]
  split <;> simp_all

theorem returns_eq_ok_iff {f : Entity} {hasValue : Bool} {span : Span} {u : Unit} :
    returns f hasValue span = .ok u ↔ (f.resultType = .none ↔ hasValue = false) := by
  rw [returns, ← Ty.isNone_iff]
  cases f.resultType.isNone <;> cases hasValue <;> simp

end Rule

end Shipshape
