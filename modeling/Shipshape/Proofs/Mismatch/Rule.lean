import Shipshape.Proofs.Checked.Rule
import Shipshape.Proofs.Refusal.Computation
import Shipshape.Proofs.Ty.Algebra
import Shipshape.Proofs.Ty.Readability

/-!
# What a mismatch says

A rule that refuses one type where another is needed names both by their texts. Two classes of
one name have one text, so the message may say that a type is not itself. It never does so where
no class is involved.

* `Shipshape.Diagnostic.Opposes` – the diagnostic is about two types, which it names by texts
  that are different unless there are classes in them;
* `Shipshape.Rule.assignable_opposes`, `Shipshape.Rule.join_opposes`,
  `Shipshape.Rule.declaredElement_opposes`, `Shipshape.Rule.argumentTypes_opposes` – so is the
  diagnostic of every rule that compares two types.

The rules that compare more than two types compare two of them at a time
(`Shipshape.Rule.elements_opposes`, `Shipshape.Rule.binary_opposes`), and complain about
these two.
-/

namespace Shipshape

/-- **The diagnostic opposes two types**: it says that one stands where the other is needed. It
names both by their texts, and a reader sees that they are different. -/
structure Diagnostic.Opposes (d : Diagnostic) (expected received : Ty) : Prop where
  /-- The two texts are what the message shows. -/
  cause : d.cause = .typeMismatch expected.text received.text ∨
    ∃ index, d.cause = .argumentMismatch (.type index expected.text received.text)
  /-- The texts of types without classes are different. -/
  text_ne : expected.classes = [] → received.classes = [] → expected.text ≠ received.text

/-- The diagnostic opposes the two types if it is about two types at all. -/
def Diagnostic.OpposesIfMismatch (d : Diagnostic) (expected received : Ty) : Prop :=
  d.cause.isMismatch = true → d.Opposes expected received

/-- Different types are opposed. -/
theorem Rule.mismatch_opposes {expected received : Ty} (h : expected ≠ received) (span : Span) :
    (mismatch expected received span).Opposes expected received :=
  ⟨.inl rfl, fun hexpected hreceived heq => h (Ty.eq_of_text_eq hexpected hreceived heq)⟩

/-- A type that another cannot be assigned to is a different one. -/
theorem Ty.ne_of_not_assignableTo {a b : Ty} (h : ¬a.assignableTo b = true) : b ≠ a := by
  rintro rfl
  exact h b.assignableTo_refl

namespace Rule

/-! ### Two types -/

theorem assignable_opposes (value : Checked.Expr) (target : Ty) :
    Only (assignable value target) (·.Opposes target value.ty) := by
  rw [assignable]
  split
  · exact .ok _
  · next h => exact .error (mismatch_opposes (Ty.ne_of_not_assignableTo h) _)

theorem declaredElement_opposes (iterable : Checked.Expr) (element declared : Ty) :
    Only (declaredElement iterable element declared) (·.Opposes declared element) := by
  rw [declaredElement]
  split
  · exact .ok _
  · next h => exact .error (mismatch_opposes (Ty.ne_of_not_assignableTo h) _)

theorem join_opposes (ty : Ty) (e : Checked.Expr) : Only (join ty e) (·.Opposes ty e.ty) := by
  rw [join]
  split
  · exact .ok _
  · next h =>
    refine .error (mismatch_opposes ?_ _)
    rintro rfl
    rw [Ty.common_self] at h
    cases h

/-! ### Many types -/

/-- The first argument that does not fit is opposed to its parameter. -/
theorem argumentTypes_opposes (index : Nat) (params : List Ty) (args : List Checked.Expr) :
    Only (argumentTypes index params args) fun d =>
      ∃ pair ∈ params.zip args, d.Opposes pair.1 pair.2.ty := by
  induction params generalizing index args with
  | nil => exact .ok ()
  | cons param params ih =>
    cases args with
    | nil => exact .ok ()
    | cons arg args =>
      rw [argumentTypes]
      split
      · intro d hd
        obtain ⟨pair, hpair, hopposes⟩ := ih (index + 1) args d hd
        exact ⟨pair, List.mem_cons_of_mem _ hpair, hopposes⟩
      · next h =>
        have hne := Ty.ne_of_not_assignableTo h
        refine .error ⟨(param, arg), List.mem_cons_self, .inr ⟨index, rfl⟩, ?_⟩
        exact fun hparam harg heq => hne (Ty.eq_of_text_eq hparam harg heq)

/-- An element is opposed to what the elements before it share. -/
theorem elements_opposes (ty : Ty) (es : List Checked.Expr) :
    Only (elements ty es) fun d => ∃ before e after shared, es = before ++ e :: after ∧
      (before.map Checked.Expr.ty).foldlM Ty.common ty = some shared ∧ d.Opposes shared e.ty := by
  induction es generalizing ty with
  | nil => exact .ok ty
  | cons e es ih =>
    rw [elements]
    split
    · next next hnext =>
      intro d hd
      obtain ⟨before, e', after, shared, rfl, hshared, hopposes⟩ := ih next d hd
      refine ⟨e :: before, e', after, shared, rfl, ?_, hopposes⟩
      rw [List.map_cons, List.foldlM_cons, join_eq_ok_iff.mp hnext]
      exact hshared
    · next d hd => exact .error ⟨[], e, es, ty, rfl, rfl, join_opposes ty e d hd⟩

/-! ### Rules with other reasons to fail -/

theorem binary_opposes (op : BinaryOp) (left right : Checked.Expr) :
    Only (binary op left right) (·.OpposesIfMismatch left.ty right.ty) := by
  -- A test of one operand says nothing of two types.
  have hboolean (e : Checked.Expr) :
      Only (boolean e) (·.OpposesIfMismatch left.ty right.ty) := .test nofun
  have hnumber : Only (number left) (·.OpposesIfMismatch left.ty right.ty) := .test nofun
  have hsummand : Only (summand left) (·.OpposesIfMismatch left.ty right.ty) := .test nofun
  have hjoin : Only (join left.ty right) (·.OpposesIfMismatch left.ty right.ty) :=
    fun d hd _ => join_opposes left.ty right d hd
  have hshared : Only (discard (join left.ty right)) (·.OpposesIfMismatch left.ty right.ty) :=
    .bind hjoin fun _ => .ok _
  cases op with
  | add => exact .bind hsummand fun _ => hjoin
  | sub | mul | div | pow | rem => exact .bind hnumber fun _ => hjoin
  | lt | le | gt | ge => exact .bind hnumber fun _ => .bind hshared fun _ => .ok _
  | eq | ne => exact .bind hshared fun _ => .ok _
  | and | or => exact .bind (hboolean left) fun _ => .bind (hboolean right) fun _ => .ok _

/-- A wrong number of arguments says nothing of their types. -/
theorem arguments_opposes (signature : Signature) (args : List Checked.Expr) (span : Span) :
    Only (arguments signature args span) fun d => d.cause.isMismatch = true →
      ∃ pair ∈ signature.params.zip args, d.Opposes pair.1 pair.2.ty := by
  rw [arguments]
  split
  · exact fun d hd _ => argumentTypes_opposes 0 signature.params args d hd
  · exact .error fun h => absurd h Bool.false_ne_true

end Rule

end Shipshape
