/-!
# Literals

The constants of a program text.

* `Shipshape.Double` – a floating point number, held as its 64 bits;
* `Shipshape.Literal` – a number, a text or a truth value.

Nothing is computed with a double, so its bits are all there is to keep. Only
comparison reads them (`Shipshape.Double.equal`): a number that is not a number
equals nothing, itself included, and the two zeros are equal. On numbers without
a NaN that is equality of the canonical bits (`Shipshape.Double.equal_iff`).
-/

namespace Shipshape

/-- A floating point number of 64 bits, as its bit pattern. -/
structure Double where
  /-- Sign, exponent and fraction, from the most significant bit down. -/
  bits : UInt64
deriving DecidableEq, Inhabited, Repr

namespace Double

/-- The bits without the sign, as a number. -/
def magnitude (d : Double) : Nat := d.bits.toNat % 0x8000000000000000

/-- Whether the bits stand for no number: the exponent is full and the fraction
is not zero. -/
def isNaN (d : Double) : Bool := decide (0x7FF0000000000000 < d.magnitude)

/-- Whether the bits stand for one of the two zeros. -/
def isZero (d : Double) : Bool := d.magnitude == 0

/-- Comparison of numbers: no NaN equals anything, and the zeros are equal. -/
def equal (a b : Double) : Bool :=
  !a.isNaN && !b.isNaN && (a.bits == b.bits || (a.isZero && b.isZero))

/-- The number with the sign of a zero dropped. -/
def canonical (d : Double) : Double := if d.isZero then ⟨0⟩ else d

/-- **Two doubles are equal exactly when neither is a NaN and they differ at most
in the sign of zero.** -/
theorem equal_iff {a b : Double} :
    a.equal b = true ↔ a.isNaN = false ∧ b.isNaN = false ∧ a.canonical = b.canonical := by
  obtain ⟨x⟩ := a
  obtain ⟨y⟩ := b
  have ne_of {u v : UInt64} (hu : isZero ⟨u⟩ = false) (hv : isZero ⟨v⟩ = true) : u ≠ v := by
    rintro rfl
    simp [hu] at hv
  cases hx : isZero ⟨x⟩ <;> cases hy : isZero ⟨y⟩ <;> simp [equal, canonical, hx, hy, and_assoc]
  · simp [ne_of hx hy, ne_of hx (show isZero ⟨0⟩ = true from rfl)]
  · simp [(ne_of hy hx).symm, (ne_of hy (show isZero ⟨0⟩ = true from rfl)).symm]

end Double

/-- A constant written in a program. -/
inductive Literal where
  /-- A whole number. -/
  | int (value : Int)
  /-- A floating point number. -/
  | double (value : Double)
  /-- A text. -/
  | string (value : String)
  /-- A truth value. -/
  | bool (value : Bool)
deriving DecidableEq, Inhabited, Repr

/-- Whether two literals are of one kind and hold equal values. Doubles compare as
numbers. -/
def Literal.equal : Literal → Literal → Bool
  | .int a, .int b => a == b
  | .double a, .double b => a.equal b
  | .string a, .string b => a == b
  | .bool a, .bool b => a == b
  | _, _ => false

end Shipshape
