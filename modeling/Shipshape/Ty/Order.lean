import Shipshape.Ty.Basic

/-!
# How types compare

* `Shipshape.Ty.equivalent` – the first type can be read as the second: they are
  the same once `any` in the first is filled in;
* `Shipshape.Ty.assignableTo` – a value of the first type may be kept in a place
  of the second;
* `Shipshape.Ty.common` – the type that two sibling values share, `any` being
  filled in from either side;
* `Shipshape.Ty.containsAny` – whether some part is not yet known.

Equivalence is one-sided: `any` reads as every type and only `any` reads as
`any`. Arrays, maps and functions compare part by part, classes by identity.
-/

namespace Shipshape.Ty

mutual

/-- Whether the first type can be read as the second, by filling in `any`. -/
def equivalent : Ty → Ty → Bool
  | .scalar .any, _ => true
  | .scalar a, .scalar b => a == b
  | .array a, .array b => a.equivalent b
  | .map k v, .map l w => k.equivalent l && v.equivalent w
  | .function ps r, .function qs t => equivalentList ps qs && r.equivalent t
  | .object c, .object d => c == d
  | _, _ => false

/-- Whether two lists are equally long and equivalent place by place. -/
def equivalentList : List Ty → List Ty → Bool
  | [], [] => true
  | a :: as, b :: bs => a.equivalent b && equivalentList as bs
  | _, _ => false

end

/-- Whether a value of the type may be kept in a place of the type `target`. A
place of unknown type takes everything. -/
def assignableTo (ty target : Ty) : Bool := target.isAny || ty.equivalent target

/-- The type that two sibling values share, if there is one. Functions share a
type only if each reads as the other. -/
def common : Ty → Ty → Option Ty
  | .scalar .any, b => some b
  | a, .scalar .any => some a
  | .scalar a, .scalar b => if a = b then some (.scalar a) else Option.none
  | .array a, .array b => (a.common b).map .array
  | .map k v, .map l w =>
    match k.common l, v.common w with
    | some key, some value => some (.map key value)
    | _, _ => Option.none
  | .function ps r, .function qs t =>
    if equivalent (.function ps r) (.function qs t) && equivalent (.function qs t) (.function ps r)
    then some (.function ps r) else Option.none
  | .object c, .object d => if c = d then some (.object c) else Option.none
  | _, _ => Option.none

/-- Whether `any` stands at the type itself or inside its arrays and maps. The
inside of a function or a class is not looked at. -/
def containsAny : Ty → Bool
  | .scalar s => s == .any
  | .array a => a.containsAny
  | .map k v => k.containsAny || v.containsAny
  | .function _ _ => false
  | .object _ => false

end Shipshape.Ty
