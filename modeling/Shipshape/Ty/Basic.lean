/-!
# Types

What an expression or a declaration is of.

* `Shipshape.Scalar` – the types without parts, with their names in a program;
* `Shipshape.ClassRef` – a class, by its identity and its name;
* `Shipshape.Ty` – scalars, arrays, maps, functions and classes;
* `Shipshape.Signature` – the parameters and the result of a function.

The scalar `any` has no name in a program. It is the element type of an empty
literal, which a neighbour or a declaration has yet to fix.
-/

namespace Shipshape

/-- A type without parts. -/
inductive Scalar where
  /-- Whole numbers. -/
  | int
  /-- Floating point numbers. -/
  | double
  /-- Truth values. -/
  | bool
  /-- Texts. -/
  | string
  /-- No value. -/
  | none
  /-- A type that is not yet known. -/
  | any
deriving DecidableEq, Inhabited, Repr

/-- The name of a scalar type. -/
def Scalar.name : Scalar → String
  | .int => "int"
  | .double => "doubloon"
  | .bool => "booty"
  | .string => "shanty"
  | .none => "none"
  | .any => "any"

/-- The scalars that a program can name, in the order in which a root scope holds
them. -/
def Scalar.builtIns : List Scalar := [.int, .double, .bool, .string, .none]

/-- The scalar with a given name, if a program can name it. -/
def Scalar.ofName? (name : String) : Option Scalar :=
  builtIns.find? fun s => s.name == name

/-- A class: which one it is and what it is called. Two classes of one name are
told apart by their number. -/
structure ClassRef where
  /-- The number of the class, in order of declaration. -/
  id : Nat
  /-- The name of the class. -/
  name : String
deriving DecidableEq, Inhabited, Repr

/-- A type. -/
inductive Ty where
  /-- A type without parts. -/
  | scalar (kind : Scalar)
  /-- Arrays. -/
  | array (element : Ty)
  /-- Maps. -/
  | map (key value : Ty)
  /-- Functions. -/
  | function (params : List Ty) (result : Ty)
  /-- Objects of a class. -/
  | object (cls : ClassRef)
deriving Inhabited, Repr

namespace Ty

/-- Whole numbers. -/
abbrev int : Ty := .scalar .int

/-- Floating point numbers. -/
abbrev double : Ty := .scalar .double

/-- Truth values. -/
abbrev bool : Ty := .scalar .bool

/-- Texts. -/
abbrev string : Ty := .scalar .string

/-- No value. -/
abbrev none : Ty := .scalar .none

/-- A type that is not yet known. -/
abbrev any : Ty := .scalar .any

/-- Whether the type is not yet known. -/
def isAny : Ty → Bool
  | .scalar .any => true
  | _ => false

/-- Whether there is no value. -/
def isNone : Ty → Bool
  | .scalar .none => true
  | _ => false

/-- Whether values are whole numbers. -/
def isInteger : Ty → Bool
  | .scalar .int => true
  | _ => false

/-- Whether values are numbers. -/
def isNumeric : Ty → Bool
  | .scalar .int | .scalar .double => true
  | _ => false

/-- Whether values are truth values. -/
def isBoolean : Ty → Bool
  | .scalar .bool => true
  | _ => false

/-- Whether values are texts. -/
def isString : Ty → Bool
  | .scalar .string => true
  | _ => false

end Ty

/-- The parameters and the result of a function. -/
structure Signature where
  /-- The types of the parameters. -/
  params : List Ty
  /-- The type of the result. -/
  result : Ty
deriving Inhabited, Repr

/-- The type of the functions with a signature. -/
def Signature.toTy (s : Signature) : Ty := .function s.params s.result

/-- The signature of a type of functions. -/
def Ty.signature? : Ty → Option Signature
  | .function params result => some ⟨params, result⟩
  | .scalar _ | .array _ | .map _ _ | .object _ => Option.none

@[simp] theorem Signature.signature?_toTy (s : Signature) : s.toTy.signature? = some s := rfl

theorem Ty.eq_toTy_of_signature? {ty : Ty} {s : Signature} (h : ty.signature? = some s) :
    ty = s.toTy := by
  cases ty with
  | function params result =>
    obtain rfl := Option.some.inj h
    rfl
  | _ => cases h

end Shipshape
