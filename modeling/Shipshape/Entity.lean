import Shipshape.Ty.Basic

/-!
# Entities

What a name stands for, once it is declared.

* `Shipshape.Binding` – a variable, a parameter, a field, a function, a class or
  a built-in type;
* `Shipshape.Entity` – a binding with an identity of its own.

Each declaration makes one entity, which all uses of its name refer to. A use of
a name as a value needs a type of values (`Shipshape.Entity.valueType?`), a use
in a type expression needs a type that the name denotes
(`Shipshape.Entity.denotedType?`); no entity serves both ways
(`Shipshape.Entity.valueType?_isSome_iff`).
-/

namespace Shipshape

/-- What a name may stand for. -/
inductive Binding where
  /-- A variable. -/
  | var (name : String) (ty : Ty)
  /-- A parameter. -/
  | param (name : String) (ty : Ty)
  /-- A field. -/
  | field (name : String) (ty : Ty)
  /-- A function, a method or a constructor. -/
  | function (name : String) (signature : Signature)
  /-- A class. -/
  | classType (cls : ClassRef)
  /-- A type without a declaration. -/
  | typeName (ty : Ty)
deriving Inhabited, Repr

/-- What one declaration makes: a binding with an identity. -/
structure Entity where
  /-- The number of the entity, in order of creation. -/
  id : Nat
  /-- What the entity is. -/
  binding : Binding
deriving Inhabited, Repr

namespace Entity

/-- The name of an entity. A type without a name of its own has a placeholder. -/
def name (e : Entity) : String :=
  match e.binding with
  | .var n _ | .param n _ | .field n _ | .function n _ => n
  | .classType c => c.name
  | .typeName (.scalar s) => s.name
  | .typeName _ => "<type>"

/-- The type of the entity as a value, if it is one. -/
def valueType? (e : Entity) : Option Ty :=
  match e.binding with
  | .var _ ty | .param _ ty | .field _ ty => some ty
  | .function _ signature => some signature.toTy
  | .classType _ | .typeName _ => none

/-- The type that the entity denotes in a type expression, if it denotes one. -/
def denotedType? (e : Entity) : Option Ty :=
  match e.binding with
  | .classType c => some (.object c)
  | .typeName ty => some ty
  | .var .. | .param .. | .field .. | .function .. => none

/-- The class that the entity is, if it is one. -/
def class? (e : Entity) : Option ClassRef :=
  match e.binding with
  | .classType c => some c
  | _ => none

/-- The type that a return inside the entity must fit. Only a function returns a
value. -/
def resultType (e : Entity) : Ty :=
  match e.binding with
  | .function _ signature => signature.result
  | _ => .none

/-- An entity is a value exactly when it does not denote a type. -/
theorem valueType?_isSome_iff (e : Entity) :
    e.valueType?.isSome = true ↔ e.denotedType? = none := by
  obtain ⟨id, binding⟩ := e
  cases binding <;> simp [valueType?, denotedType?]

end Entity

/-- The entities that a root scope binds, by name. -/
def builtInEntities : List (String × Entity) :=
  Scalar.builtIns.zipIdx.map fun (s, i) => (s.name, ⟨i, .typeName (.scalar s)⟩)

end Shipshape
