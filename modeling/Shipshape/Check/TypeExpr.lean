import Shipshape.Check.Monad
import Shipshape.Tree.Stmt

/-!
# Checking type expressions

* `Shipshape.convert` – the type that a type expression denotes in a scope;
* `Shipshape.convertResult`, `Shipshape.convertParams` – the types that a
  declaration writes.

Each name must resolve to a class or a built-in type. Names are looked up in the
order in which they are written.
-/

namespace Shipshape

mutual

/-- The type that a type expression denotes in a scope. -/
def convert (id : ScopeId) : TypeExpr → Check Ty
  | .name name span => do
    let entity ← Check.resolve id name span
    Check.require entity.denotedType? (.notAType name) span
  | .array element => do
    let element ← convert id element
    return .array element
  | .map key value => do
    let key ← convert id key
    let value ← convert id value
    return .map key value
  | .function params result => do
    let params ← convertList id params
    let result ← convert id result
    return .function params result

/-- The types that type expressions denote in a scope. -/
def convertList (id : ScopeId) : List TypeExpr → Check (List Ty)
  | [] => return []
  | a :: as => do
    let ty ← convert id a
    let tys ← convertList id as
    return ty :: tys

end

/-- The result type that a function declares; without one it returns nothing. -/
def convertResult (id : ScopeId) : Option TypeExpr → Check Ty
  | some typeExpr => convert id typeExpr
  | none => return .none

/-- The types of parameters. -/
def convertParams (id : ScopeId) (params : List Param) : Check (List Ty) :=
  convertList id (params.map Param.typeExpr)

end Shipshape
