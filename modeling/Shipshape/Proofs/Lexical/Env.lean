import Shipshape.Check.Rule
import Shipshape.Scope.Basic

/-!
# Lexical environments

Plain lexical scoping, with no numbered scopes and nothing to open or close: a
place in a program sees a chain of frames, and a region inside it sees the same
chain with one more frame in front.

* `Shipshape.Ambient` – what surrounds a region: a loop, a function, a class;
* `Shipshape.Lexical.Frame` – the names of one region and what surrounds it;
* `Shipshape.Lexical.Env` – a chain of frames, the innermost first, and how deep
  the place is nested;
* `Shipshape.Lexical.Env.convert` – the type that a type expression denotes.

An environment is a value. A declaration does not change it: the place after the
declaration has an environment of its own (`Shipshape.Lexical.Env.extend`).
-/

namespace Shipshape

/-- What surrounds a region of a program. -/
structure Ambient where
  /-- Whether a loop does, inside the function at hand. -/
  inLoop : Bool
  /-- The function, method or constructor at hand. -/
  function : Option Entity
  /-- The class at hand. -/
  cls : Option ClassRef
deriving Inhabited, Repr

namespace Ambient

/-- Nothing surrounds the top level of a program. -/
def top : Ambient := ⟨false, none, none⟩

/-- What surrounds the body of a loop. -/
def loop (a : Ambient) : Ambient := { a with inLoop := true }

/-- What surrounds the body of a function. -/
def inFunction (a : Ambient) (f : Entity) : Ambient :=
  { a with inLoop := false, function := some f }

/-- What surrounds the constructor and the methods of a class. -/
def inClass (a : Ambient) (c : ClassRef) : Ambient := { a with cls := some c }

end Ambient

namespace Lexical

/-- The names of one region and what surrounds it. -/
structure Frame where
  /-- The names declared in the region so far, the latest first. -/
  names : List (String × Entity)
  /-- What surrounds the region. -/
  ambient : Ambient
deriving Inhabited, Repr

namespace Frame

/-- The frame of a region in which nothing is declared yet. -/
def empty (ambient : Ambient) : Frame := ⟨[], ambient⟩

/-- The outermost frame, which knows the built-in types. -/
def root : Frame := ⟨builtInEntities, .top⟩

/-- What a name stands for in this frame alone. -/
def lookup (f : Frame) (name : String) : Option Entity := f.names.lookup name

/-- The frame with some more names. -/
def extend (f : Frame) (names : List (String × Entity)) : Frame :=
  { f with names := names ++ f.names }

/-- The binding of a name that is declared at `span`. A name is declared once in
a frame. -/
def declare (f : Frame) (name : String) (entity : Entity) (span : Span) :
    Except Diagnostic (String × Entity) :=
  match f.lookup name with
  | some _ => .error (.located (.duplicateDeclaration name) span)
  | none => .ok (name, entity)

end Frame

/-- What a place in a program sees, and how deep it is nested. -/
structure Env where
  /-- The frame of the region at hand. -/
  frame : Frame
  /-- The frames around it, from the inside out. -/
  outer : List Frame
  /-- How many statements and expressions surround the place. -/
  level : Nat
  /-- How many statements and expressions may lie inside one another. -/
  limit : Nat
deriving Inhabited, Repr

namespace Env

/-- What the top level of a program sees. -/
def root (limit : Nat) : Env := ⟨.root, [], 0, limit⟩

/-- All frames, from the inside out. -/
def frames (env : Env) : List Frame := env.frame :: env.outer

/-- What surrounds the place. -/
def ambient (env : Env) : Ambient := env.frame.ambient

/-- What a region inside the place sees. -/
def push (env : Env) (frame : Frame) : Env := { env with frame, outer := env.frames }

/-- What the place after some declarations sees. -/
def extend (env : Env) (names : List (String × Entity)) : Env :=
  { env with frame := env.frame.extend names }

/-- The place one level deeper, for the node at `span`, unless that is too
deep. -/
def descend (env : Env) (span : Span) : Except Diagnostic Env :=
  if env.level < env.limit then .ok { env with level := env.level + 1 }
  else .error (.located (.nestingTooDeep env.limit) span)

/-- What a name stands for: the innermost frame that has it decides. -/
def find? (env : Env) (name : String) : Option Entity := env.frames.findSome? (·.lookup name)

/-- What the name at `span` stands for, which must be declared. -/
def resolve (env : Env) (name : String) (span : Span) : Except Diagnostic Entity :=
  match env.find? name with
  | some entity => .ok entity
  | none => .error (.located (.undeclaredIdentifier name) span)

end Env

/-- A value, or else a reason to fail. -/
def require {α : Type} (value : Option α) (cause : Cause) (span : Span) : Except Diagnostic α :=
  match value with
  | some a => .ok a
  | none => .error (.located cause span)

namespace Env

mutual

/-- The type that a type expression denotes. -/
def convert (env : Env) : TypeExpr → Except Diagnostic Ty
  | .name name span => do
    let entity ← env.resolve name span
    require entity.denotedType? (.notAType name) span
  | .array element => do
    let element ← env.convert element
    return .array element
  | .map key value => do
    let key ← env.convert key
    let value ← env.convert value
    return .map key value
  | .function params result => do
    let params ← env.convertList params
    let result ← env.convert result
    return .function params result

/-- The types that type expressions denote. -/
def convertList (env : Env) : List TypeExpr → Except Diagnostic (List Ty)
  | [] => return []
  | a :: as => do
    let ty ← env.convert a
    let tys ← env.convertList as
    return ty :: tys

end

/-- The result type that a function declares; without one it returns nothing. -/
def convertResult (env : Env) : Option TypeExpr → Except Diagnostic Ty
  | some typeExpr => env.convert typeExpr
  | none => return .none

/-- The types of parameters. -/
def convertParams (env : Env) (params : List Param) : Except Diagnostic (List Ty) :=
  env.convertList (params.map Param.typeExpr)

end Env

end Lexical

end Shipshape
