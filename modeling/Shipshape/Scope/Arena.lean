import Shipshape.Diagnostic.Basic
import Shipshape.Scope.Basic

/-!
# All scopes of a check

The scopes that are alive, numbered from the outermost in the order in which they
were opened.

* `Shipshape.Arena.child` – opens a scope inside another;
* `Shipshape.Arena.leave` – closes a scope and all that were opened after it;
* `Shipshape.Arena.declare` – gives a name to an entity in a scope;
* `Shipshape.Arena.resolve` – what a name stands for, seen from a scope: its own
  names first, then those of the scopes around it.

A scope is opened inside one that is already there, so its parent has a smaller
number, and a walk along parents takes at most as many steps as there are scopes.
A number that no scope has is a failure of its own
(`Shipshape.Failure.missingScope`), apart from any diagnostic: it can only come
from a scope that was closed before.
-/

namespace Shipshape

/-- The scopes that are alive, the outermost first. -/
structure Arena where
  /-- The scopes; the place of a scope is its number. -/
  scopes : List Scope
deriving Inhabited, Repr

namespace Arena

/-- The outermost scope alone. -/
def initial : Arena := ⟨[.root]⟩

/-- The number of the outermost scope. -/
def root : ScopeId := 0

/-- How many scopes are alive. -/
def size (a : Arena) : Nat := a.scopes.length

/-- The scope with a given number. -/
def get (a : Arena) (id : ScopeId) : Except Failure Scope :=
  match a.scopes[id]? with
  | some s => .ok s
  | none => .error (.missingScope a.size id)

/-- The entity that a name stands for in the scope `id` or in one of the scopes
around it, looking at no more than `steps` of them. -/
def findFrom (a : Arena) (name : String) : (steps : Nat) → ScopeId → Except Failure (Option Entity)
  | 0, id => .error (.missingScope a.size id)
  | steps + 1, id =>
    match a.get id with
    | .error failure => .error failure
    | .ok s =>
      match s.lookup name with
      | some entity => .ok (some entity)
      | none =>
        match s.parent with
        | some parent => a.findFrom name steps parent
        | none => .ok none

/-- The entity that a name stands for, seen from a scope. -/
def find (a : Arena) (id : ScopeId) (name : String) : Except Failure (Option Entity) :=
  a.findFrom name a.size id

/-- The entity that the name at `span` stands for, which must be declared. -/
def resolve (a : Arena) (id : ScopeId) (name : String) (span : Span) : Except Failure Entity :=
  match a.find id name with
  | .error failure => .error failure
  | .ok (some entity) => .ok entity
  | .ok none => .error (.refused (.located (.undeclaredIdentifier name) span))

/-- The arena in which a scope has one more name, declared at `span`. A name is
declared once in a scope. -/
def declare (a : Arena) (id : ScopeId) (name : String) (entity : Entity) (span : Span) :
    Except Failure Arena :=
  match a.get id with
  | .error failure => .error failure
  | .ok s =>
    match s.lookup name with
    | some _ => .error (.refused (.located (.duplicateDeclaration name) span))
    | none => .ok ⟨a.scopes.set id (s.bind name entity)⟩

/-- The arena with one more scope, inside the scope `id`, and the number of the
new scope. -/
def child (a : Arena) (id : ScopeId) (changes : Overrides) : Except Failure (Arena × ScopeId) :=
  match a.get id with
  | .error failure => .error failure
  | .ok s => .ok (⟨a.scopes ++ [s.child id changes]⟩, a.size)

/-- The arena without a scope and those opened after it. The outermost scope is
never closed. -/
def leave (a : Arena) (id : ScopeId) : Arena :=
  if id = root then a else ⟨a.scopes.take id⟩

end Arena

end Shipshape
