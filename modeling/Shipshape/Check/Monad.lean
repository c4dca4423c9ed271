import Shipshape.Class
import Shipshape.Scope.Arena

/-!
# Checking computations

What a check reads and changes on its way through a tree.

* `Shipshape.State` – the scopes that are alive, what is known about classes, the
  supply of identities, and how deep the check has descended;
* `Shipshape.Check` – a computation on that state which may fail. The state
  outlives a failure, so a later check starts from what an earlier one left;
* `Shipshape.Check.withChild` – runs a computation in a new scope and closes the
  scope when it succeeds;
* `Shipshape.Check.nested` – runs a computation one level deeper, unless that
  exceeds the limit, and comes back up whether it succeeds or fails.
-/

namespace Shipshape

/-- The state of a check. -/
structure State where
  /-- The scopes that are alive. -/
  arena : Arena
  /-- What is known about the classes. -/
  classes : ClassTable
  /-- The number of the next entity. -/
  nextEntity : Nat
  /-- How many statements and expressions surround the place at hand. -/
  depth : Nat
  /-- How many statements and expressions may lie inside one another. -/
  limit : Nat
deriving Inhabited, Repr

/-- The nesting that is allowed unless another limit is chosen. -/
def defaultLimit : Nat := 256

/-- The state in which a check begins: the outermost scope and no classes. -/
def State.initial (limit : Nat) : State :=
  ⟨.initial, .empty, builtInEntities.length, 0, limit⟩

/-- A computation on the state of a check, which keeps the state when it fails. -/
abbrev Check := EStateM Failure State

namespace Check

variable {α : Type}

/-- Fails with a reason, at the start of a span. -/
def refuse (cause : Cause) (span : Span) : Check α := fun s =>
  .error (.refused (.located cause span)) s

/-- The result of a rule. -/
def ofRule (result : Except Diagnostic α) : Check α := fun s =>
  match result with
  | .ok a => .ok a s
  | .error diagnostic => .error (.refused diagnostic) s

/-- A value, or else a reason to fail. -/
def require (value : Option α) (cause : Cause) (span : Span) : Check α := fun s =>
  match value with
  | some a => .ok a s
  | none => .error (.refused (.located cause span)) s

/-! ### Scopes -/

/-- The scope with a given number. -/
def scope (id : ScopeId) : Check Scope := fun s =>
  match s.arena.get id with
  | .ok found => .ok found s
  | .error failure => .error failure s

/-- What a name stands for, seen from a scope. -/
def resolve (id : ScopeId) (name : String) (span : Span) : Check Entity := fun s =>
  match s.arena.resolve id name span with
  | .ok entity => .ok entity s
  | .error failure => .error failure s

/-- Gives a name to an entity in a scope. -/
def declare (id : ScopeId) (name : String) (entity : Entity) (span : Span) : Check Unit := fun s =>
  match s.arena.declare id name entity span with
  | .ok arena => .ok () { s with arena }
  | .error failure => .error failure s

/-- Opens a scope inside another. -/
def openScope (id : ScopeId) (changes : Overrides) : Check ScopeId := fun s =>
  match s.arena.child id changes with
  | .ok (arena, new) => .ok new { s with arena }
  | .error failure => .error failure s

/-- Closes a scope and all that were opened after it. -/
def closeScope (id : ScopeId) : Check Unit := fun s =>
  .ok () { s with arena := s.arena.leave id }

/-- Runs a computation in a new scope. The scope is closed again when the
computation succeeds, and stays when it fails. -/
def withChild (id : ScopeId) (changes : Overrides) (act : ScopeId → Check α) : Check α := do
  let new ← openScope id changes
  let a ← act new
  closeScope new
  return a

/-! ### Identities -/

/-- Makes an entity. -/
def newEntity (binding : Binding) : Check Entity := fun s =>
  .ok ⟨s.nextEntity, binding⟩ { s with nextEntity := s.nextEntity + 1 }

/-- Makes a class without members. -/
def newClass (name : String) : Check ClassRef := fun s =>
  .ok (s.classes.add name).2 { s with classes := (s.classes.add name).1 }

/-! ### Members of classes -/

/-- What is known about a class. -/
def classInfo (cls : ClassRef) : Check ClassInfo := fun s =>
  .ok (s.classes.info cls) s

/-- Replaces the constructor of a class. -/
def setCtor (cls : ClassRef) (signature : Signature) : Check Unit := fun s =>
  .ok () { s with classes := s.classes.setCtor cls signature }

/-- Adds a field to a class, and says whether its name was free. -/
def addField (cls : ClassRef) (name : String) (ty : Ty) : Check Bool := fun s =>
  match s.classes.addField? cls name ty with
  | some classes => .ok true { s with classes }
  | none => .ok false s

/-- Adds a method to a class, and says whether its name was free. -/
def addMethod (cls : ClassRef) (name : String) (signature : Signature) : Check Bool := fun s =>
  match s.classes.addMethod? cls name signature with
  | some classes => .ok true { s with classes }
  | none => .ok false s

/-! ### Nesting -/

/-- Runs a computation one level deeper, for the node at `span`. At the limit it
fails instead, and changes nothing. -/
def nested (span : Span) (act : Check α) : Check α := fun s =>
  if s.depth < s.limit then
    match act { s with depth := s.depth + 1 } with
    | .ok a t => .ok a { t with depth := t.depth - 1 }
    | .error failure t => .error failure { t with depth := t.depth - 1 }
  else .error (.refused (.located (.nestingTooDeep s.limit) span)) s

end Check

end Shipshape
