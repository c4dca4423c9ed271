import Shipshape.Entity

/-!
# Scopes

* `Shipshape.Scope` – the names that one region of a program declares, and what
  surrounds the region: a loop, a function, a class;
* `Shipshape.Overrides` – what a region changes about its surroundings;
* `Shipshape.Scope.child` – the empty scope of a region inside another.

A scope refers to the scope around it by number. A child takes over from its
parent whatever it does not change.
-/

namespace Shipshape

/-- The number of a scope. -/
abbrev ScopeId := Nat

/-- The names declared in one region, and what surrounds it. -/
structure Scope where
  /-- The names declared here, the latest first. -/
  names : List (String × Entity)
  /-- The scope around this one. -/
  parent : Option ScopeId
  /-- Whether a loop surrounds the region. -/
  inLoop : Bool
  /-- The function, method or constructor around the region. -/
  function : Option Entity
  /-- The class around the region, which is what self refers to. -/
  cls : Option ClassRef
deriving Inhabited, Repr

/-- What a region changes about its surroundings. -/
structure Overrides where
  /-- Whether a loop surrounds it. -/
  inLoop : Option Bool := none
  /-- The function that it is the body of. -/
  function : Option Entity := none
  /-- The class that it is the body of. -/
  cls : Option ClassRef := none
deriving Inhabited, Repr

namespace Scope

/-- The outermost scope, which knows the built-in types. -/
def root : Scope := ⟨builtInEntities, none, false, none, none⟩

/-- What a name stands for in this scope alone. -/
def lookup (s : Scope) (name : String) : Option Entity := s.names.lookup name

/-- The scope with one more name. -/
def bind (s : Scope) (name : String) (entity : Entity) : Scope :=
  { s with names := (name, entity) :: s.names }

/-- The empty scope of a region inside the scope `s`, which has the number
`id`. -/
def child (s : Scope) (id : ScopeId) (changes : Overrides) : Scope where
  names := []
  parent := some id
  inLoop := changes.inLoop.getD s.inLoop
  function := changes.function.or s.function
  cls := changes.cls.or s.cls

@[simp]
theorem lookup_bind_self (s : Scope) (name : String) (entity : Entity) :
    (s.bind name entity).lookup name = some entity := by
  simp [lookup, bind]

theorem lookup_bind_of_ne (s : Scope) {name other : String} (entity : Entity) (h : other ≠ name) :
    (s.bind name entity).lookup other = s.lookup other := by
  have hb : (other == name) = false := by simpa using h
  simp [lookup, bind, List.lookup_cons, hb]

@[simp]
theorem lookup_child (s : Scope) (id : ScopeId) (changes : Overrides) (name : String) :
    (s.child id changes).lookup name = none := rfl

end Scope

end Shipshape
