import Shipshape.Check.Monad
import Shipshape.Proofs.Lexical.Env

/-!
# The chain of frames behind a numbered scope

How the numbered scopes of a check stand for lexical environments.

* `Shipshape.Arena.Sees` – a scope and the scopes around it, read as a chain of
  frames;
* `Shipshape.Arena.extend` – the arena with some more names in one scope, which is
  all that a declaration does to it.

Opening a scope puts an empty frame in front of the chain
(`Shipshape.Arena.Sees.push`), a declaration adds to the frame of its scope
(`Shipshape.Arena.declare_eq`), closing the last scope forgets it and nothing else
(`Shipshape.Arena.leave_push`), and a look-up finds what the chain says
(`Shipshape.Arena.resolve_eq`). Only the scope itself and its
ancestors matter to what a scope sees; these have smaller numbers, so whatever is
opened later changes nothing (`Shipshape.Arena.Sees.congr`).
-/

namespace Shipshape

open Lexical (Frame Env)

/-- The frame of a scope: the scope without the number of the one around it. -/
def Scope.frame (s : Scope) : Frame := ⟨s.names, ⟨s.inLoop, s.function, s.cls⟩⟩

/-- The scope with some more names. -/
def Scope.extend (s : Scope) (names : List (String × Entity)) : Scope :=
  { s with names := names ++ s.names }

@[simp] theorem Scope.frame_extend (s : Scope) (names : List (String × Entity)) :
    (s.extend names).frame = s.frame.extend names := rfl

@[simp] theorem Scope.lookup_frame (s : Scope) (name : String) :
    s.frame.lookup name = s.lookup name := rfl

namespace Arena

variable {a b : Arena} {id : ScopeId} {frame : Frame} {frames : List Frame}

/-- The arena with some more names in one scope. -/
def extend (a : Arena) (id : ScopeId) (names : List (String × Entity)) : Arena :=
  ⟨a.scopes.modify id (·.extend names)⟩

/-- The arena with one more scope. -/
def push (a : Arena) (s : Scope) : Arena := ⟨a.scopes ++ [s]⟩

@[simp] theorem size_extend (a : Arena) (id : ScopeId) (names : List (String × Entity)) :
    (a.extend id names).size = a.size := by
  simp [extend, size]

@[simp] theorem extend_nil (a : Arena) (id : ScopeId) : a.extend id [] = a := by
  have h : (fun s : Scope => s.extend []) = fun s => s := rfl
  simp only [extend, h]
  exact congrArg Arena.mk (List.modify_id id a.scopes)

theorem extend_extend (a : Arena) (id : ScopeId) (names more : List (String × Entity)) :
    (a.extend id names).extend id more = a.extend id (more ++ names) := by
  simp only [extend, List.modify_modify_eq]
  refine congrArg (fun f => Arena.mk (a.scopes.modify id f)) (funext fun s => ?_)
  simp [Scope.extend]

/-- A scope that is opened later does not stand in the way of a declaration. -/
theorem extend_push_of_lt (s : Scope) (names : List (String × Entity)) (h : id < a.size) :
    (a.push s).extend id names = (a.extend id names).push s := by
  simp only [extend, push, Arena.mk.injEq]
  refine List.ext_getElem? fun i => ?_
  by_cases hi : i < a.scopes.length
  · rw [List.getElem?_modify, List.getElem?_append_left hi,
      List.getElem?_append_left (by simpa using hi), List.getElem?_modify]
  · have hne : id ≠ i := fun h' => hi (h' ▸ h)
    rw [List.getElem?_modify_ne _ _ hne, List.getElem?_append_right (Nat.not_lt.mp hi),
      List.getElem?_append_right (by simpa using hi), List.length_modify]

/-- A declaration in the last scope. -/
theorem extend_push_size (a : Arena) (s : Scope) (names : List (String × Entity)) :
    (a.push s).extend a.size names = a.push (s.extend names) := by
  simp only [extend, push, Arena.mk.injEq]
  rw [List.modify_eq_take_cons_drop (by simp [size])]
  simp [size]

/-! ### What a scope sees -/

/-- **What a scope sees**: its own frame and those of the scopes around it, from
the inside out. Each scope around another has a smaller number. -/
inductive Sees (a : Arena) : ScopeId → List Frame → Prop
  /-- A scope without a parent sees its own frame. -/
  | outermost {id : ScopeId} {s : Scope} : a.scopes[id]? = some s → s.parent = none →
      Sees a id [s.frame]
  /-- Any other scope sees its own frame and what its parent sees. -/
  | inside {id parent : ScopeId} {s : Scope} {frames : List Frame} : a.scopes[id]? = some s →
      s.parent = some parent → parent < id → Sees a parent frames → Sees a id (s.frame :: frames)

/-- A scope that sees something is there, and its frame comes first. -/
theorem Sees.exists_scope (h : a.Sees id (frame :: frames)) :
    ∃ s, a.scopes[id]? = some s ∧ s.frame = frame := by
  cases h with
  | outermost hs => exact ⟨_, hs, rfl⟩
  | inside hs => exact ⟨_, hs, rfl⟩

theorem Sees.get (h : a.Sees id (frame :: frames)) :
    ∃ s, a.get id = .ok s ∧ s.frame = frame := by
  obtain ⟨s, hs, hf⟩ := h.exists_scope
  exact ⟨s, by rw [Arena.get, hs], hf⟩

theorem Sees.lt_size (h : a.Sees id frames) : id < a.size := by
  cases h with
  | outermost hs => exact (List.getElem?_eq_some_iff.mp hs).1
  | inside hs => exact (List.getElem?_eq_some_iff.mp hs).1

/-- **Only the scope and those with smaller numbers matter.** -/
theorem Sees.congr (h : a.Sees id frames) (hab : ∀ i ≤ id, b.scopes[i]? = a.scopes[i]?) :
    b.Sees id frames := by
  induction h with
  | outermost hs hp => exact .outermost ((hab _ (Nat.le_refl _)).trans hs) hp
  | inside hs hp hlt _ ih =>
    refine .inside ((hab _ (Nat.le_refl _)).trans hs) hp hlt (ih fun i hi => hab i ?_)
    exact Nat.le_trans hi (Nat.le_of_lt hlt)

/-- The outermost scope sees the outermost frame. -/
theorem sees_initial : initial.Sees root [.root] := .outermost (s := .root) rfl rfl

/-- A new scope changes nothing about what the others see. -/
theorem Sees.of_push {s : Scope} (h : a.Sees id frames) : (a.push s).Sees id frames :=
  h.congr fun _ hi => List.getElem?_append_left (Nat.lt_of_le_of_lt hi h.lt_size)

/-- A new scope sees its own frame and what the scope around it sees. -/
theorem Sees.push {s : Scope} (h : a.Sees id frames) (hs : s.parent = some id) :
    (a.push s).Sees a.size (s.frame :: frames) :=
  .inside (by simp [Arena.push, size]) hs h.lt_size h.of_push

/-- A declaration in a scope shows in its own frame. -/
theorem Sees.extend (h : a.Sees id (frame :: frames)) (names : List (String × Entity)) :
    (a.extend id names).Sees id (frame.extend names :: frames) := by
  cases h with
  | outermost hs hp =>
    exact .outermost (s := Scope.extend _ names) (by simp [Arena.extend, hs]) hp
  | inside hs hp hlt hsees =>
    refine .inside (s := Scope.extend _ names) (by simp [Arena.extend, hs]) hp hlt
      (hsees.congr fun i hi => ?_)
    exact List.getElem?_modify_ne _ _ (Nat.ne_of_gt (Nat.lt_of_le_of_lt hi hlt))

/-! ### Operations on the arena, read on the chain -/

/-- A walk along parents that may take enough steps finds what the chain says. -/
theorem Sees.findFrom (h : a.Sees id frames) (name : String) {steps : Nat} (hlt : id < steps) :
    a.findFrom name steps id = .ok (frames.findSome? (·.lookup name)) := by
  induction h generalizing steps with
  | @outermost id s hs hp =>
    obtain ⟨steps, rfl⟩ := Nat.exists_eq_add_of_lt hlt
    cases hl : s.lookup name <;> simp [Arena.findFrom, Arena.get, hs, hp, hl]
  | @inside id parent s frames hs hp hpar _ ih =>
    obtain ⟨steps, rfl⟩ := Nat.exists_eq_add_of_lt hlt
    cases hl : s.lookup name with
    | some e => simp [Arena.findFrom, Arena.get, hs, hl]
    | none =>
      have ih := @ih (id + steps) (Nat.lt_of_lt_of_le hpar (Nat.le_add_right _ _))
      simp [Arena.findFrom, Arena.get, hs, hp, hl, ih]

/-- **A look-up in the arena is a look-up in the chain.** -/
theorem resolve_eq {env : Env} (h : a.Sees id env.frames) (name : String) (span : Span) :
    a.resolve id name span = (env.resolve name span).mapError .refused := by
  have hfind : a.find id name = .ok (env.find? name) := h.findFrom name h.lt_size
  rw [resolve, hfind, Env.resolve]
  cases env.find? name <;> rfl

/-- **A declaration in the arena is a declaration in the frame.** -/
theorem declare_eq (h : a.Sees id (frame :: frames)) (name : String) (entity : Entity)
    (span : Span) :
    a.declare id name entity span =
      ((frame.declare name entity span).map fun binding => a.extend id [binding]).mapError
        .refused := by
  obtain ⟨s, hs, rfl⟩ := h.exists_scope
  rw [declare, Arena.get, hs, Frame.declare, Scope.lookup_frame]
  cases hl : s.lookup name with
  | some e =>
    simp only [hl]
    rfl
  | none =>
    have hset : a.scopes.set id (s.bind name entity) =
        a.scopes.modify id (·.extend [(name, entity)]) := by
      refine List.ext_getElem? fun i => ?_
      by_cases hi : id = i
      · subst hi
        rw [List.getElem?_set_self h.lt_size, List.getElem?_modify_eq, hs]
        rfl
      · simp [List.getElem?_set_ne hi, List.getElem?_modify_ne _ _ hi]
    simp only [hl, hset]
    rfl

/-- Opening a scope puts a frame of its own in front of the chain. -/
theorem child_eq (h : a.Sees id (frame :: frames)) (changes : Overrides) :
    ∃ s : Scope, s.frame = frame ∧
      a.child id changes = .ok (a.push (s.child id changes), a.size) := by
  obtain ⟨s, hs, hf⟩ := h.get
  exact ⟨s, hf, by rw [child, hs, push]⟩

/-- **Closing the last scope** leaves the scopes before it as they are by then. -/
theorem leave_push (a : Arena) (s : Scope) (hpos : 0 < a.size) : (a.push s).leave a.size = a := by
  have hne : a.size ≠ root := Nat.ne_of_gt hpos
  rw [leave, if_neg hne]
  simp [push, size]

end Arena

end Shipshape
