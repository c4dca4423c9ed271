import Shipshape.Proofs.Lexical.Expr

/-!
# How the scopes of a check grow

* `Shipshape.Arena.WellFormed` – the outermost scope has no parent, and the parent of
  every other scope has a smaller number;
* `Shipshape.Arena.Grows` – from one arena to another, one scope gains given names, the
  others that were there stay as they are, and some more may have been opened.

In a well-formed arena every scope sees a chain of frames
(`Shipshape.Arena.WellFormed.exists_sees`), wherever it stands among the others. Growth
composes (`Shipshape.Arena.Grows.trans`); what happens in a scope that was just opened
is no growth for the scopes before it (`Shipshape.Arena.Grows.of_push`), and closing
that scope gives these back as they are by then (`Shipshape.Arena.Grows.leave_eq`).
-/

namespace Shipshape

open Lexical (Frame Env Mirrors)

namespace Arena

variable {a b c : Arena} {id : ScopeId} {names more : List (String × Entity)}

/-! ### Well-formed arenas -/

/-- **The numbers of scopes lead outwards**: the first scope is the outermost one, and
every other lies in one with a smaller number. -/
structure WellFormed (a : Arena) : Prop where
  /-- The first scope is the outermost one. -/
  root : ∃ s, a.scopes[root]? = some s ∧ s.parent = none
  /-- Every other scope lies in one with a smaller number. -/
  parent : ∀ i s, a.scopes[i]? = some s → i ≠ Arena.root → ∃ p, s.parent = some p ∧ p < i

theorem wellFormed_initial : initial.WellFormed := by
  refine ⟨⟨.root, rfl, rfl⟩, fun i s hs hi => ?_⟩
  have hlt : i < 1 := (List.getElem?_eq_some_iff.mp hs).1
  exact absurd (Nat.lt_one_iff.mp hlt) hi

/-- There is at least the outermost scope. -/
theorem WellFormed.size_pos (h : a.WellFormed) : 0 < a.size := by
  obtain ⟨s, hs, -⟩ := h.root
  exact (List.getElem?_eq_some_iff.mp hs).1

/-- **Every scope sees a chain of frames.** -/
theorem WellFormed.exists_sees (h : a.WellFormed) (hid : id < a.size) :
    ∃ frame frames, a.Sees id (frame :: frames) := by
  induction id using Nat.strongRecOn with
  | _ id ih =>
    have hs : a.scopes[id]? = some a.scopes[id] := List.getElem?_eq_getElem hid
    by_cases hroot : id = Arena.root
    · obtain ⟨s, hs, hp⟩ := h.root
      exact ⟨s.frame, [], hroot ▸ .outermost hs hp⟩
    · obtain ⟨p, hp, hlt⟩ := h.parent id _ hs hroot
      obtain ⟨frame, frames, hsees⟩ := ih p hlt (Nat.lt_trans hlt hid)
      exact ⟨_, _, .inside hs hp hlt hsees⟩

theorem WellFormed.push (h : a.WellFormed) {s : Scope} (hs : s.parent = some id)
    (hid : id < a.size) : (a.push s).WellFormed := by
  refine ⟨?_, fun i t ht hi => ?_⟩
  · obtain ⟨r, hr, hp⟩ := h.root
    exact ⟨r, (List.getElem?_append_left h.size_pos).trans hr, hp⟩
  · rcases Nat.lt_or_ge i a.size with hlt | hge
    · exact h.parent i t ((List.getElem?_append_left hlt).symm.trans ht) hi
    · rw [Arena.push, List.getElem?_append_right hge] at ht
      obtain rfl : t = s := by simpa using List.mem_of_getElem? ht
      exact ⟨id, hs, Nat.lt_of_lt_of_le hid hge⟩

/-- More names in a scope do not matter to where the others stand. -/
theorem getElem?_extend (a : Arena) (id : ScopeId) (names : List (String × Entity)) (i : Nat) :
    (a.extend id names).scopes[i]? =
      (a.scopes[i]?).map fun s => if id = i then s.extend names else s := by
  rw [extend, List.getElem?_modify]
  rfl

theorem getElem?_extend_of_ne (a : Arena) (names : List (String × Entity)) {i : Nat}
    (hi : i ≠ id) : (a.extend id names).scopes[i]? = a.scopes[i]? :=
  List.getElem?_modify_ne _ _ hi.symm

theorem getElem?_extend_self {s : Scope} (hs : a.scopes[id]? = some s)
    (names : List (String × Entity)) :
    (a.extend id names).scopes[id]? = some (s.extend names) := by
  rw [getElem?_extend, hs]
  simp

theorem WellFormed.extend (h : a.WellFormed) (id : ScopeId) (names : List (String × Entity)) :
    (a.extend id names).WellFormed := by
  have hparent (i : Nat) (s : Scope) :
      (if id = i then s.extend names else s).parent = s.parent := by
    split <;> rfl
  refine ⟨?_, fun i t ht hi => ?_⟩
  · obtain ⟨r, hr, hp⟩ := h.root
    rw [getElem?_extend, hr]
    exact ⟨_, rfl, (hparent _ r).trans hp⟩
  · rw [getElem?_extend] at ht
    obtain ⟨s, hs, rfl⟩ := Option.map_eq_some_iff.mp ht
    rw [hparent]
    exact h.parent i s hs hi

/-- **A scope that is alive**, in a well-formed arena. It need not be the last one. -/
structure Live (a : Arena) (id : ScopeId) : Prop where
  /-- The numbers of scopes lead outwards. -/
  wellFormed : a.WellFormed
  /-- The scope is there. -/
  lt_size : id < a.size

theorem Live.extend (h : a.Live id) (other : ScopeId) (names : List (String × Entity)) :
    (a.extend other names).Live id :=
  ⟨h.wellFormed.extend other names, (size_extend a other names).symm ▸ h.lt_size⟩

/-- A scope that was just opened is alive. -/
theorem Live.push (h : a.Live id) {s : Scope} (hs : s.parent = some id) :
    (a.push s).Live a.size :=
  ⟨h.wellFormed.push hs h.lt_size, by simp [Arena.push, size]⟩

/-! ### Growth -/

/-- The class that a scope lies in. -/
def cls? (a : Arena) (id : ScopeId) : Option ClassRef := (a.scopes[id]?).bind Scope.cls

/-- The class that a scope which was just opened lies in. -/
theorem cls?_push (a : Arena) (s : Scope) : (a.push s).cls? a.size = s.cls := by
  simp [cls?, push, size]

/-- A name is not declared in a scope itself. -/
def Free (a : Arena) (id : ScopeId) (name : String) : Prop :=
  ∀ scope, a.scopes[id]? = some scope → scope.lookup name = none

/-- **From one arena to another, a scope gains names.** All other scopes of the first
are unchanged in the second, which may have more scopes and is well-formed. -/
structure Grows (a : Arena) (id : ScopeId) (names : List (String × Entity)) (b : Arena) :
    Prop where
  /-- No scope is lost. -/
  size_le : a.size ≤ b.size
  /-- The scopes that were there. -/
  scopes : ∀ i < a.size, b.scopes[i]? = (a.extend id names).scopes[i]?
  /-- The numbers of all scopes lead outwards. -/
  wellFormed : b.WellFormed

namespace Grows

theorem extend (h : a.WellFormed) (id : ScopeId) (names : List (String × Entity)) :
    a.Grows id names (a.extend id names) :=
  ⟨Nat.le_of_eq (size_extend a id names).symm, fun _ _ => rfl, h.extend id names⟩

theorem refl (h : a.WellFormed) (id : ScopeId) : a.Grows id [] a := by
  have hgrows := extend h id []
  rw [extend_nil] at hgrows
  exact hgrows

/-- **Growth composes.** -/
theorem trans (h : a.Grows id names b) (h' : b.Grows id more c) :
    a.Grows id (more ++ names) c := by
  refine ⟨Nat.le_trans h.size_le h'.size_le, fun i hi => ?_, h'.wellFormed⟩
  rw [h'.scopes i (Nat.lt_of_lt_of_le hi h.size_le), getElem?_extend, h.scopes i hi,
    ← getElem?_extend, extend_extend]

/-- The scopes that were there, when none gains a name. -/
theorem scopes_eq (h : a.Grows id [] b) {i : Nat} (hi : i < a.size) :
    b.scopes[i]? = a.scopes[i]? := by
  rw [h.scopes i hi, extend_nil]

/-- A scope that is alive stays so. -/
theorem live (h : a.Grows id names b) {i : ScopeId} (hi : a.Live i) : b.Live i :=
  ⟨h.wellFormed, Nat.lt_of_lt_of_le hi.lt_size h.size_le⟩

/-- A scope stays in its class. -/
theorem cls?_eq (h : a.Grows id names b) (hid : id < a.size) : b.cls? id = a.cls? id := by
  rw [cls?, cls?, h.scopes id hid, getElem?_extend, List.getElem?_eq_getElem hid]
  simp [Scope.extend]

/-- A name that is free later was free before. -/
theorem free (h : a.Grows id names b) (hid : id < a.size) {name : String} (hfree : b.Free id name) :
    a.Free id name := by
  intro scope hscope
  have hb : b.scopes[id]? = some (scope.extend names) :=
    (h.scopes id hid).trans (getElem?_extend_self hscope names)
  have hlookup : (names ++ scope.names).lookup name = none := hfree _ hb
  rw [List.lookup_append, Option.or_eq_none_iff] at hlookup
  exact hlookup.2

/-- **What happens in a scope that was just opened** is no growth for those before
it. -/
theorem of_push {s : Scope} (h : (a.push s).Grows a.size names b) (id : ScopeId) :
    a.Grows id [] b := by
  have hsize : (a.push s).size = a.size + 1 := by simp [push, size]
  refine ⟨?_, fun i hi => ?_, h.wellFormed⟩
  · have hle := h.size_le
    omega
  · rw [h.scopes i (by omega), extend_push_size, extend_nil]
    exact List.getElem?_append_left hi

/-- **Closing a scope that was opened since** gives back the scopes before it, as they
are by then. -/
theorem leave_eq (h : a.Grows id names b) (hpos : 0 < a.size) :
    b.leave a.size = a.extend id names := by
  have hne : a.size ≠ Arena.root := Nat.ne_of_gt hpos
  rw [leave, if_neg hne]
  have htake : b.scopes.take a.size = (a.extend id names).scopes := by
    refine List.ext_getElem? fun i => ?_
    rcases Nat.lt_or_ge i a.size with hi | hi
    · rw [List.getElem?_take_of_lt hi, h.scopes i hi]
    · have hlen : (a.extend id names).scopes.length ≤ i := by
        rw [show (a.extend id names).scopes.length = a.size from size_extend a id names]
        exact hi
      rw [List.getElem?_take_eq_none hi, List.getElem?_eq_none hlen]
  rw [htake]

end Grows

/-! ### Operations -/

/-- **A declaration adds one name**, which was free. -/
theorem Live.of_declare (h : a.Live id) {name : String} {entity : Entity} {span : Span}
    (hb : a.declare id name entity span = .ok b) :
    a.Free id name ∧ b = a.extend id [(name, entity)] := by
  obtain ⟨frame, frames, hsees⟩ := h.wellFormed.exists_sees h.lt_size
  obtain ⟨s, hs, hframe⟩ := hsees.exists_scope
  rw [declare_eq hsees, Frame.declare, ← hframe, Scope.lookup_frame] at hb
  cases hl : s.lookup name with
  | some e =>
    rw [hl] at hb
    cases hb
  | none =>
    refine ⟨fun scope hscope => ?_, ?_⟩
    · obtain rfl := Option.some.inj (hs.symm.trans hscope)
      exact hl
    · rw [hl] at hb
      exact (Except.ok.inj hb).symm

/-- **A scope that is opened** has no names yet, and lies in the class of the scope
around it unless it brings its own. -/
theorem Live.child_eq (h : a.Live id) (changes : Overrides) :
    ∃ s : Scope, s.parent = some id ∧ s.cls = changes.cls.or (a.cls? id) ∧
      a.child id changes = .ok (a.push s, a.size) := by
  obtain ⟨frame, frames, hsees⟩ := h.wellFormed.exists_sees h.lt_size
  obtain ⟨s, hs, -⟩ := hsees.exists_scope
  refine ⟨s.child id changes, rfl, ?_, ?_⟩
  · rw [cls?, hs]
    rfl
  · rw [child, get, hs]
    rfl

end Arena

/-- A scope that is alive sees an environment. -/
theorem Arena.Live.exists_mirrors {s : State} {id : ScopeId} (h : s.arena.Live id) :
    ∃ env, Mirrors s id env := by
  obtain ⟨frame, frames, hsees⟩ := h.wellFormed.exists_sees h.lt_size
  exact ⟨⟨frame, frames, s.depth, s.limit⟩, hsees, rfl, rfl⟩

end Shipshape
