import Mathlib.Logic.Relation
import Shipshape.Proofs.Lexical.Simulation
import Shipshape.Proofs.Lexical.Typed

/-!
# Steps of a check

All that a check ever does to its state, one operation at a time, together with
what the checker has made sure of before it does so.

* `Shipshape.Step` – one operation;
* `Shipshape.Reaches` – operations one after the other;
* `Shipshape.State.Sound` – what holds of every state that a check reaches;
* `Shipshape.State.Sealed` – no scope that is alive lies in a given class.

Every fact about all states of a run comes from one about a single step: states
stay sound (`Shipshape.Reaches.sound`), classes only grow
(`Shipshape.Reaches.grows`), and a class that is sealed never changes again
(`Shipshape.Reaches.info_of_sealed`). The last is so because members are added
through a scope that lies in the class, and a scope inherits its class from the one
around it, unless it is that of a class made just then.
-/

namespace Shipshape

/-! ### Arenas -/

namespace Arena

variable {a b : Arena} {id new : ScopeId} {name : String} {entity : Entity} {span : Span}
  {changes : Overrides}

/-- A declaration adds a binding to one scope and leaves what surrounds scopes
alone. -/
theorem mem_of_declare (h : a.declare id name entity span = .ok b) {scope : Scope}
    (hscope : scope ∈ b.scopes) : ∃ old ∈ a.scopes, scope.cls = old.cls ∧
      ∀ p ∈ scope.names, p ∈ old.names ∨ p = (name, entity) := by
  rw [declare, get] at h
  cases hold : a.scopes[id]? with
  | none => simp [hold] at h
  | some old =>
    have hmem : old ∈ a.scopes := List.mem_of_getElem? hold
    simp only [hold] at h
    split at h
    · cases h
    · obtain rfl := Except.ok.inj h
      rcases List.mem_or_eq_of_mem_set hscope with hscope | rfl
      · exact ⟨scope, hscope, rfl, fun p hp => .inl hp⟩
      · refine ⟨old, hmem, rfl, fun p hp => ?_⟩
        rcases List.mem_cons.mp hp with rfl | hp
        · exact .inr rfl
        · exact .inl hp

/-- A new scope has no names, and its class is that of the scope around it unless it
brings its own. -/
theorem mem_of_child (h : a.child id changes = .ok (b, new)) {scope : Scope}
    (hscope : scope ∈ b.scopes) : scope ∈ a.scopes ∨ scope.names = [] ∧
      ∃ parent ∈ a.scopes, scope.cls = changes.cls.or parent.cls := by
  rw [child, get] at h
  cases hparent : a.scopes[id]? with
  | none => simp [hparent] at h
  | some parent =>
    have hmem : parent ∈ a.scopes := List.mem_of_getElem? hparent
    simp only [hparent, Except.ok.injEq, Prod.mk.injEq] at h
    obtain ⟨rfl, -⟩ := h
    rcases List.mem_append.mp hscope with hscope | hscope
    · exact .inl hscope
    · obtain rfl := List.mem_singleton.mp hscope
      exact .inr ⟨rfl, parent, hmem, rfl⟩

/-- Closing scopes leaves some of them. -/
theorem mem_of_leave {scope : Scope} (hscope : scope ∈ (a.leave id).scopes) :
    scope ∈ a.scopes := by
  rw [leave] at hscope
  split at hscope
  · exact hscope
  · exact List.mem_of_mem_take hscope

end Arena

/-! ### Classes -/

namespace ClassTable

variable {t : ClassTable} {P : ClassInfo → Prop}

theorem forall_mem_set (h : ∀ c ∈ t.infos, P c) (cls : ClassRef) {c : ClassInfo} (hc : P c) :
    ∀ d ∈ (t.set cls c).infos, P d := by
  intro d hd
  rcases List.mem_or_eq_of_mem_set hd with hd | rfl
  · exact h d hd
  · exact hc

theorem forall_mem_enter (h : ∀ c ∈ t.infos, P c) {name : String} {ctor : Signature}
    (hc : P ⟨name, ctor, [], []⟩) : ∀ d ∈ (t.enter name ctor).infos, P d := by
  intro d hd
  rcases List.mem_append.mp hd with hd | hd
  · exact h d hd
  · exact List.mem_singleton.mp hd ▸ hc

end ClassTable

/-- **What is right about a class**: it is settled, no two fields and no two methods share a
name, and every method is a function. -/
structure ClassInfo.Sound (c : ClassInfo) : Prop where
  /-- `any` does not occur in it. -/
  settled : c.Settled
  /-- The names of members are distinct. -/
  distinct : c.Distinct
  /-- Methods are functions. -/
  callable : c.Callable

namespace ClassInfo.Sound

variable {c : ClassInfo} {name : String}

theorem entered {ctor : Signature} (h : ctor.toTy.Settled) : Sound ⟨name, ctor, [], []⟩ := by
  refine ⟨⟨h, ?_, ?_⟩, ⟨List.nodup_nil, List.nodup_nil⟩, .new name⟩
  · exact fun f hf => nomatch hf
  · exact fun m hm => nomatch hm

theorem addField (h : c.Sound) {ty : Ty} (hty : ty.Settled)
    (hfree : name ∉ c.fields.map Prod.fst) : (c.gain [(name, ty)] []).Sound := by
  refine ⟨⟨h.settled.ctor, ?_, ?_⟩, h.distinct.addField hfree, h.callable.gain _ _⟩
  · exact List.forall_mem_append.mpr ⟨h.settled.fields, List.forall_mem_singleton.mpr hty⟩
  · simpa [gain] using h.settled.methods

theorem addMethod (h : c.Sound) {signature : Signature} (hsig : signature.toTy.Settled)
    (hfree : c.method? name = none) : (c.gain [] [(name, signature)]).Sound := by
  refine ⟨⟨h.settled.ctor, ?_, ?_⟩,
    h.distinct.addMethod (h.callable.method?_eq_none_iff.mp hfree), h.callable.gain _ _⟩
  · simpa [gain] using h.settled.fields
  · exact List.forall_mem_append.mpr ⟨h.settled.methods, List.forall_mem_singleton.mpr hsig⟩

theorem new (name : String) : (ClassInfo.new name).Sound :=
  entered (.function (fun p hp => nomatch hp) (.scalar (by decide)))

end ClassInfo.Sound

/-! ### States -/

/-- **What holds of every state that a check reaches.** -/
structure State.Sound (s : State) : Prop where
  /-- Every name is bound to an entity that it may be bound to. -/
  names : ∀ scope ∈ s.arena.scopes, ∀ b ∈ scope.names, b.2.Bindable s.classes b.1
  /-- The class that a scope lies in was made. -/
  cls : ∀ scope ∈ s.arena.scopes, ∀ c ∈ scope.cls, c.id < s.classes.size
  /-- What is known about classes is as it should be. -/
  classes : ∀ c ∈ s.classes.infos, c.Sound

theorem State.Sound.info {s : State} (h : s.Sound) (cls : ClassRef) :
    (s.classes.info cls).Sound := by
  rw [ClassTable.info]
  cases hc : s.classes.infos[cls.id]? with
  | none => exact .new cls.name
  | some c => exact h.classes c (List.mem_of_getElem? hc)

/-- The state in which a check begins is sound. -/
theorem State.sound_initial (limit : Nat) : (State.initial limit).Sound := by
  refine ⟨?_, ?_, fun c hc => nomatch hc⟩
  · intro scope hscope b hb
    obtain rfl := List.mem_singleton.mp hscope
    have hsettled := builtInEntities_settled b hb
    obtain ⟨⟨kind, i⟩, -, rfl⟩ := List.mem_map.mp hb
    exact ⟨rfl, hsettled, fun cls hcls => nomatch hcls⟩
  · intro scope hscope c hc
    obtain rfl := List.mem_singleton.mp hscope
    cases hc

/-- No scope that is alive lies in the class, and the class was made. -/
structure State.Sealed (cls : ClassRef) (s : State) : Prop where
  /-- The class was made. -/
  declared : cls.id < s.classes.size
  /-- Scopes lie in other classes. -/
  away : ∀ scope ∈ s.arena.scopes, ∀ c ∈ scope.cls, c.id ≠ cls.id

/-! ### One step -/

/-- **One operation of a check on its state.** -/
inductive Step : State → State → Prop
  /-- The check descends into a node or comes back up. -/
  | depth {s : State} (n : Nat) : Step s { s with depth := n }
  /-- An entity is made. -/
  | newEntity {s : State} : Step s s.fresh
  /-- A name is bound to an entity that it may be bound to. -/
  | declare {s : State} {id : ScopeId} {name : String} {entity : Entity} {span : Span}
      {arena : Arena} : s.arena.declare id name entity span = .ok arena →
      entity.Bindable s.classes name → Step s { s with arena }
  /-- A scope is opened that lies in the class of the scope around it. -/
  | openScope {s : State} {id new : ScopeId} {changes : Overrides} {arena : Arena} :
      s.arena.child id changes = .ok (arena, new) → changes.cls = none → Step s { s with arena }
  /-- A scope is closed with all that were opened after it. -/
  | closeScope {s : State} (id : ScopeId) : Step s { s with arena := s.arena.leave id }
  /-- A class is made with its constructor, and its scope is opened. -/
  | enterClass {s : State} {id new : ScopeId} {name : String} {ctor : Signature} {arena : Arena} :
      s.arena.child id { cls := some ⟨s.classes.size, name⟩ } = .ok (arena, new) →
      ctor.toTy.Settled → Step s { s with arena, classes := s.classes.enter name ctor }
  /-- A field is added to the class that a scope lies in. -/
  | addField {s : State} {scope : Scope} {cls : ClassRef} {name : String} {ty : Ty}
      {classes : ClassTable} : scope ∈ s.arena.scopes → scope.cls = some cls → ty.Settled →
      s.classes.addField? cls name ty = some classes → Step s { s with classes }
  /-- A method is added to the class that a scope lies in. -/
  | addMethod {s : State} {scope : Scope} {cls : ClassRef} {name : String} {signature : Signature}
      {classes : ClassTable} : scope ∈ s.arena.scopes → scope.cls = some cls →
      signature.toTy.Settled → s.classes.addMethod? cls name signature = some classes →
      Step s { s with classes }

namespace Step

variable {s t : State}

/-- **Classes only grow**, in one step. -/
theorem grows (h : Step s t) : s.classes.Extends t.classes := by
  cases h with
  | depth | newEntity | declare | openScope | closeScope => exact .refl _
  | enterClass _ _ => exact (ClassTable.gains_enter s.classes none _ _).grows
  | addField _ _ _ hadd => exact (ClassTable.gains_of_addField? hadd).grows
  | addMethod _ _ _ hadd => exact (ClassTable.gains_of_addMethod? hadd).grows

/-- **States stay sound**, in one step. -/
theorem sound (h : Step s t) (hs : s.Sound) : t.Sound := by
  cases h with
  | depth | newEntity => exact ⟨hs.names, hs.cls, hs.classes⟩
  | @declare id name entity span arena hdecl hbound =>
    refine ⟨fun scope hscope b hb => ?_, fun scope hscope c hc => ?_, hs.classes⟩
    · obtain ⟨old, hold, -, hnames⟩ := Arena.mem_of_declare hdecl hscope
      rcases hnames b hb with hb | rfl
      · exact hs.names old hold b hb
      · exact hbound
    · obtain ⟨old, hold, hcls, -⟩ := Arena.mem_of_declare hdecl hscope
      exact hs.cls old hold c (hcls ▸ hc)
  | @openScope id new changes arena hopen hchanges =>
    refine ⟨fun scope hscope b hb => ?_, fun scope hscope c hc => ?_, hs.classes⟩
    · rcases Arena.mem_of_child hopen hscope with hscope | ⟨hnil, -⟩
      · exact hs.names scope hscope b hb
      · rw [hnil] at hb
        cases hb
    · rcases Arena.mem_of_child hopen hscope with hscope | ⟨-, parent, hparent, hcls⟩
      · exact hs.cls scope hscope c hc
      · rw [hcls, hchanges, Option.none_or] at hc
        exact hs.cls parent hparent c hc
  | closeScope id =>
    refine ⟨fun scope hscope => ?_, fun scope hscope => ?_, hs.classes⟩
    · exact hs.names scope (Arena.mem_of_leave hscope)
    · exact hs.cls scope (Arena.mem_of_leave hscope)
  | @enterClass id new name ctor arena hopen hctor =>
    -- The new scope has no names and lies in the new class; the others keep theirs.
    have hext : s.classes.Extends (s.classes.enter name ctor) :=
      (ClassTable.gains_enter s.classes none name ctor).grows
    refine ⟨fun scope hscope b hb => ?_, fun scope hscope c hc => ?_,
      ClassTable.forall_mem_enter hs.classes (.entered hctor)⟩
    · rcases Arena.mem_of_child hopen hscope with hscope | ⟨hnil, -⟩
      · exact (hs.names scope hscope b hb).mono hext
      · rw [hnil] at hb
        cases hb
    · rcases Arena.mem_of_child hopen hscope with hscope | ⟨-, parent, hparent, hcls⟩
      · exact hext.lt_size (hs.cls scope hscope c hc)
      · rw [hcls] at hc
        obtain rfl := Option.some.inj hc
        exact (ClassTable.size_enter ..).symm ▸ Nat.lt_succ_self _
  -- A new member leaves the scopes alone, and what their names mean stays.
  | @addField scope cls name ty classes hscope hcls hty hadd =>
    have hext : s.classes.Extends classes := (Step.addField hscope hcls hty hadd).grows
    obtain ⟨hfree, rfl⟩ := ClassTable.addField?_eq_some hadd
    refine ⟨fun scope hscope b hb => ?_, fun scope hscope c hc => ?_, ?_⟩
    · exact (hs.names scope hscope b hb).mono hext
    · exact hext.lt_size (hs.cls scope hscope c hc)
    · exact ClassTable.forall_mem_set hs.classes cls ((hs.info cls).addField hty hfree)
  | @addMethod scope cls name signature classes hscope hcls hsig hadd =>
    have hext : s.classes.Extends classes := (Step.addMethod hscope hcls hsig hadd).grows
    obtain ⟨hfree, rfl⟩ := ClassTable.addMethod?_eq_some hadd
    refine ⟨fun scope hscope b hb => ?_, fun scope hscope c hc => ?_, ?_⟩
    · exact (hs.names scope hscope b hb).mono hext
    · exact hext.lt_size (hs.cls scope hscope c hc)
    · exact ClassTable.forall_mem_set hs.classes cls ((hs.info cls).addMethod hsig hfree)

/-- **A class that is sealed stays so**, in one step. -/
theorem sealed {cls : ClassRef} (h : Step s t) (hs : s.Sealed cls) : t.Sealed cls := by
  refine ⟨h.grows.lt_size hs.declared, fun scope hscope c hc => ?_⟩
  cases h with
  | depth | newEntity | addField | addMethod => exact hs.away scope hscope c hc
  | declare hdecl _ =>
    obtain ⟨old, hold, hcls, -⟩ := Arena.mem_of_declare hdecl hscope
    exact hs.away old hold c (hcls ▸ hc)
  | openScope hopen hchanges =>
    rcases Arena.mem_of_child hopen hscope with hscope | ⟨-, parent, hparent, hcls⟩
    · exact hs.away scope hscope c hc
    · rw [hcls, hchanges, Option.none_or] at hc
      exact hs.away parent hparent c hc
  | closeScope id => exact hs.away scope (Arena.mem_of_leave hscope) c hc
  | enterClass hopen _ =>
    rcases Arena.mem_of_child hopen hscope with hscope | ⟨-, parent, hparent, hcls⟩
    · exact hs.away scope hscope c hc
    · -- The new class has a number that no class had before.
      rw [hcls] at hc
      obtain rfl := Option.some.inj hc
      exact Nat.ne_of_gt hs.declared

/-- **Nothing changes about a class that is sealed**, in one step. -/
theorem info_of_sealed {cls : ClassRef} (h : Step s t) (hs : s.Sealed cls) :
    t.classes.info cls = s.classes.info cls := by
  cases h with
  | depth | newEntity | declare | openScope | closeScope => rfl
  | @enterClass id new name ctor arena _ _ =>
    have hgain := s.classes.gains_enter (some ⟨s.classes.size, name⟩) name ctor
    exact hgain.info_of_ne hs.declared (Nat.ne_of_gt hs.declared)
  -- A member goes to a class that a scope lies in, and none lies in this one.
  | @addField scope other name ty classes hscope hcls _ hadd =>
    have hne : other.id ≠ cls.id := hs.away scope hscope other hcls
    exact (ClassTable.gains_of_addField? hadd).info_of_ne hs.declared hne
  | @addMethod scope other name signature classes hscope hcls _ hadd =>
    have hne : other.id ≠ cls.id := hs.away scope hscope other hcls
    exact (ClassTable.gains_of_addMethod? hadd).info_of_ne hs.declared hne

end Step

/-! ### Many steps -/

/-- **Operations one after the other** lead from one state to another. -/
def Reaches : State → State → Prop := Relation.ReflTransGen Step

namespace Reaches

variable {s t u : State}

theorem refl (s : State) : Reaches s s := Relation.ReflTransGen.refl

theorem trans (h : Reaches s t) (h' : Reaches t u) : Reaches s u :=
  Relation.ReflTransGen.trans h h'

theorem single (h : Step s t) : Reaches s t := Relation.ReflTransGen.single h

/-- **States stay sound.** -/
theorem sound (h : Reaches s t) (hs : s.Sound) : t.Sound := by
  induction h with
  | refl => exact hs
  | tail _ hstep ih => exact hstep.sound ih

/-- **Classes only grow.** -/
theorem grows (h : Reaches s t) : s.classes.Extends t.classes := by
  induction h with
  | refl => exact .refl _
  | tail _ hstep ih => exact ih.trans hstep.grows

/-- **A class that is sealed never changes again.** -/
theorem info_of_sealed {cls : ClassRef} (h : Reaches s t) (hs : s.Sealed cls) :
    t.Sealed cls ∧ t.classes.info cls = s.classes.info cls := by
  induction h with
  | refl => exact ⟨hs, rfl⟩
  | tail _ hstep ih =>
    obtain ⟨hsealed, hinfo⟩ := ih
    exact ⟨hstep.sealed hsealed, (hstep.info_of_sealed hsealed).trans hinfo⟩

end Reaches

/-! ### What a scope sees in a sound state -/

/-- What is seen from a scope are frames of scopes that are alive. -/
theorem Arena.Sees.mem {a : Arena} {id : ScopeId} {frames : List Lexical.Frame}
    (h : a.Sees id frames) : ∀ frame ∈ frames, ∃ scope ∈ a.scopes, scope.frame = frame := by
  induction h with
  | outermost hs _ =>
    intro frame hframe
    exact ⟨_, List.mem_of_getElem? hs, (List.mem_singleton.mp hframe).symm⟩
  | inside hs _ _ _ ih =>
    exact List.forall_mem_cons.mpr ⟨⟨_, List.mem_of_getElem? hs, rfl⟩, ih⟩

variable {s : State} {id : ScopeId} {env : Lexical.Env}

/-- In a sound state every scope sees a sound environment. -/
theorem State.Sound.sees (hs : s.Sound) (h : Lexical.Mirrors s id env) : env.Sound s.classes := by
  intro frame hframe b hb
  obtain ⟨scope, hscope, rfl⟩ := h.sees.mem frame hframe
  exact hs.names scope hscope b hb

/-- The scope that is seen from, with what surrounds it. -/
theorem Lexical.Mirrors.exists_scope (h : Lexical.Mirrors s id env) :
    ∃ scope ∈ s.arena.scopes, scope.frame = env.frame := by
  obtain ⟨scope, hscope, hframe⟩ := h.sees.exists_scope
  exact ⟨scope, List.mem_of_getElem? hscope, hframe⟩

end Shipshape
