import Shipshape.Proofs.Run.Step

/-!
# What a check leaves when it succeeds

* `Shipshape.Check.Yields` – if a computation succeeds, its value and the state after
  it satisfy a condition.

The condition goes through sequencing. There is one rule for each operation; a rule
for an operation that changes the state says how, and that this is a step of a check
(`Shipshape.Step`).
-/

namespace Shipshape

open Lexical (Frame Env Mirrors Store)

namespace Check

variable {α β : Type} {s : State} {id : ScopeId} {env : Env} {Q R : α → State → Prop}

/-- **If the computation succeeds**, its value and the state after it satisfy the
condition `Q`. -/
def Yields (m : Check α) (s : State) (Q : α → State → Prop) : Prop :=
  ∀ a t, m s = .ok a t → Q a t

namespace Yields

theorem pure {a : α} (h : Q a s) : Yields (pure a) s Q := by
  intro b t hb
  cases hb
  exact h

theorem bind {m : Check β} {f : β → Check α} {P : β → State → Prop} (hm : Yields m s P)
    (hf : ∀ b t, P b t → Yields (f b) t Q) : Yields (m >>= f) s Q := by
  intro a t h
  simp only [Bind.bind, EStateM.bind] at h
  cases hms : m s with
  | error e u => simp [hms] at h
  | ok b u =>
    simp only [hms] at h
    exact hf b u (hm b u hms) a t h

theorem mono {m : Check α} (hm : Yields m s R) (h : ∀ a t, R a t → Q a t) : Yields m s Q :=
  fun a t ha => h a t (hm a t ha)

theorem and {m : Check α} (hQ : Yields m s Q) (hR : Yields m s R) :
    Yields m s fun a t => Q a t ∧ R a t :=
  fun a t ha => ⟨hQ a t ha, hR a t ha⟩

/-- What is yielded comes with the run that yields it. -/
theorem run {m : Check α} (h : Yields m s Q) : Yields m s fun a t => m s = .ok a t ∧ Q a t :=
  fun a t ha => ⟨ha, h a t ha⟩

/-- What two checkers agree on is yielded by the first. -/
theorem of_agree {γ : Type} {m : Check α} {r : EStateM.Result Diagnostic Store γ}
    {P : α → State → γ → Store → Prop} (h : Lexical.Agree P (m s) r) :
    Yields m s fun a t => ∃ b σ, P a t b σ := by
  intro a t ha
  rcases h.cases with ⟨a', t', b, σ, hm, -, hP⟩ | ⟨d, t', σ, hm, -⟩
  · rw [hm] at ha
    cases ha
    exact ⟨b, σ, hP⟩
  · rw [hm] at ha
    cases ha

/-- What only reads the state may come first. -/
theorem reads {m : Check β} {x : Except Diagnostic β} {f : β → Check α} (hm : Reads m s x)
    (hf : ∀ b, x = .ok b → Yields (f b) s Q) : Yields (m >>= f) s Q := by
  have hm : m s = ofRule x s := hm
  refine bind (P := fun b t => x = .ok b ∧ t = s) ?_ ?_
  · intro b t hb
    rw [hm] at hb
    cases x with
    | error d => cases hb
    | ok c =>
      cases hb
      exact ⟨rfl, rfl⟩
  · rintro b _ ⟨hx, rfl⟩
    exact hf b hx

/-- What surrounds the scope may be looked at first. -/
theorem scope (h : Mirrors s id env) {f : Scope → Check α}
    (hf : ∀ scope : Scope, scope.frame = env.frame → Yields (f scope) s Q) :
    Yields (Check.scope id >>= f) s Q := by
  obtain ⟨scope, hs, hframe⟩ := h.sees.get
  have hbind : (Check.scope id >>= f) s = f scope s := by
    simp [Bind.bind, EStateM.bind, Check.scope, hs]
  intro a t ha
  exact hf scope hframe a t (hbind ▸ ha)

/-- An entity may be made first. -/
theorem newEntity {binding : Binding} {f : Entity → Check α}
    (hf : ∀ n, Yields (f ⟨n, binding⟩) s.fresh Q) :
    Yields (Check.newEntity binding >>= f) s Q :=
  hf s.nextEntity

/-- A class may be made first. -/
theorem newClass {name : String} {f : ClassRef → Check α}
    (hf : Yields (f (s.classes.add name).2) { s with classes := (s.classes.add name).1 } Q) :
    Yields (Check.newClass name >>= f) s Q :=
  hf

/-- The constructor of a class may be set first. -/
theorem setCtor {cls : ClassRef} {signature : Signature} {f : Unit → Check α}
    (hf : Yields (f ()) { s with classes := s.classes.setCtor cls signature } Q) :
    Yields (Check.setCtor cls signature >>= f) s Q :=
  hf

/-- A name may be declared first. -/
theorem declare {frame : Frame} {frames : List Frame} (h : s.arena.Sees id (frame :: frames))
    {name : String} {entity : Entity} {span : Span} {f : Unit → Check α}
    (hbound : entity.Bindable s.classes name)
    (hf : Step s (s.advance id [(name, entity)] s.store) →
      Yields (f ()) (s.advance id [(name, entity)] s.store) Q) :
    Yields (Check.declare id name entity span >>= f) s Q := by
  intro a t ha
  simp only [Bind.bind, EStateM.bind, Check.declare] at ha
  cases hdecl : s.arena.declare id name entity span with
  | error e => simp [hdecl] at ha
  | ok arena =>
    -- The name was free in the frame at hand, or the declaration would have failed.
    have harena : arena = s.arena.extend id [(name, entity)] := by
      rw [Arena.declare_eq h, Frame.declare] at hdecl
      cases hl : frame.lookup name with
      | none =>
        rw [hl] at hdecl
        exact (Except.ok.inj hdecl).symm
      | some e =>
        rw [hl] at hdecl
        cases hdecl
    have hstep : Step s { s with arena } := .declare hdecl hbound
    simp only [hdecl] at ha
    subst harena
    exact hf hstep a t ha

/-- A field may be added first. -/
theorem addField {cls : ClassRef} {name : String} {ty : Ty} {span : Span} {m : Check α}
    (hm : ∀ classes, s.classes.addField? cls name ty = some classes →
      Yields m { s with classes } Q) :
    Yields (Check.addField cls name ty >>= fun free =>
      if free then m else Check.refuse (.duplicateDeclaration name) span) s Q := by
  intro a t ha
  simp only [Bind.bind, EStateM.bind, Check.addField] at ha
  cases hadd : s.classes.addField? cls name ty with
  | none =>
    rw [hadd] at ha
    cases ha
  | some classes =>
    rw [hadd] at ha
    exact hm classes hadd a t ha

/-- One level deeper may be gone first. -/
theorem nested {span : Span} {act : Check α}
    (h : Yields act s.deeper fun a t => Q a { t with depth := t.depth - 1 }) :
    Yields (Check.nested span act) s Q := by
  intro a t ha
  rw [Check.nested] at ha
  split at ha
  · cases hact : act { s with depth := s.depth + 1 } with
    | error e u =>
      rw [hact] at ha
      cases ha
    | ok b u =>
      rw [hact] at ha
      cases ha
      exact h a u hact
  · cases ha

/-- A scope may be opened first. -/
theorem openScope {changes : Overrides} {f : ScopeId → Check α} (h : Mirrors s id env)
    (hf : ∀ scope : Scope, scope.parent = some id →
      scope.frame = .empty (changes.ambient env.ambient) →
      s.arena.child id changes = .ok (s.arena.push scope, s.arena.size) →
      Yields (f s.arena.size) (s.push scope) Q) :
    Yields (Check.openScope id changes >>= f) s Q := by
  obtain ⟨scope, hframe, hchild⟩ := Arena.child_eq h.sees changes
  have hopen : Check.openScope id changes s =
      .ok s.arena.size (s.push (scope.child id changes)) := by
    simp only [Check.openScope, hchild, State.push]
  have hf := hf (scope.child id changes) rfl
    (congrArg (fun f : Frame => Frame.empty (changes.ambient f.ambient)) hframe) hchild
  intro a t ha
  simp only [Bind.bind, EStateM.bind, hopen] at ha
  exact hf a t ha

/-- A scope may be closed first. -/
theorem closeScope {new : ScopeId} {f : Unit → Check α}
    (hf : Yields (f ()) { s with arena := s.arena.leave new } Q) :
    Yields (Check.closeScope new >>= f) s Q :=
  hf

/-- **A computation in a new scope.** The scope is closed when it succeeds. -/
theorem withChild {changes : Overrides} {act : ScopeId → Check α} (h : Mirrors s id env)
    (hact : ∀ scope : Scope, scope.parent = some id →
      scope.frame = .empty (changes.ambient env.ambient) →
      s.arena.child id changes = .ok (s.arena.push scope, s.arena.size) →
      Yields (act s.arena.size) (s.push scope) fun a t =>
        Q a { t with arena := t.arena.leave s.arena.size }) :
    Yields (Check.withChild id changes act) s Q := by
  rw [Check.withChild]
  refine .openScope h fun scope hparent hframe hchild => ?_
  exact .bind (hact scope hparent hframe hchild) fun a t ha => .closeScope (.pure ha)

end Yields

end Check

end Shipshape
