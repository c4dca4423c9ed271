import Shipshape.Check.Monad
import Shipshape.Proofs.Tree.Site

/-!
# Computations that nest like a tree

The depth of a state is touched in one place only, where a check goes one level
deeper for a node and comes back up. What a check does is put together from that and
from operations that neither look at the depth nor change it.

* `Shipshape.Check.Blind` – an operation that does not depend on the depth and the
  limit, leaves both as they are, and never fails for nesting;
* `Shipshape.Check.Nests` – a computation is put together from such operations, by
  sequencing and by going one level deeper, and goes deeper for the given nodes;
* `Shipshape.Check.Visits` – a state comes up while such a computation runs.

What can be said about the limit is said once, of every computation that nests
(`Shipshape.Check.Nests.verdict`): under a larger limit it does the same, unless one of
its nodes lies one level too deep, and then that is what it reports. The depth is back
at its old value afterwards, whether the computation succeeds or fails, and never
passes the limit on the way (`Shipshape.Check.Visits.depth_le`).
-/

namespace Shipshape

/-! ### Failures for nesting -/

/-- A check fails because the program nests too deep. -/
def Failure.IsNesting : Failure → Prop
  | .refused diagnostic => ∃ limit, diagnostic.cause = .nestingTooDeep limit
  | .missingScope _ _ => False

/-- A rule, if it fails, does so for a reason other than nesting. -/
def Rule.Calm {α : Type} (result : Except Diagnostic α) : Prop :=
  ∀ d, result = .error d → ¬(Failure.refused d).IsNesting

/-- The failure at a node that lies too deep. -/
def Failure.tooDeep (limit : Nat) (span : Span) : Failure :=
  .refused (.located (.nestingTooDeep limit) span)

/-- The state at another depth and under another limit. -/
def State.placed (s : State) (depth limit : Nat) : State := { s with depth, limit }

namespace Check

variable {α β : Type}

/-- The result with its state changed, be it a success or a failure. -/
def onState (g : State → State) :
    EStateM.Result Failure State α → EStateM.Result Failure State α
  | .ok a t => .ok a (g t)
  | .error failure t => .error failure (g t)

/-- The state in which a computation ends, whether it succeeds or fails. -/
def after (m : Check α) (s : State) : State :=
  match m s with
  | .ok _ t => t
  | .error _ t => t

/-! ### Operations that do not look at the depth -/

/-- **An operation that does not look at the depth**: from a state at another depth or
under another limit it does the same, and it does not fail for nesting. -/
structure Blind (m : Check α) : Prop where
  /-- The depth and the limit make no difference. -/
  place : ∀ s depth limit, m (s.placed depth limit) = onState (·.placed depth limit) (m s)
  /-- A failure has another reason. -/
  calm : ∀ s failure t, m s = .error failure t → ¬failure.IsNesting

namespace Blind

theorem pure (a : α) : Blind (pure a) :=
  ⟨fun _ _ _ => rfl, fun _ _ _ h => nomatch h⟩

theorem refuse {cause : Cause} (h : ∀ limit, cause ≠ .nestingTooDeep limit) (span : Span) :
    Blind (refuse cause span : Check α) := by
  refine ⟨fun _ _ _ => rfl, ?_⟩
  rintro s _ _ ⟨⟩ ⟨limit, hlimit⟩
  exact h limit hlimit

theorem ofRule {result : Except Diagnostic α} (h : Rule.Calm result) : Blind (ofRule result) := by
  cases result with
  | ok a => exact pure a
  | error d =>
    refine ⟨fun _ _ _ => rfl, ?_⟩
    rintro s _ _ ⟨⟩
    exact h d rfl

theorem require {value : Option α} {cause : Cause} (h : ∀ limit, cause ≠ .nestingTooDeep limit)
    (span : Span) : Blind (require value cause span) := by
  cases value with
  | some a => exact pure a
  | none => exact refuse h span

/-- What asks the arena something, and at most replaces it then. -/
theorem of_arena {γ δ : Type} {m : Check δ} (ask : Arena → Except Failure γ)
    (arena : Arena → γ → Arena) (value : γ → δ)
    (hok : ∀ s c, ask s.arena = .ok c → m s = .ok (value c) { s with arena := arena s.arena c })
    (herror : ∀ s failure, ask s.arena = .error failure → m s = .error failure s)
    (hcalm : ∀ a failure, ask a = .error failure → ¬failure.IsNesting) : Blind m := by
  constructor
  · intro s depth limit
    cases hask : ask s.arena with
    | ok c =>
      rw [hok s c hask, hok (s.placed depth limit) c hask]
      rfl
    | error failure =>
      rw [herror s failure hask, herror (s.placed depth limit) failure hask]
      rfl
  · intro s failure t hm
    cases hask : ask s.arena with
    | ok c =>
      rw [hok s c hask] at hm
      cases hm
    | error e =>
      rw [herror s e hask] at hm
      cases hm
      exact hcalm _ _ hask

/-- What tries to change the classes and says whether it did. -/
theorem of_classes {m : Check Bool} (change : ClassTable → Option ClassTable)
    (hsome : ∀ s c, change s.classes = some c → m s = .ok true { s with classes := c })
    (hnone : ∀ s, change s.classes = none → m s = .ok false s) : Blind m := by
  constructor
  · intro s depth limit
    cases hchange : change s.classes with
    | some c =>
      rw [hsome s c hchange, hsome (s.placed depth limit) c hchange]
      rfl
    | none =>
      rw [hnone s hchange, hnone (s.placed depth limit) hchange]
      rfl
  · intro s failure t hm
    cases hchange : change s.classes with
    | some c =>
      rw [hsome s c hchange] at hm
      cases hm
    | none =>
      rw [hnone s hchange] at hm
      cases hm

end Blind

end Check

/-! ### The operations on scopes and classes -/

namespace Arena

variable {a : Arena} {id : ScopeId} {failure : Failure}

theorem get_calm (h : a.get id = .error failure) : ¬failure.IsNesting := by
  rw [get] at h
  split at h
  · cases h
  · cases h
    exact fun hn => hn

theorem findFrom_calm {name : String} {steps : Nat}
    (h : a.findFrom name steps id = .error failure) : ¬failure.IsNesting := by
  induction steps generalizing id with
  | zero =>
    cases h
    exact fun hn => hn
  | succ steps ih =>
    rw [findFrom] at h
    split at h
    · next hget =>
      cases h
      exact get_calm hget
    · split at h
      · cases h
      · split at h
        · exact ih h
        · cases h

theorem resolve_calm {name : String} {span : Span} (h : a.resolve id name span = .error failure) :
    ¬failure.IsNesting := by
  rw [resolve] at h
  split at h
  · next hfind =>
    cases h
    exact findFrom_calm hfind
  · cases h
  · cases h
    rintro ⟨limit, ⟨⟩⟩

theorem declare_calm {name : String} {entity : Entity} {span : Span}
    (h : a.declare id name entity span = .error failure) : ¬failure.IsNesting := by
  rw [declare] at h
  split at h
  · next hget =>
    cases h
    exact get_calm hget
  · split at h
    · cases h
      rintro ⟨limit, ⟨⟩⟩
    · cases h

theorem child_calm {changes : Overrides} (h : a.child id changes = .error failure) :
    ¬failure.IsNesting := by
  rw [child] at h
  split at h
  · next hget =>
    cases h
    exact get_calm hget
  · cases h

end Arena

namespace Check

variable {α β : Type}

namespace Blind

theorem scope (id : ScopeId) : Blind (scope id) := by
  refine of_arena (·.get id) (fun a _ => a) (fun c => c) (fun s c h => ?_) (fun s e h => ?_)
    fun _ _ => Arena.get_calm
  · rw [Check.scope, h]
  · rw [Check.scope, h]

theorem resolve (id : ScopeId) (name : String) (span : Span) : Blind (resolve id name span) := by
  refine of_arena (·.resolve id name span) (fun a _ => a) (fun c => c) (fun s c h => ?_)
    (fun s e h => ?_) fun _ _ => Arena.resolve_calm
  · rw [Check.resolve, h]
  · rw [Check.resolve, h]

theorem declare (id : ScopeId) (name : String) (entity : Entity) (span : Span) :
    Blind (declare id name entity span) := by
  refine of_arena (·.declare id name entity span) (fun _ c => c) (fun _ => ()) (fun s c h => ?_)
    (fun s e h => ?_) fun _ _ => Arena.declare_calm
  · rw [Check.declare, h]
  · rw [Check.declare, h]

theorem openScope (id : ScopeId) (changes : Overrides) : Blind (openScope id changes) := by
  refine of_arena (·.child id changes) (fun _ c => c.1) Prod.snd (fun s c h => ?_)
    (fun s e h => ?_) fun _ _ => Arena.child_calm
  · rw [Check.openScope, h]
  · rw [Check.openScope, h]

theorem closeScope (id : ScopeId) : Blind (closeScope id) :=
  ⟨fun _ _ _ => rfl, fun _ _ _ h => nomatch h⟩

theorem newEntity (binding : Binding) : Blind (newEntity binding) :=
  ⟨fun _ _ _ => rfl, fun _ _ _ h => nomatch h⟩

theorem newClass (name : String) : Blind (newClass name) :=
  ⟨fun _ _ _ => rfl, fun _ _ _ h => nomatch h⟩

theorem classInfo (cls : ClassRef) : Blind (classInfo cls) :=
  ⟨fun _ _ _ => rfl, fun _ _ _ h => nomatch h⟩

theorem setCtor (cls : ClassRef) (signature : Signature) : Blind (setCtor cls signature) :=
  ⟨fun _ _ _ => rfl, fun _ _ _ h => nomatch h⟩

theorem addField (cls : ClassRef) (name : String) (ty : Ty) : Blind (addField cls name ty) := by
  refine of_classes (·.addField? cls name ty) (fun s c h => ?_) fun s h => ?_
  · rw [Check.addField, h]
  · rw [Check.addField, h]

theorem addMethod (cls : ClassRef) (name : String) (signature : Signature) :
    Blind (addMethod cls name signature) := by
  refine of_classes (·.addMethod? cls name signature) (fun s c h => ?_) fun s h => ?_
  · rw [Check.addMethod, h]
  · rw [Check.addMethod, h]

/-- Such an operation leaves the depth and the limit as they are. -/
theorem after_placed {m : Check α} (h : Blind m) (s : State) :
    (after m s).depth = s.depth ∧ (after m s).limit = s.limit := by
  have hplace : m s = onState (·.placed s.depth s.limit) (m s) := h.place s s.depth s.limit
  rw [after]
  cases hm : m s with
  | ok a t =>
    rw [hm] at hplace
    injection hplace with _ ht
    rw [ht]
    exact ⟨rfl, rfl⟩
  | error failure t =>
    rw [hm] at hplace
    injection hplace with _ ht
    rw [ht]
    exact ⟨rfl, rfl⟩

end Blind

/-! ### Computations that nest -/

/-- **A computation that nests**: it is put together from operations that do not look
at the depth, by sequencing and by going one level deeper. The nodes for which it goes
deeper are among those given, each with how much deeper it is then; if it succeeds, it
has been at all of them. -/
inductive Nests : {α : Type} → List Site → Check α → Prop
  /-- An operation that does not look at the depth. -/
  | op {α : Type} {m : Check α} : Blind m → Nests [] m
  /-- One computation after another. -/
  | bind {α β : Type} {sites more : List Site} {m : Check α} {f : α → Check β} :
      Nests sites m → (∀ a, Nests more (f a)) → Nests (sites ++ more) (m >>= f)
  /-- A computation one level deeper, for the node at `span`. -/
  | nested {α : Type} {sites : List Site} {m : Check α} (span : Span) :
      Nests sites m → Nests (Site.under span sites) (nested span m)

/-- **What a limit does to a computation with the given nodes.** The first result is
that under the limit of the state `s`, the second that under the limit `limit`. -/
inductive Verdict {α : Type} (sites : List Site) (s : State) (limit : Nat) :
    EStateM.Result Failure State α → EStateM.Result Failure State α → Prop
  /-- Both succeed, and no node lies too deep. -/
  | ok {a : α} {t : State} : t.depth = s.depth → t.limit = s.limit →
      (∀ n ∈ sites, s.depth + n.depth ≤ s.limit) →
      Verdict sites s limit (.ok a t) (.ok a (t.placed s.depth limit))
  /-- Both fail for the same reason, which is not nesting. -/
  | error {failure : Failure} {t : State} : t.depth = s.depth → t.limit = s.limit →
      ¬failure.IsNesting →
      Verdict sites s limit (.error failure t) (.error failure (t.placed s.depth limit))
  /-- The first fails at a node that lies one level too deep. -/
  | deep {n : Site} {t : State} {other : EStateM.Result Failure State α} :
      t.depth = s.depth → t.limit = s.limit → n ∈ sites → s.depth + n.depth = s.limit + 1 →
      Verdict sites s limit (.error (.tooDeep s.limit n.span) t) other

namespace Verdict

variable {sites more : List Site} {s t : State} {limit : Nat}
  {x y : EStateM.Result Failure State α}

/-- The three verdicts. -/
theorem cases (h : Verdict sites s limit x y) :
    (∃ a t, x = .ok a t ∧ y = .ok a (t.placed s.depth limit) ∧ t.depth = s.depth ∧
      t.limit = s.limit ∧ ∀ n ∈ sites, s.depth + n.depth ≤ s.limit) ∨
    (∃ failure t, x = .error failure t ∧ y = .error failure (t.placed s.depth limit) ∧
      t.depth = s.depth ∧ t.limit = s.limit ∧ ¬failure.IsNesting) ∨
    ∃ n t, x = .error (.tooDeep s.limit n.span) t ∧ t.depth = s.depth ∧ t.limit = s.limit ∧
      n ∈ sites ∧ s.depth + n.depth = s.limit + 1 := by
  cases h with
  | ok hdepth hsame hfit => exact .inl ⟨_, _, rfl, rfl, hdepth, hsame, hfit⟩
  | error hdepth hsame hcalm => exact .inr (.inl ⟨_, _, rfl, rfl, hdepth, hsame, hcalm⟩)
  | deep hdepth hsame hn hdeep => exact .inr (.inr ⟨_, _, rfl, hdepth, hsame, hn, hdeep⟩)

/-- The verdict on what comes after a computation that fits the limit. -/
theorem after (h : Verdict more t limit x y) (hdepth : t.depth = s.depth)
    (hsame : t.limit = s.limit) (hfit : ∀ n ∈ sites, s.depth + n.depth ≤ s.limit) :
    Verdict (sites ++ more) s limit x y := by
  rcases h.cases with ⟨a, u, rfl, rfl, hd, hl, hmore⟩ | ⟨failure, u, rfl, rfl, hd, hl, hcalm⟩ |
    ⟨n, u, rfl, hd, hl, hn, hdeep⟩
  · rw [hdepth, hsame] at *
    exact .ok hd hl (List.forall_mem_append.mpr ⟨hfit, hmore⟩)
  · rw [hdepth, hsame] at *
    exact .error hd hl hcalm
  · rw [hdepth, hsame] at *
    exact .deep hd hl (List.mem_append_right _ hn) hdeep

/-- The verdict on a computation one level deeper. -/
theorem nested {m : Check α} (hlt : s.depth < s.limit) (span : Span)
    (h : Verdict sites (s.placed (s.depth + 1) s.limit) limit (m { s with depth := s.depth + 1 })
      (m { s.placed s.depth limit with depth := s.depth + 1 })) :
    Verdict (Site.under span sites) s limit
      (match m { s with depth := s.depth + 1 } with
        | .ok a t => .ok a { t with depth := t.depth - 1 }
        | .error failure t => .error failure { t with depth := t.depth - 1 })
      (match m { s.placed s.depth limit with depth := s.depth + 1 } with
        | .ok a t => .ok a { t with depth := t.depth - 1 }
        | .error failure t => .error failure { t with depth := t.depth - 1 }) := by
  rcases h.cases with ⟨a, t, hx, hy, hdepth, hsame, hfit⟩ |
    ⟨failure, t, hx, hy, hdepth, hsame, hcalm⟩ | ⟨n, t, hx, hdepth, hsame, hn, hdeep⟩
  · rw [hx, hy]
    replace hdepth : t.depth = s.depth + 1 := hdepth
    refine .ok (by simp [hdepth]) hsame (List.forall_mem_cons.mpr ⟨hlt, ?_⟩)
    intro n hn
    obtain ⟨inner, hinner, rfl⟩ := List.mem_map.mp hn
    have hfit : s.depth + 1 + inner.depth ≤ s.limit := hfit inner hinner
    show s.depth + (inner.depth + 1) ≤ s.limit
    omega
  · rw [hx, hy]
    replace hdepth : t.depth = s.depth + 1 := hdepth
    exact .error (by simp [hdepth]) hsame hcalm
  · rw [hx]
    replace hdepth : t.depth = s.depth + 1 := hdepth
    have hdeep : s.depth + 1 + n.depth = s.limit + 1 := hdeep
    refine .deep (n := n.below) (by simp [hdepth]) hsame
      (List.mem_cons_of_mem _ (List.mem_map_of_mem hn)) ?_
    show s.depth + (n.depth + 1) = s.limit + 1
    omega

end Verdict

/-- **What a larger limit changes** about a computation that nests: nothing, unless one
of its nodes lies one level too deep. -/
theorem Nests.verdict {sites : List Site} {m : Check α} (h : Nests sites m) {s : State}
    {limit : Nat} (hs : s.depth ≤ s.limit) (hlimit : s.limit ≤ limit) :
    Verdict sites s limit (m s) (m (s.placed s.depth limit)) := by
  induction h generalizing s with
  | @op α m hblind =>
    obtain ⟨hdepth, hsame⟩ := hblind.after_placed s
    rw [hblind.place, after] at *
    cases hm : m s with
    | ok a t =>
      rw [hm] at hdepth hsame
      exact .ok hdepth hsame fun n hn => nomatch hn
    | error failure t =>
      rw [hm] at hdepth hsame
      exact .error hdepth hsame (hblind.calm s failure t hm)
  | @bind α β sites more m f _ _ ihm ihf =>
    simp only [Bind.bind, EStateM.bind]
    rcases (ihm hs hlimit).cases with ⟨a, t, hx, hy, hdepth, hsame, hfit⟩ |
      ⟨failure, t, hx, hy, hdepth, hsame, hcalm⟩ | ⟨n, t, hx, hdepth, hsame, hn, hdeep⟩
    · rw [hx, hy]
      have hf := ihf a (s := t) (by omega) (by omega)
      rw [hdepth] at hf
      exact hf.after hdepth hsame hfit
    · rw [hx, hy]
      exact .error hdepth hsame hcalm
    · rw [hx]
      exact .deep hdepth hsame (List.mem_append_left _ hn) hdeep
  | @nested α sites m span _ ih =>
    rw [Check.nested, Check.nested]
    by_cases hlt : s.depth < s.limit
    · have hlt' : (s.placed s.depth limit).depth < (s.placed s.depth limit).limit :=
        Nat.lt_of_lt_of_le hlt hlimit
      rw [if_pos hlt, if_pos hlt']
      exact (ih (s := s.placed (s.depth + 1) s.limit) hlt hlimit).nested hlt span
    · rw [if_neg hlt]
      have heq : s.depth = s.limit := by omega
      exact .deep (n := ⟨1, span⟩) rfl rfl List.mem_cons_self (by rw [heq])

theorem after_bind {m : Check α} {f : α → Check β} {s : State} :
    after (m >>= f) s =
      match m s with
      | .ok a t => after (f a) t
      | .error _ t => t := by
  simp only [after, Bind.bind, EStateM.bind]
  cases m s <;> rfl

/-- **The depth is back at its old value** after a computation that nests, whether it
succeeds or fails. -/
theorem Nests.after_placed {sites : List Site} {m : Check α} (h : Nests sites m) (s : State) :
    (after m s).depth = s.depth ∧ (after m s).limit = s.limit := by
  induction h generalizing s with
  | op hblind => exact hblind.after_placed s
  | @bind α β _ _ m f _ _ ihm ihf =>
    have hm := ihm s
    rw [after_bind]
    rw [after] at hm
    cases hrun : m s with
    | ok a t =>
      rw [hrun] at hm
      obtain ⟨hdepth, hlimit⟩ := ihf a t
      exact ⟨hdepth.trans hm.1, hlimit.trans hm.2⟩
    | error failure t =>
      rw [hrun] at hm
      exact hm
  | @nested α _ m span _ ih =>
    have hm := ih { s with depth := s.depth + 1 }
    rw [after] at hm
    rw [after, Check.nested]
    by_cases hlt : s.depth < s.limit
    · rw [if_pos hlt]
      cases hrun : m { s with depth := s.depth + 1 } with
      | ok a t =>
        rw [hrun] at hm
        exact ⟨Nat.sub_eq_of_eq_add hm.1, hm.2⟩
      | error failure t =>
        rw [hrun] at hm
        exact ⟨Nat.sub_eq_of_eq_add hm.1, hm.2⟩
    · rw [if_neg hlt]
      exact ⟨rfl, rfl⟩

/-! ### The states on the way -/

/-- **The state `u` comes up** while a computation runs from the state `s`: at its
start, at its end, or while a part of it runs. A part is a computation that nests, and
runs before or after another, or one level deeper. -/
inductive Visits : {α : Type} → Check α → State → State → Prop
  /-- The state at the start. -/
  | start {α : Type} {m : Check α} {s : State} : Visits m s s
  /-- The state at the end. -/
  | finish {α : Type} {m : Check α} {s : State} : Visits m s (after m s)
  /-- A state during the first of two computations. -/
  | first {α β : Type} {sites : List Site} {m : Check α} {f : α → Check β} {s u : State} :
      Nests sites m → Visits m s u → Visits (m >>= f) s u
  /-- A state during the second of two computations, when the first has succeeded. -/
  | second {α β : Type} {sites more : List Site} {m : Check α} {f : α → Check β} {a : α}
      {s t u : State} : Nests sites m → (∀ a, Nests more (f a)) → m s = .ok a t →
      Visits (f a) t u → Visits (m >>= f) s u
  /-- A state during a computation one level deeper. -/
  | inside {α : Type} {sites : List Site} {m : Check α} {span : Span} {s u : State} :
      Nests sites m → s.depth < s.limit → Visits m (s.placed (s.depth + 1) s.limit) u →
      Visits (nested span m) s u

/-- **The depth never passes the limit** while a computation that nests runs. -/
theorem Visits.depth_le {m : Check α} {s u : State} (h : Visits m s u) {sites : List Site}
    (hm : Nests sites m) (hs : s.depth ≤ s.limit) : u.depth ≤ s.limit ∧ u.limit = s.limit := by
  induction h generalizing sites with
  | start => exact ⟨hs, rfl⟩
  | @finish α m s =>
    obtain ⟨hdepth, hlimit⟩ := hm.after_placed s
    exact ⟨by omega, hlimit⟩
  | first hfirst _ ih => exact ih hfirst hs
  | @second α β _ _ m f a s t u hfirst hsecond hrun _ ih =>
    have hplaced := hfirst.after_placed s
    rw [after, hrun] at hplaced
    obtain ⟨hdepth, hlimit⟩ : t.depth = s.depth ∧ t.limit = s.limit := hplaced
    have hu := ih (hsecond a) (by omega)
    rw [hlimit] at hu
    exact hu
  | inside hinner hlt _ ih => exact ih hinner hlt

end Check

end Shipshape
