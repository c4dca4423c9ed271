import Shipshape.Proofs.Frame.Effect
import Shipshape.Proofs.Nesting.Limit

/-!
# Numbers of scopes stay in bounds

* `Shipshape.Arena.Reached` – the arenas that come about from the initial one by opening,
  closing and declaring, and by checks that may succeed or fail;
* `Shipshape.Arena.Consults` – the scopes that a look-up comes to;
* `Shipshape.Arena.Retains` – from one arena to another, no scope is lost and every name
  stands for what it stood for;
* `Shipshape.Arena.Reached.in_bounds` – a scope of such an arena never leads to a number
  that no scope has.

A number may outlive its scope and come to stand for another one, so what a number stands
for is not kept. What is kept is that numbers lead outwards
(`Shipshape.Arena.WellFormed`) and that the outermost scope has the built-in types: the
first is what every step needs, and closing a scope cannot break it because the scopes
that are left are the first ones.
-/

namespace Shipshape

open Check (Ends)

namespace Arena

variable {a b c : Arena} {id : ScopeId}

/-! ### Retaining names -/

/-- **Nothing is lost** from one arena to another: there are at least as many scopes, their
numbers lead outwards, and a name that a scope declares stands for the same entity. -/
structure Retains (a b : Arena) : Prop where
  /-- No scope is lost. -/
  size_le : a.size ≤ b.size
  /-- The numbers of all scopes lead outwards. -/
  wellFormed : b.WellFormed
  /-- No name of a scope is lost, or declared again. -/
  lookup : ∀ (i : Nat) (s : Scope), a.scopes[i]? = some s → ∃ t : Scope, b.scopes[i]? = some t ∧
    ∀ name entity, s.lookup name = some entity → t.lookup name = some entity

namespace Retains

theorem refl (h : a.WellFormed) : a.Retains a :=
  ⟨Nat.le_refl _, h, fun _ s hs => ⟨s, hs, fun _ _ hl => hl⟩⟩

theorem trans (h : a.Retains b) (h' : b.Retains c) : a.Retains c := by
  refine ⟨Nat.le_trans h.size_le h'.size_le, h'.wellFormed, fun i s hs => ?_⟩
  obtain ⟨t, ht, hst⟩ := h.lookup i s hs
  obtain ⟨u, hu, htu⟩ := h'.lookup i t ht
  exact ⟨u, hu, fun name entity hl => htu name entity (hst name entity hl)⟩

theorem live (h : a.Retains b) (hid : a.Live id) : b.Live id :=
  ⟨h.wellFormed, Nat.lt_of_lt_of_le hid.lt_size h.size_le⟩

end Retains

/-- More names in a scope, all of them free before, hide nothing. -/
theorem lookup_extend_of_free {s : Scope} {names : List (String × Entity)}
    (hnames : ∀ p ∈ names, s.lookup p.1 = none) {name : String} {entity : Entity}
    (hl : s.lookup name = some entity) : (s.extend names).lookup name = some entity := by
  have hnone : names.lookup name = none := by
    refine List.lookup_eq_none_iff.mpr fun p hp => ?_
    rw [bne_iff_ne]
    rintro rfl
    rw [hnames p hp] at hl
    cases hl
  rw [Scope.lookup, Scope.extend, List.lookup_append, hnone, Option.none_or]
  exact hl

/-- **Growth by names that were free** loses nothing. -/
theorem Grows.retains {names : List (String × Entity)} (h : a.Grows id names b)
    (hnames : ∀ p ∈ names, a.Free id p.1) : a.Retains b := by
  refine ⟨h.size_le, h.wellFormed, fun i s hs => ?_⟩
  have hi : i < a.size := (List.getElem?_eq_some_iff.mp hs).1
  by_cases heq : i = id
  · subst heq
    refine ⟨s.extend names, (h.scopes i hi).trans (getElem?_extend_self hs names), ?_⟩
    exact fun name entity hl => lookup_extend_of_free (fun p hp => hnames p hp s hs) hl
  · refine ⟨s, ?_, fun _ _ hl => hl⟩
    rw [h.scopes i hi, getElem?_extend_of_ne a names heq, hs]

theorem Grows.retains_of_nil (h : a.Grows id [] b) : a.Retains b :=
  h.retains fun _ hp => nomatch hp

theorem Grows.retains_of_free {name : String} {entity : Entity}
    (h : a.Grows id [(name, entity)] b) (hfree : a.Free id name) : a.Retains b :=
  h.retains (List.forall_mem_singleton.mpr hfree)

end Arena

/-! ### Checks -/

variable {s t : State} {id : ScopeId}

/-- **A statement loses nothing**, whether it succeeds or fails. -/
theorem checkStmt_retains (x : Stmt) (h : s.arena.Live id) :
    Ends (checkStmt id x) s (fun _ b _ => s.arena.Retains b) (fun _ b _ => s.arena.Retains b) := by
  refine ⟨fun y t hrun => ?_, fun failure t hrun => ?_⟩
  · obtain ⟨hbinds, -⟩ := (checkStmt_ends x h).ok y t hrun
    rw [Stmt.Binds] at hbinds
    split at hbinds
    · rw [hbinds]
      exact .refl h.wellFormed
    · obtain ⟨entity, -, hfree, hextend⟩ := hbinds
      rw [hextend]
      exact (Arena.Grows.extend h.wellFormed id _).retains_of_free hfree
  · obtain ⟨names, hnames, hleaves⟩ := (checkStmt_ends x h).error failure t hrun
    rcases hnames with rfl | ⟨decl, rfl⟩
    · exact hleaves.scopes.retains_of_nil
    · rcases checkStmt_function_error h hrun with ⟨hgrows, -⟩ |
        ⟨entity, -, -, -, -, -, -, hfree, hgrows⟩
      · exact hgrows.retains_of_nil
      · exact hgrows.retains_of_free hfree

/-- So do statements in a row. -/
theorem checkStmts_retains (xs : List Stmt) (h : s.arena.Live id) :
    Ends (checkStmts id xs) s (fun _ b _ => s.arena.Retains b)
      (fun _ b _ => s.arena.Retains b) := by
  induction xs generalizing s with
  | nil =>
    rw [checkStmts]
    exact .pure (.refl h.wellFormed)
  | cons x xs ih =>
    rw [checkStmts]
    refine .bind (checkStmt_retains x h) fun y t hfirst => ?_
    have hrest := (ih (hfirst.live h)).mono (fun _ _ _ hb => hfirst.trans hb)
      fun _ _ _ hb => hfirst.trans hb
    exact .bind hrest fun ys u hboth => .pure hboth

namespace Call

/-- The scope that a call is made in. -/
def scope : Call → ScopeId
  | .stmt id _ | .expr id _ | .block id _ => id

/-- **A call loses nothing**, whatever its answer. -/
theorem after_retains (c : Call) (h : s.arena.Live c.scope) :
    s.arena.Retains (Check.after c.run s).arena := by
  cases c with
  | stmt id x => exact (checkStmt_retains x h).after
  | expr id e =>
    obtain ⟨env, henv⟩ := h.exists_mirrors
    have hreads : checkExpr id e s = Check.ofRule (Lexical.expr env s.classes e) s :=
      checkExpr_reads e henv
    have hafter : Check.after (checkExpr id e) s = s := by
      rw [Check.after, hreads]
      cases Lexical.expr env s.classes e <;> rfl
    rw [Call.run, hafter]
    exact .refl h.wellFormed
  | block id b =>
    obtain ⟨xs, span⟩ := b
    refine Ends.after (P := fun b _ => s.arena.Retains b) ?_
    rw [Call.run, checkBlock]
    exact .bind (checkStmts_retains xs h) fun ys t ht => .pure ht

/-- **A call in a scope that is alive fails with a diagnostic or not at all.** -/
theorem run_eq_error (c : Call) (h : s.arena.Live c.scope) {failure : Failure}
    (hrun : c.run s = .error failure t) : ∃ d, failure = .refused d := by
  obtain ⟨env, henv⟩ := h.exists_mirrors
  cases c with
  | stmt id x =>
    rcases (checkStmt_agree x henv).cases with ⟨_, _, _, _, hok, -⟩ | ⟨d, _, _, herror, -⟩
    · cases hok.symm.trans hrun
    · cases herror.symm.trans hrun
      exact ⟨d, rfl⟩
  | expr id e =>
    have hreads : checkExpr id e s = Check.ofRule (Lexical.expr env s.classes e) s :=
      checkExpr_reads e henv
    rw [Call.run, hreads] at hrun
    cases hresult : Lexical.expr env s.classes e with
    | ok y =>
      rw [hresult] at hrun
      cases hrun
    | error d =>
      rw [hresult] at hrun
      cases hrun
      exact ⟨d, rfl⟩
  | block id b =>
    obtain ⟨xs, span⟩ := b
    rw [Call.run, checkBlock] at hrun
    rcases Check.bind_eq_error hrun with hrun | ⟨_, _, -, hpure⟩
    · rcases (checkStmts_agree (fun x _ => checkStmt_agree x) henv).cases with
        ⟨_, _, _, _, hok, -⟩ | ⟨d, _, _, herror, -⟩
      · cases hok.symm.trans hrun
      · cases herror.symm.trans hrun
        exact ⟨d, rfl⟩
    · cases hpure

end Call

/-! ### Arenas that come about -/

namespace Arena

variable {a b : Arena} {id : ScopeId}

/-- **An arena that comes about** from the initial one. Scopes are opened and names are
declared in scopes that are there, a scope may be closed by any number, and calls are made
in scopes that are there, by a checker that may know any classes and stand at any depth.
A call counts whatever its answer. -/
inductive Reached : Arena → Prop
  /-- The outermost scope alone. -/
  | initial : Reached .initial
  /-- A scope is opened. -/
  | child {a b : Arena} {id new : ScopeId} {changes : Overrides} : Reached a → id < a.size →
      a.child id changes = .ok (b, new) → Reached b
  /-- A name is declared. -/
  | declare {a b : Arena} {id : ScopeId} {name : String} {entity : Entity} {span : Span} :
      Reached a → id < a.size → a.declare id name entity span = .ok b → Reached b
  /-- Scopes are closed. -/
  | leave {a : Arena} (id : ScopeId) : Reached a → Reached (a.leave id)
  /-- A statement, an expression or a block is checked. -/
  | call {s : State} (c : Call) : Reached s.arena → c.scope < s.arena.size →
      Reached (Check.after c.run s).arena

/-- What is kept: numbers lead outwards, and the outermost scope has the built-in
types. -/
structure Founded (a : Arena) : Prop where
  /-- Numbers lead outwards. -/
  wellFormed : a.WellFormed
  /-- The outermost scope has the built-in types. -/
  builtIns : ∃ s, a.scopes[root]? = some s ∧ ∀ p ∈ builtInEntities, s.lookup p.1 = some p.2

theorem founded_initial : initial.Founded := by
  refine ⟨wellFormed_initial, .root, rfl, ?_⟩
  simp [builtInEntities, Scalar.builtIns, Scope.root, Scope.lookup, Scalar.name, List.lookup_cons]

theorem Retains.founded (h : a.Retains b) (ha : a.Founded) : b.Founded := by
  obtain ⟨s, hs, hnames⟩ := ha.builtIns
  obtain ⟨t, ht, hst⟩ := h.lookup root s hs
  exact ⟨h.wellFormed, t, ht, fun p hp => hst _ _ (hnames p hp)⟩

/-- Closing a scope, or what once had its number, keeps the first scopes and at least the
outermost one. -/
theorem Founded.leave (h : a.Founded) (id : ScopeId) : (a.leave id).Founded := by
  rw [Arena.leave]
  split
  · exact h
  · next hid =>
    have hpos : root < id := Nat.pos_of_ne_zero hid
    have htake (i : Nat) (s : Scope) : (a.scopes.take id)[i]? = some s → a.scopes[i]? = some s := by
      intro hs
      rw [List.getElem?_take] at hs
      split at hs
      · exact hs
      · cases hs
    have hroot : (a.scopes.take id)[root]? = a.scopes[root]? := List.getElem?_take_of_lt hpos
    obtain ⟨r, hr, hparent⟩ := h.wellFormed.root
    obtain ⟨s, hs, hnames⟩ := h.builtIns
    refine ⟨⟨⟨r, hroot.trans hr, hparent⟩, fun i t ht hi => ?_⟩, s, hroot.trans hs, hnames⟩
    exact h.wellFormed.parent i t (htake i t ht) hi

theorem Live.child_retains (h : a.Live id) {changes : Overrides} {new : ScopeId}
    (hchild : a.child id changes = .ok (b, new)) : a.Retains b := by
  obtain ⟨s, hparent, -, heq⟩ := h.child_eq changes
  obtain ⟨rfl, -⟩ := Prod.mk.inj (Except.ok.inj (heq.symm.trans hchild))
  have hgrows : (a.push s).Grows a.size [] (a.push s) := .refl (h.push hparent).wellFormed a.size
  exact (hgrows.of_push id).retains_of_nil

theorem Live.declare_retains (h : a.Live id) {name : String} {entity : Entity} {span : Span}
    (hdeclare : a.declare id name entity span = .ok b) : a.Retains b := by
  obtain ⟨hfree, rfl⟩ := h.of_declare hdeclare
  exact (Grows.extend h.wellFormed id _).retains_of_free hfree

/-- **Every arena that comes about is founded.** -/
theorem Reached.founded (h : a.Reached) : a.Founded := by
  induction h with
  | initial => exact founded_initial
  | child _ hid hchild ih =>
    exact (Live.child_retains ⟨ih.wellFormed, hid⟩ hchild).founded ih
  | declare _ hid hdeclare ih =>
    exact (Live.declare_retains ⟨ih.wellFormed, hid⟩ hdeclare).founded ih
  | leave id _ ih => exact ih.leave id
  | call c _ hid ih => exact (c.after_retains ⟨ih.wellFormed, hid⟩).founded ih

/-! ### Look-ups -/

/-- **A look-up of a name from one scope comes to another**: it goes outwards from scopes
that do not declare the name. -/
inductive Consults (a : Arena) (name : String) : ScopeId → ScopeId → Prop
  /-- The scope it starts from. -/
  | here (id : ScopeId) : Consults a name id id
  /-- What it comes to from the scope around. -/
  | outside {id parent i : ScopeId} {s : Scope} : a.scopes[id]? = some s → s.lookup name = none →
      s.parent = some parent → Consults a name parent i → Consults a name id i

/-- A look-up goes towards smaller numbers. -/
theorem WellFormed.consults_le (h : a.WellFormed) {name : String} {i : ScopeId}
    (hi : a.Consults name id i) : i ≤ id := by
  induction hi with
  | here => exact Nat.le_refl _
  | @outside id parent i s hs _ hp _ ih =>
    by_cases hroot : id = Arena.root
    · obtain ⟨r, hr, hnone⟩ := h.root
      subst hroot
      obtain rfl := Option.some.inj (hs.symm.trans hr)
      cases hp.symm.trans hnone
    · obtain ⟨p, hparent, hlt⟩ := h.parent id s hs hroot
      obtain rfl := Option.some.inj (hp.symm.trans hparent)
      exact Nat.le_trans ih (Nat.le_of_lt hlt)

/-- **A look-up ends**, after no more steps than the number it starts from allows. -/
theorem Live.exists_findFrom (h : a.Live id) (name : String) :
    ∃ found, ∀ steps, id < steps → a.findFrom name steps id = .ok found := by
  obtain ⟨frame, frames, hsees⟩ := h.wellFormed.exists_sees h.lt_size
  exact ⟨_, fun steps hlt => hsees.findFrom name hlt⟩

theorem Live.resolve_cases (h : a.Live id) (name : String) (span : Span) :
    (∃ entity, a.resolve id name span = .ok entity) ∨
      a.resolve id name span = .error (.refused (.located (.undeclaredIdentifier name) span)) := by
  obtain ⟨found, hfound⟩ := h.exists_findFrom name
  have hfind : a.find id name = .ok found := hfound a.size h.lt_size
  rw [resolve, hfind]
  cases found with
  | some entity => exact .inl ⟨entity, rfl⟩
  | none => exact .inr rfl

/-- A declaration in a scope that is there succeeds, or the name is taken. -/
theorem Live.declare_cases (h : a.Live id) (name : String) (entity : Entity) (span : Span) :
    (∃ b, a.declare id name entity span = .ok b) ∨ a.declare id name entity span =
      .error (.refused (.located (.duplicateDeclaration name) span)) := by
  rw [declare, get, List.getElem?_eq_getElem h.lt_size]
  simp only
  split
  · exact .inr rfl
  · exact .inl ⟨_, rfl⟩

end Arena

/-- A program fails with a diagnostic or not at all. -/
theorem checkProgram_eq_error {limit : Nat} {p : Program} {failure : Failure}
    (h : checkProgram limit p = .error failure) : ∃ d, failure = .refused d := by
  rw [checkProgram] at h
  rcases (checkStmts_initial_agree limit p.body).cases with
    ⟨_, _, _, _, hok, -⟩ | ⟨d, _, _, herror, -⟩
  · rw [hok] at h
    cases h
  · rw [herror] at h
    cases h
    exact ⟨d, rfl⟩

/-! ### In bounds -/

/-- **No number of a scope leads out of bounds**, in any arena that comes about. There is
at least the outermost scope; it has no parent, and each built-in name stands for its own
type there. The parent of every other scope has a smaller number. So a look-up from a scope
that is there comes to scopes that are there, and ends, and no operation and no call in such
a scope fails but with a diagnostic. In particular no program makes the check look for a
scope that is not there, under any limit. -/
theorem Arena.Reached.in_bounds {a : Arena} (h : a.Reached) :
    0 < a.size ∧
    (∃ s, a.scopes[Arena.root]? = some s ∧ s.parent = none ∧
      ∀ p ∈ builtInEntities, s.lookup p.1 = some p.2) ∧
    (∀ i s, a.scopes[i]? = some s → i ≠ Arena.root → ∃ parent, s.parent = some parent ∧
      parent < i) ∧
    (∀ id < a.size,
      (∀ name, (∀ i, a.Consults name id i → i < a.size) ∧
        ∃ found, ∀ steps, id < steps → a.findFrom name steps id = .ok found) ∧
      (∀ name span, (∃ entity, a.resolve id name span = .ok entity) ∨
        a.resolve id name span =
          .error (.refused (.located (.undeclaredIdentifier name) span))) ∧
      (∀ changes, ∃ b, a.child id changes = .ok (b, a.size)) ∧
      (∀ name entity span, (∃ b, a.declare id name entity span = .ok b) ∨
        a.declare id name entity span =
          .error (.refused (.located (.duplicateDeclaration name) span))) ∧
      ∀ (c : Call) (s : State), c.scope = id → s.arena = a → ∀ failure t,
        c.run s = .error failure t → ∃ d, failure = .refused d) ∧
    ∀ limit p failure, checkProgram limit p = .error failure → ∃ d, failure = .refused d := by
  obtain ⟨hwell, hbuiltIns⟩ := h.founded
  obtain ⟨r, hr, hparent⟩ := hwell.root
  obtain ⟨s, hs, hnames⟩ := hbuiltIns
  obtain rfl := Option.some.inj (hr.symm.trans hs)
  refine ⟨hwell.size_pos, ⟨r, hr, hparent, hnames⟩, hwell.parent, fun id hid => ?_,
    fun limit p failure => checkProgram_eq_error⟩
  have hlive : a.Live id := ⟨hwell, hid⟩
  refine ⟨fun name => ⟨fun i hi => ?_, hlive.exists_findFrom name⟩, hlive.resolve_cases,
    fun changes => ?_, hlive.declare_cases, ?_⟩
  · exact Nat.lt_of_le_of_lt (hwell.consults_le hi) hid
  · obtain ⟨scope, -, -, hchild⟩ := hlive.child_eq changes
    exact ⟨_, hchild⟩
  · rintro c s rfl rfl failure t hrun
    exact c.run_eq_error hlive hrun

/-- A scope in a class, as the only one inside the outermost. -/
def moored : State :=
  { harbour with arena := Arena.initial.push (Scope.root.child 0 { cls := some ⟨0, "Ship"⟩ }) }

/-- The scopes after a function failed in its body there, and a scope was closed by a number
that none has. -/
def adrift : Arena :=
  (Check.after (Call.stmt 1 (loading (.symbol "rum" .null))).run moored).arena.leave 9

/-- From the scope that the failed function has left behind, every look-up ends. -/
theorem adrift_in_bounds : adrift.Reached ∧ 2 < adrift.size ∧
    (∃ s, adrift.scopes[Arena.root]? = some s ∧ s.parent = none ∧
      ∀ p ∈ builtInEntities, s.lookup p.1 = some p.2) ∧
    ∀ name, (∀ i, adrift.Consults name 2 i → i < adrift.size) ∧
      ∃ found, ∀ steps, 2 < steps → adrift.findFrom name steps 2 = .ok found := by
  have hchild : Arena.initial.child 0 { cls := some ⟨0, "Ship"⟩ } = .ok (moored.arena, 1) := rfl
  have hmoored : moored.arena.Reached := .child .initial (by decide) hchild
  have hreached : adrift.Reached := .leave 9 (.call _ hmoored (by decide))
  have hsize : 2 < adrift.size := by decide +kernel
  obtain ⟨-, hroot, -, hscopes, -⟩ := hreached.in_bounds
  exact ⟨hreached, hsize, hroot, (hscopes 2 hsize).1⟩

end Shipshape
