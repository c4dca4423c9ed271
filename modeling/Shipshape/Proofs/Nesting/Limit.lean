import Shipshape.Proofs.Nesting.Tree

/-!
# The nesting limit

* `Shipshape.checkProgram_limit_exact` – the limit is exact, and has no other effect.

A program that is no higher than the limit is answered as under any larger limit. A
higher one is never accepted: it is refused for what is wrong with it anyway, or else
for a node that lies one level too deep, whichever the check comes to first.

A checker may be kept for more than one tree. `Shipshape.Session.after` is the state of
one after any calls, in any order, on any scopes, with whatever answers; in between its
scopes may be changed by others. It stands at depth 0 again, so that the next call has
the whole limit to itself.
-/

namespace Shipshape

open Check (Nests Visits)

/-! ### Programs under two limits -/

/-- The check of the statements of a program nests like the program. -/
theorem Program.checks_nest (p : Program) : Nests p.sites (checkStmts Arena.root p.body) :=
  checkStmts_nests fun x _ => checkStmt_nests x

/-- What a larger limit changes about the answer for a program. -/
theorem checkProgram_verdict (p : Program) {n m : Nat} (h : n ≤ m) :
    (checkProgram n p = checkProgram m p ∧ (∀ t, checkProgram n p = .ok t → p.height ≤ n) ∧
      ∀ failure, checkProgram n p = .error failure → ¬failure.IsNesting) ∨
    ∃ node ∈ p.sites, node.depth = n + 1 ∧
      checkProgram n p = .error (.tooDeep n node.span) := by
  have hverdict : Check.Verdict p.sites (.initial n) m (checkStmts Arena.root p.body (.initial n))
      (checkStmts Arena.root p.body (.initial m)) :=
    p.checks_nest.verdict (s := State.initial n) (Nat.zero_le n) h
  rcases hverdict.cases with ⟨ys, t, hn, hm, -, -, hfit⟩ | ⟨failure, t, hn, hm, -, -, hcalm⟩ |
    ⟨node, t, hn, -, -, hnode, hdeep⟩
  · refine .inl ⟨?_, fun _ _ => ?_, fun _ herror => ?_⟩
    · rw [checkProgram, checkProgram, hn, hm]
      rfl
    · refine Program.height_le_iff.mpr fun node hnode => ?_
      have hle : 0 + node.depth ≤ n := hfit node hnode
      omega
    · rw [checkProgram, hn] at herror
      cases herror
  · refine .inl ⟨?_, fun t hok => ?_, fun e herror => ?_⟩
    · rw [checkProgram, checkProgram, hn, hm]
    · rw [checkProgram, hn] at hok
      cases hok
    · rw [checkProgram, hn] at herror
      cases herror
      exact hcalm
  · have hdepth : 0 + node.depth = n + 1 := hdeep
    refine .inr ⟨node, hnode, by omega, ?_⟩
    rw [checkProgram, hn]
    rfl

/-- A program that is no higher than the smaller of two limits is answered alike under
both, and not refused for nesting. -/
theorem checkProgram_of_height_le {p : Program} {n m : Nat} (hp : p.height ≤ n) (h : n ≤ m) :
    checkProgram n p = checkProgram m p ∧
      ∀ failure, checkProgram n p = .error failure → ¬failure.IsNesting := by
  rcases checkProgram_verdict p h with ⟨hsame, -, hcalm⟩ | ⟨node, hnode, hdeep, -⟩
  · exact ⟨hsame, hcalm⟩
  · have hle : node.depth ≤ n := Program.height_le_iff.mp hp node hnode
    omega

/-! ### Sessions -/

/-- A use of a checker: a statement, an expression or a block in a scope. -/
inductive Call where
  /-- A statement. -/
  | stmt (id : ScopeId) (x : Stmt)
  /-- An expression. -/
  | expr (id : ScopeId) (e : Expr)
  /-- A block. -/
  | block (id : ScopeId) (b : Block Stmt)

namespace Call

/-- What a call that succeeds gives back. -/
abbrev Result : Call → Type
  | .stmt _ _ => Checked.Stmt
  | .expr _ _ => Checked.Expr
  | .block _ _ => Block Checked.Stmt

/-- The check that a call makes. -/
def run : (c : Call) → Check c.Result
  | .stmt id x => checkStmt id x
  | .expr id e => checkExpr id e
  | .block id b => checkBlock id b

/-- The nodes of the tree that a call is about. -/
def sites : Call → List Site
  | .stmt _ x => x.sites
  | .expr _ e => e.sites
  | .block _ b => blockSites b

/-- A call nests like the tree that it is about. -/
theorem nests (c : Call) : Nests c.sites c.run := by
  cases c with
  | stmt id x => exact checkStmt_nests x id
  | expr id e => exact checkExpr_nests e
  | block id b => exact checkBlock_nests fun x _ => checkStmt_nests x

/-- A call on a checker that stands at depth 0 is refused for nesting only for a node of
its own tree that lies one level too deep, and accepted only if there is none. -/
theorem run_limit_exact (c : Call) {s : State} (hs : s.depth = 0) :
    (∀ failure t, c.run s = .error failure t → failure.IsNesting →
      ∃ node ∈ c.sites, node.depth = s.limit + 1 ∧ failure = .tooDeep s.limit node.span) ∧
    ∀ y t, c.run s = .ok y t → ∀ node ∈ c.sites, node.depth ≤ s.limit := by
  have hverdict := c.nests.verdict (s := s) (by omega) (Nat.le_refl s.limit)
  rw [hs] at hverdict
  rcases hverdict.cases with ⟨y, u, hrun, -, -, -, hfit⟩ | ⟨e, u, hrun, -, -, -, hcalm⟩ |
    ⟨node, u, hrun, -, -, hnode, hdeep⟩
  · rw [hrun]
    refine ⟨fun _ _ h => (nomatch h), fun _ _ _ node hnode => ?_⟩
    have hle := hfit node hnode
    omega
  · rw [hrun]
    refine ⟨fun failure t h hnesting => ?_, fun _ _ h => (nomatch h)⟩
    cases h
    exact absurd hnesting hcalm
  · rw [hrun]
    refine ⟨fun failure t h _ => ?_, fun _ _ h => (nomatch h)⟩
    cases h
    exact ⟨node, hnode, by omega, rfl⟩

end Call

/-- What happens to a checker that is kept: a call, or a change of what it knows about
scopes and classes. -/
inductive Session.Event where
  /-- A call, whatever its answer. -/
  | call (c : Call)
  /-- Other scopes, classes and identities. -/
  | edit (arena : Arena) (classes : ClassTable) (nextEntity : Nat)

/-- The state after an event. -/
def Session.step (s : State) : Session.Event → State
  | .call c => Check.after c.run s
  | .edit arena classes nextEntity => { s with arena, classes, nextEntity }

/-- **The state of a checker under the given limit**, after events in order. -/
def Session.after (limit : Nat) (events : List Session.Event) : State :=
  events.foldl Session.step (.initial limit)

/-- An event leaves a checker at depth 0 where it was. -/
theorem Session.step_placed {s : State} (hs : s.depth = 0) (event : Session.Event) :
    (step s event).depth = 0 ∧ (step s event).limit = s.limit := by
  cases event with
  | call c =>
    obtain ⟨hdepth, hlimit⟩ := c.nests.after_placed s
    exact ⟨hdepth.trans hs, hlimit⟩
  | edit arena classes nextEntity => exact ⟨hs, rfl⟩

/-- So do any events. -/
theorem Session.foldl_placed {s : State} (hs : s.depth = 0) (events : List Session.Event) :
    (events.foldl step s).depth = 0 ∧ (events.foldl step s).limit = s.limit := by
  induction events generalizing s with
  | nil => exact ⟨hs, rfl⟩
  | cons event events ih =>
    obtain ⟨hdepth, hlimit⟩ := step_placed hs event
    rw [List.foldl_cons, ← hlimit]
    exact ih hdepth

/-! ### The limit -/

/-- **The limit is exact, and has no other effect.** A program is answered as it is
under any limit that covers its height, or else refused for a node that lies one level
too deep. It is not refused for nesting when the limit covers its height, and not
accepted when it does not.

A checker that is kept is at depth 0 after any events. While a call runs the depth does
not pass the limit. The call is refused for nesting only for a node of its own tree,
counted from that tree, and accepted only if no such node lies too deep. -/
theorem checkProgram_limit_exact (p : Program) (n : Nat) :
    (∀ m, p.height ≤ m → checkProgram n p = checkProgram m p ∨
      ∃ node ∈ p.sites, node.depth = n + 1 ∧
        checkProgram n p = .error (.tooDeep n node.span)) ∧
    (p.height ≤ n → ∀ failure, checkProgram n p = .error failure → ¬failure.IsNesting) ∧
    (n < p.height → ∀ t, checkProgram n p ≠ .ok t) ∧
    ∀ events, (Session.after n events).depth = 0 ∧ (Session.after n events).limit = n ∧
      ∀ c : Call, (∀ u, Visits c.run (Session.after n events) u → u.depth ≤ n) ∧
        (∀ failure t, c.run (Session.after n events) = .error failure t → failure.IsNesting →
          ∃ node ∈ c.sites, node.depth = n + 1 ∧ failure = .tooDeep n node.span) ∧
        ∀ y t, c.run (Session.after n events) = .ok y t → ∀ node ∈ c.sites, node.depth ≤ n := by
  refine ⟨fun m hm => ?_, fun hn => ?_, fun hn t hok => ?_, fun events => ?_⟩
  · rcases Nat.le_total n m with hle | hle
    · rcases checkProgram_verdict p hle with ⟨hsame, -⟩ | hdeep
      · exact .inl hsame
      · exact .inr hdeep
    · exact .inl (checkProgram_of_height_le hm hle).1.symm
  · exact (checkProgram_of_height_le hn (Nat.le_refl n)).2
  · rcases checkProgram_verdict p (Nat.le_refl n) with ⟨-, hfits, -⟩ | ⟨node, -, -, herror⟩
    · have hle := hfits t hok
      omega
    · rw [herror] at hok
      cases hok
  · obtain ⟨hdepth, hlimit⟩ : (Session.after n events).depth = 0 ∧
        (Session.after n events).limit = n :=
      Session.foldl_placed (s := .initial n) rfl events
    refine ⟨hdepth, hlimit, fun c => ⟨fun u hu => ?_, ?_⟩⟩
    · have hle := (hu.depth_le c.nests (by omega)).1
      omega
    · have hexact := c.run_limit_exact hdepth
      rw [hlimit] at hexact
      exact hexact

end Shipshape
