import Shipshape.Proofs.Coincidence.Stmt
import Shipshape.Proofs.Frame.Effect

/-!
# Only what a statement can see matters

A statement is checked in a scope of a state, which may hold much that the statement has
nothing to do with: scopes beside its own, scopes that a failed statement has left behind, and
names that do not occur in it.

* `Shipshape.Stmt.LooksAlike` – two scopes, of one state or of two, look alike to a statement:
  the names in it stand for the same, and what surrounds them is the same;
* `Shipshape.SameOutcome` – two checks fail with the same diagnostic, or give the same checked
  statement up to the numbers of the entities that they make;
* `Shipshape.checkStmt_coincidence` – scopes that look alike to a statement give it the same
  outcome. In particular nothing that a failed statement leaves behind shows.

The entities that a check makes have numbers from its own supply. So the two checked statements
are compared with a third, in which the new entities have numbers that no old one has.
-/

namespace Shipshape

open Lexical (Frame Env Mirrors)

/-! ### Numbers -/

/-- Numbers from `first` on are counted from `n` instead, and those below stay. -/
def renumber (first n : Nat) (i : Nat) : Nat := if i < first then i else n + (i - first)

theorem renumber_of_lt {first n i : Nat} (h : i < first) : renumber first n i = i := if_pos h

theorem renumber_add (first n k : Nat) : renumber first n (first + k) = n + k := by
  rw [renumber, if_neg (by omega)]
  omega

/-- There is a number above those of some entities. -/
theorem exists_first (es : List Entity) : ∃ first, ∀ e ∈ es, e.id < first := by
  induction es with
  | nil => exact ⟨0, fun _ he => nomatch he⟩
  | cons e es ih =>
    obtain ⟨first, hfirst⟩ := ih
    refine ⟨max (e.id + 1) first, List.forall_mem_cons.mpr ⟨by omega, fun d hd => ?_⟩⟩
    have hlt := hfirst d hd
    omega

/-! ### Outcomes -/

/-- An entity that a name in a statement stands for. -/
def Stmt.Finds (x : Stmt) (s : State) (id : ScopeId) (e : Entity) : Prop :=
  ∃ name ∈ x.names, s.arena.find id name = .ok (some e)

/-- **Two checks of a statement come out the same**: they fail with one diagnostic, or succeed
with the same statement, in which the new entities are numbered from `n` on in the first and
from `n'` on in the second. The old entities, which all have numbers below those of the new
ones in the statement `y`, are the same in both. -/
inductive SameOutcome (old : Entity → Prop) (n n' : Nat) :
    EStateM.Result Failure State Checked.Stmt → EStateM.Result Failure State Checked.Stmt → Prop
  /-- Both fail. -/
  | refused {d : Diagnostic} {t t' : State} :
      SameOutcome old n n' (.error (.refused d) t) (.error (.refused d) t')
  /-- Both succeed. -/
  | accepted {first : Nat} {y : Checked.Stmt} {t t' : State} : (∀ e, old e → e.id < first) →
      t'.classes = t.classes →
      SameOutcome old n n' (.ok (y.relabel (renumber first n)) t)
        (.ok (y.relabel (renumber first n')) t')

/-- **Two scopes look alike to a statement.** The arenas are well-formed; the classes, the
depth and the limit are the same; so is what surrounds the two scopes; each name in the
statement stands for the same entity, or for none in both; and the name that the statement
declares, if it declares one, is taken in both scopes or in neither. -/
structure Stmt.LooksAlike (x : Stmt) (s : State) (id : ScopeId) (s' : State) (id' : ScopeId) :
    Prop where
  /-- The first arena. -/
  wellFormed : s.arena.WellFormed
  /-- The second arena. -/
  wellFormed' : s'.arena.WellFormed
  /-- The classes. -/
  classes : s'.classes = s.classes
  /-- The depth. -/
  depth : s'.depth = s.depth
  /-- The limit. -/
  limit : s'.limit = s.limit
  /-- The two scopes. -/
  scopes : ∃ scope scope', s.arena.scopes[id]? = some scope ∧ s'.arena.scopes[id']? = some scope' ∧
    scope'.inLoop = scope.inLoop ∧ scope'.function = scope.function ∧ scope'.cls = scope.cls ∧
    ∀ name ∈ x.declared?, (scope.lookup name = none ↔ scope'.lookup name = none)
  /-- The names. -/
  find : ∀ name ∈ x.names, s'.arena.find id' name = s.arena.find id name

theorem Lexical.Mirrors.find_eq {s : State} {id : ScopeId} {env : Env} (h : Mirrors s id env)
    (name : String) : s.arena.find id name = .ok (env.find? name) :=
  h.sees.findFrom name h.sees.lt_size

/-- A scope is seen as it is. -/
theorem Lexical.Mirrors.frame_eq {s : State} {id : ScopeId} {env : Env} (h : Mirrors s id env)
    {scope : Scope} (hscope : s.arena.scopes[id]? = some scope) : env.frame = scope.frame := by
  obtain ⟨found, hfound, hframe⟩ := h.sees.exists_scope
  rw [← hframe, Option.some.inj (hscope.symm.trans hfound)]

variable {x : Stmt} {s s' : State} {id id' : ScopeId}

/-- What two scopes that look alike see coincides, where old entities keep their numbers. -/
theorem Stmt.LooksAlike.coincides (h : x.LooksAlike s id s' id') {env env' : Env}
    (henv : Mirrors s id env) (henv' : Mirrors s' id' env') {first : Nat}
    (hfirst : ∀ e, x.Finds s id e → e.id < first) (n : Nat) :
    env.Coincides (renumber first n) x.names env' := by
  obtain ⟨scope, scope', hscope, hscope', hloop, hfunction, hcls, -⟩ := h.scopes
  refine ⟨?_, ?_, ?_, fun name hname => ?_⟩
  · rw [Env.ambient, Env.ambient, henv.frame_eq hscope, henv'.frame_eq hscope']
    exact ⟨hloop, congrArg (Option.map Entity.binding) hfunction, hcls⟩
  · rw [henv.level, henv'.level, h.depth]
  · rw [henv.limit, henv'.limit, h.limit]
  · have hfind := h.find name hname
    rw [henv.find_eq, henv'.find_eq] at hfind
    rw [Except.ok.inj hfind]
    cases he : env.find? name with
    | none => rfl
    | some e =>
      have hlt : e.id < first := hfirst e ⟨name, hname, by rw [henv.find_eq, he]⟩
      rw [Option.map_some, Entity.relabel, renumber_of_lt hlt]

theorem Stmt.LooksAlike.refl (h : s.arena.Live id) (x : Stmt) : x.LooksAlike s id s id := by
  obtain ⟨scope, hscope⟩ : ∃ scope, s.arena.scopes[id]? = some scope :=
    ⟨_, List.getElem?_eq_getElem h.lt_size⟩
  exact ⟨h.wellFormed, h.wellFormed, rfl, rfl, rfl,
    ⟨scope, scope, hscope, hscope, rfl, rfl, rfl, fun _ _ => Iff.rfl⟩, fun _ _ => rfl⟩

/-- A check in a scope comes out as the lexical check in an environment that coincides with
what the scope sees. -/
theorem checkStmt_follows {r : Nat → Nat} {env env' : Env} {σ : Lexical.Store}
    (henv' : Mirrors s id env') (h : env.Coincides r x.names env')
    (hown : ∀ name ∈ x.declared?, (env.frame.lookup name = none ↔ env'.frame.lookup name = none))
    (hσ : σ.Relabels r s.store) :
    (∃ q τ t, Lexical.stmt env x σ = .ok q τ ∧ checkStmt id x s = .ok (q.1.relabel r) t ∧
        t.classes = τ.classes) ∨
      ∃ d τ t, Lexical.stmt env x σ = .error d τ ∧ checkStmt id x s = .error (.refused d) t := by
  have hruns := Lexical.stmt_tandem r x.names x h (fun _ hn => hn) hown σ s.store hσ
  rcases (checkStmt_agree x henv').cases with
    ⟨y, t, q', τ', hcheck, hlex, hy, ht⟩ | ⟨d, t, τ', hcheck, hlex⟩
  · rw [hlex] at hruns
    cases hrun : Lexical.stmt env x σ with
    | ok q τ =>
      rw [hrun] at hruns
      cases hruns with
      | ok hq hτ =>
        refine .inl ⟨q, τ, t, rfl, ?_, ?_⟩
        · rw [hcheck, hy, hq]
        · rw [ht]
          exact hτ.classes
    | error d τ =>
      rw [hrun] at hruns
      cases hruns
  · rw [hlex] at hruns
    cases hrun : Lexical.stmt env x σ with
    | ok q τ =>
      rw [hrun] at hruns
      cases hruns
    | error _ τ =>
      rw [hrun] at hruns
      cases hruns
      exact .inr ⟨d, τ, t, rfl, hcheck⟩

/-- **Scopes that look alike to a statement give it the same outcome.** -/
theorem Stmt.LooksAlike.sameOutcome (h : x.LooksAlike s id s' id') :
    SameOutcome (x.Finds s id) s.nextEntity s'.nextEntity (checkStmt id x s)
      (checkStmt id' x s') := by
  obtain ⟨scope, scope', hscope, hscope', -, -, -, hown⟩ := h.scopes
  have hlive : s.arena.Live id := ⟨h.wellFormed, (List.getElem?_eq_some_iff.mp hscope).1⟩
  have hlive' : s'.arena.Live id' := ⟨h.wellFormed', (List.getElem?_eq_some_iff.mp hscope').1⟩
  obtain ⟨env, henv⟩ := hlive.exists_mirrors
  obtain ⟨env', henv'⟩ := hlive'.exists_mirrors
  have hframes : ∀ name ∈ x.declared?,
      (env.frame.lookup name = none ↔ env'.frame.lookup name = none) := by
    rw [henv.frame_eq hscope, henv'.frame_eq hscope']
    exact hown
  obtain ⟨first, hfirst⟩ := exists_first (x.names.filterMap env.find?)
  have hold : ∀ e, x.Finds s id e → e.id < first := by
    rintro e ⟨name, hname, hfind⟩
    rw [henv.find_eq] at hfind
    exact hfirst e (List.mem_filterMap.mpr ⟨name, hname, Except.ok.inj hfind⟩)
  -- A third run, in the first environment, numbers the new entities from `first` on. Each of
  -- the two checks comes out as that run does.
  have hstore (t : State) (ht : t.classes = s.classes) :
      Lexical.Store.Relabels (renumber first t.nextEntity) ⟨s.classes, first⟩ t.store :=
    ⟨ht, renumber_add first t.nextEntity⟩
  have hrun := checkStmt_follows henv
    ((Stmt.LooksAlike.refl hlive x).coincides henv henv hold s.nextEntity) (fun _ _ => Iff.rfl)
    (hstore s rfl)
  have hrun' := checkStmt_follows henv' (h.coincides henv henv' hold s'.nextEntity) hframes
    (hstore s' h.classes)
  rcases hrun with ⟨q, τ, t, hq, hcheck, ht⟩ | ⟨d, τ, t, hd, hcheck⟩
  · rcases hrun' with ⟨q', τ', t', hq', hcheck', ht'⟩ | ⟨d', τ', t', hd', -⟩
    · cases hq.symm.trans hq'
      rw [hcheck, hcheck']
      exact .accepted hold (ht'.trans ht.symm)
    · cases hq.symm.trans hd'
  · rcases hrun' with ⟨q', τ', t', hq', -⟩ | ⟨d', τ', t', hd', hcheck'⟩
    · cases hd.symm.trans hq'
    · cases hd.symm.trans hd'
      rw [hcheck, hcheck']
      exact .refused

/-! ### What a statement does not see -/

/-- A name is of no concern to a statement: it neither occurs in it nor is declared by it. -/
def Stmt.Ignores (x : Stmt) (name : String) : Prop := name ∉ x.names ∧ x.declared? ≠ some name

/-- More names in a scope do not matter to the others. -/
theorem Scope.lookup_extend_of_notMem {names : List (String × Entity)} {name : String}
    (h : ∀ p ∈ names, p.1 ≠ name) (scope : Scope) :
    (scope.extend names).lookup name = scope.lookup name := by
  have hnone : names.lookup name = none :=
    List.lookup_eq_none_iff.mpr fun p hp => by simpa using (h p hp).symm
  rw [Scope.lookup, Scope.extend, List.lookup_append, hnone, Option.none_or, Scope.lookup]

/-- A scope that was there is the same later, up to names that it has gained. -/
theorem Arena.Grows.exists_scope {a b : Arena} {j : ScopeId} {names : List (String × Entity)}
    (h : a.Grows j names b) {i : ScopeId} {scope : Scope} (hscope : a.scopes[i]? = some scope) :
    b.scopes[i]? = some scope ∨ b.scopes[i]? = some (scope.extend names) := by
  have hi : i < a.size := (List.getElem?_eq_some_iff.mp hscope).1
  rw [h.scopes i hi, getElem?_extend, hscope, Option.map_some]
  split
  · exact .inr rfl
  · exact .inl rfl

/-- **A name that no scope has gained** stands for what it stood for. -/
theorem Arena.Grows.findSome?_eq {a b : Arena} {j : ScopeId} {names : List (String × Entity)}
    (h : a.Grows j names b) {name : String} (hname : ∀ p ∈ names, p.1 ≠ name) {frames : List Frame}
    (hsees : a.Sees id frames) :
    ∃ frames', b.Sees id frames' ∧
      frames'.findSome? (·.lookup name) = frames.findSome? (·.lookup name) := by
  induction hsees with
  | @outermost i scope hscope hparent =>
    rcases h.exists_scope hscope with hb | hb
    · exact ⟨_, .outermost hb hparent, rfl⟩
    · refine ⟨_, .outermost hb hparent, ?_⟩
      rw [List.findSome?_singleton, List.findSome?_singleton]
      exact scope.lookup_extend_of_notMem hname
  | @inside i parent scope frames hscope hparent hlt _ ih =>
    obtain ⟨frames', hsees', hfind⟩ := ih
    rcases h.exists_scope hscope with hb | hb
    · refine ⟨_, .inside hb hparent hlt hsees', ?_⟩
      rw [List.findSome?_cons, List.findSome?_cons, hfind]
    · refine ⟨_, .inside hb hparent hlt hsees', ?_⟩
      have hlookup : (scope.extend names).frame.lookup name = scope.frame.lookup name :=
        scope.lookup_extend_of_notMem hname
      rw [List.findSome?_cons, List.findSome?_cons, hfind, hlookup]

/-- **What a statement ignores does not show**: later a scope looks as it did, if none of the
names that were declared since is of concern to the statement. -/
theorem Stmt.LooksAlike.of_grows (h : s.arena.Live id) {j : ScopeId}
    {names : List (String × Entity)} (hgrows : s.arena.Grows j names s'.arena)
    (hignores : ∀ p ∈ names, x.Ignores p.1) (hclasses : s'.classes = s.classes)
    (hdepth : s'.depth = s.depth) (hlimit : s'.limit = s.limit) : x.LooksAlike s id s' id := by
  obtain ⟨scope, hscope⟩ : ∃ scope, s.arena.scopes[id]? = some scope :=
    ⟨_, List.getElem?_eq_getElem h.lt_size⟩
  have hne {name : String} (hname : ¬x.Ignores name) : ∀ p ∈ names, p.1 ≠ name := by
    rintro p hp rfl
    exact hname (hignores p hp)
  refine ⟨h.wellFormed, hgrows.wellFormed, hclasses, hdepth, hlimit, ?_, fun name hname => ?_⟩
  · rcases hgrows.exists_scope hscope with hb | hb
    · exact ⟨scope, scope, hscope, hb, rfl, rfl, rfl, fun _ _ => Iff.rfl⟩
    · refine ⟨scope, scope.extend names, hscope, hb, rfl, rfl, rfl, fun name hname => ?_⟩
      rw [scope.lookup_extend_of_notMem (hne fun hno => hno.2 hname)]
  · obtain ⟨frame, frames, hsees⟩ := h.wellFormed.exists_sees h.lt_size
    obtain ⟨frames', hsees', hfind⟩ := hgrows.findSome?_eq (hne fun hno => hno.1 hname) hsees
    rw [Arena.find, Arena.find, hsees'.findFrom name hsees'.lt_size,
      hsees.findFrom name hsees.lt_size, hfind]

/-- **What a failed statement leaves** is scopes of its own and, if it is a function, its
name. -/
theorem checkStmt_failure_grows {j : ScopeId} (h : s.arena.Live j) {z : Stmt} {failure : Failure}
    (hrun : checkStmt j z s = .error failure s') :
    ∃ names, s.arena.Grows j names s'.arena ∧
      ∀ p ∈ names, ∃ decl, z = .function decl ∧ p.1 = decl.name := by
  obtain ⟨names, hnames, hleaves⟩ := (checkStmt_ends z h).error failure s' hrun
  rcases hnames with rfl | ⟨decl, rfl⟩
  · exact ⟨[], hleaves.scopes, fun _ hp => nomatch hp⟩
  · rcases checkStmt_function_error h hrun with ⟨hgrows, -⟩ |
      ⟨entity, -, -, -, -, -, -, -, hgrows⟩
    · exact ⟨[], hgrows, fun _ hp => nomatch hp⟩
    · exact ⟨[(decl.name, entity)], hgrows, List.forall_mem_singleton.mpr ⟨decl, rfl, rfl⟩⟩

/-- **Only what a statement can see matters.** Let two scopes, of one state or of two, look
alike to a statement. Then its check has the same outcome in both: the same diagnostic at the
same position, or the same checked statement up to the numbers of new entities.

In particular a scope gives a statement the same outcome as before when scopes were opened
since, and names were declared, that are of no concern to the statement. And after another
statement has failed, wherever that was, the scopes that it has left behind do not show, if its
name is of no concern in case it is a function: the outcome is the one with the scopes as they
were before. When it has left the classes as they were, this is the outcome from before. -/
theorem checkStmt_coincidence (x : Stmt) (s : State) (id : ScopeId) :
    (∀ s' id', x.LooksAlike s id s' id' →
      SameOutcome (x.Finds s id) s.nextEntity s'.nextEntity (checkStmt id x s)
        (checkStmt id' x s')) ∧
    (∀ s' j names, s.arena.Live id → s.arena.Grows j names s'.arena →
      (∀ p ∈ names, x.Ignores p.1) → s'.classes = s.classes → s'.depth = s.depth →
      s'.limit = s.limit →
      SameOutcome (x.Finds s id) s.nextEntity s'.nextEntity (checkStmt id x s)
        (checkStmt id x s')) ∧
    ∀ z j failure t, s.arena.Live id → s.arena.Live j → checkStmt j z s = .error failure t →
      (∀ decl, z = .function decl → x.Ignores decl.name) →
      SameOutcome (x.Finds s id) t.nextEntity t.nextEntity
        (checkStmt id x { t with arena := s.arena }) (checkStmt id x t) ∧
      (t.classes = s.classes →
        SameOutcome (x.Finds s id) s.nextEntity t.nextEntity (checkStmt id x s)
          (checkStmt id x t)) := by
  refine ⟨fun s' id' h => h.sameOutcome, ?_, ?_⟩
  · intro s' j names hlive hgrows hignores hclasses hdepth hlimit
    exact (Stmt.LooksAlike.of_grows hlive hgrows hignores hclasses hdepth hlimit).sameOutcome
  · intro z j failure t hlive hj hrun hignores
    obtain ⟨names, hgrows, hnames⟩ := checkStmt_failure_grows hj hrun
    have hplaced := (checkStmt_nests z j).after_placed s
    rw [Check.after, hrun] at hplaced
    have hnames' : ∀ p ∈ names, x.Ignores p.1 := by
      intro p hp
      obtain ⟨decl, hz, hname⟩ := hnames p hp
      rw [hname]
      exact hignores decl hz
    refine ⟨?_, fun hclasses => ?_⟩
    · have halike : x.LooksAlike { t with arena := s.arena } id t id :=
        .of_grows hlive hgrows hnames' rfl rfl rfl
      exact halike.sameOutcome
    · exact (Stmt.LooksAlike.of_grows hlive hgrows hnames' hclasses hplaced.1
        hplaced.2).sameOutcome

/-- The scopes of the harbour in another order, and another supply of numbers. -/
def otherHarbour : State :=
  { harbour with
    arena := (Arena.initial.push (Scope.root.child 0 { inLoop := some true })).push
      (Scope.root.child 0 { cls := some ⟨0, "Ship"⟩ })
    nextEntity := 40 }

/-- A field of the class at hand, with a type that is declared further out. -/
def crewField : Stmt := .field (.named "int") "crew" (.literal (.int 3) .null) .null

/-- A function whose body fails, and which declares no field. -/
def hoisting : Stmt :=
  .function ⟨"hoist", [], none, ⟨[.expr (.symbol "rum" .null) .null], .null⟩, .null⟩

/-- A class whose constructor fails. It has been made by then. -/
def rigging : Stmt :=
  .classDecl ⟨"Mast", [], ⟨[.expr (.symbol "rum" .null) .null], .null⟩, .null, [], .null⟩

/-- The field is accepted in the scope of the class, whichever number that scope has, and also
after a function or another class has failed there. -/
theorem crewField_coincidence :
    (∃ (first : Nat) (y : Checked.Stmt) (t t' : State),
      checkStmt 1 crewField harbour = .ok (y.relabel (renumber first 5)) t ∧
      checkStmt 2 crewField otherHarbour = .ok (y.relabel (renumber first 40)) t') ∧
    (∃ failure u, checkStmt 1 hoisting harbour = .error failure u ∧ u.arena.size = 4 ∧
      SameOutcome (crewField.Finds harbour 1) 5 u.nextEntity (checkStmt 1 crewField harbour)
        (checkStmt 1 crewField u)) ∧
    ∃ failure u, checkStmt 1 rigging harbour = .error failure u ∧ u.arena.size = 5 ∧
      u.classes.size = 2 ∧
      SameOutcome (crewField.Finds harbour 1) u.nextEntity u.nextEntity
        (checkStmt 1 crewField { u with arena := harbour.arena }) (checkStmt 1 crewField u) := by
  have hlive : harbour.arena.Live 1 := ⟨harbour_wellFormed, by decide⟩
  obtain ⟨halike, -, hfailed⟩ := checkStmt_coincidence crewField harbour 1
  refine ⟨?_, ?_, ?_⟩
  · have hother : otherHarbour.arena.WellFormed :=
      (Arena.wellFormed_initial.push rfl (by decide)).push rfl (by decide)
    have houtcome := halike otherHarbour 2 ⟨harbour_wellFormed, hother, rfl, rfl, rfl,
      ⟨_, _, rfl, rfl, rfl, rfl, rfl, fun _ _ => Iff.rfl⟩, List.forall_mem_singleton.mpr rfl⟩
    have haccepted : (match checkStmt 1 crewField harbour with
        | .ok _ _ => true
        | .error _ _ => false) = true := by decide +kernel
    generalize checkStmt 1 crewField harbour = run at houtcome haccepted
    generalize checkStmt 2 crewField otherHarbour = run' at houtcome
    cases houtcome with
    | refused => cases haccepted
    | @accepted first y t t' => exact ⟨first, y, t, t', rfl, rfl⟩
  · have hrun : ∃ failure u, checkStmt 1 hoisting harbour = .error failure u ∧
        u.arena.size = 4 ∧ u.classes = harbour.classes := ⟨_, _, rfl, rfl, rfl⟩
    obtain ⟨failure, u, hrun, hsize, hclasses⟩ := hrun
    refine ⟨failure, u, hrun, hsize, (hfailed hoisting 1 failure u hlive hlive hrun ?_).2 hclasses⟩
    rintro decl ⟨⟩
    exact ⟨by decide, by decide⟩
  · have hrun : ∃ failure u, checkStmt 1 rigging harbour = .error failure u ∧
        u.arena.size = 5 ∧ u.classes.size = 2 := ⟨_, _, rfl, rfl, rfl⟩
    obtain ⟨failure, u, hrun, hsize, hclasses⟩ := hrun
    exact ⟨failure, u, hrun, hsize, hclasses,
      (hfailed rigging 1 failure u hlive hlive hrun nofun).1⟩

end Shipshape
