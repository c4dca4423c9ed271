import Shipshape.Proofs.Class.Growth
import Shipshape.Proofs.Lexical.Simulation
import Shipshape.Proofs.Scope.Growth

/-!
# What a computation leaves behind

* `Shipshape.Check.Ends` – how a computation leaves the scopes and the classes, with one
  condition for when it succeeds and another for when it fails;
* `Shipshape.Arena.Adds` – from one table of classes to another, the class that a scope
  lies in gains fields of given names, and no other class changes;
* `Shipshape.Arena.Leaves` – that together with the growth of the scopes.

There is one rule for each operation, and for what goes deeper or opens a scope. A
failure may happen at each step, and leaves what the steps before it have made so far.
-/

namespace Shipshape

open Lexical (Mirrors)

/-! ### Fields -/

namespace Arena

variable {a b : Arena} {id : ScopeId} {names : List (String × Entity)}

/-- **What a check in a scope adds to classes**: the class that the scope lies in gains
fields, each with a name of the declarations, and the given methods. Classes may be made, but
no other class that was there changes. -/
def Adds (a : Arena) (id : ScopeId) (decls : List (String × TypeExpr))
    (methods : List (String × Signature)) (c d : ClassTable) : Prop :=
  ∃ fields, c.Gains (a.cls? id) fields methods d ∧
    ∀ f ∈ fields, f.1 ∈ decls.map Prod.fst

namespace Adds

variable {decls more : List (String × TypeExpr)} {methods others : List (String × Signature)}
  {c d e : ClassTable}

theorem refl (a : Arena) (id : ScopeId) (decls : List (String × TypeExpr)) (c : ClassTable) :
    a.Adds id decls [] c c :=
  ⟨[], .refl c _, fun _ hf => nomatch hf⟩

/-- The classes that were there are left alone. -/
theorem of_gains (h : c.Gains (a.cls? id) [] methods d) : a.Adds id decls methods c d :=
  ⟨[], h, fun _ hf => nomatch hf⟩

theorem mono (h : a.Adds id decls methods c d) (hmore : ∀ p ∈ decls, p ∈ more) :
    a.Adds id more methods c d := by
  obtain ⟨fields, hgains, hfields⟩ := h
  exact ⟨fields, hgains, fun f hf => List.map_subset Prod.fst hmore (hfields f hf)⟩

/-- One check after another, in the same scope. -/
theorem trans (hid : id < a.size) (h : a.Adds id decls methods c d) (hgrows : a.Grows id names b)
    (h' : b.Adds id more others d e) : a.Adds id (decls ++ more) (methods ++ others) c e := by
  obtain ⟨fields, hgains, hfields⟩ := h
  obtain ⟨fields', hgains', hfields'⟩ := h'
  rw [hgrows.cls?_eq hid] at hgains'
  refine ⟨fields ++ fields', hgains.trans hgains', ?_⟩
  rw [List.map_append]
  refine List.forall_mem_append.mpr ⟨fun f hf => ?_, fun f hf => ?_⟩
  · exact List.mem_append_left _ (hfields f hf)
  · exact List.mem_append_right _ (hfields' f hf)

/-- What is added from a scope that was just opened, in the same class, is added from
the scope around it. -/
theorem of_push {s : Scope} (h : (a.push s).Adds a.size decls methods c d)
    (hs : s.cls = a.cls? id) : a.Adds id decls methods c d := by
  obtain ⟨fields, hgains, hfields⟩ := h
  rw [cls?_push, hs] at hgains
  exact ⟨fields, hgains, hfields⟩

/-- Where no field is declared, none is gained. -/
theorem gains_nil (h : a.Adds id [] methods c d) : c.Gains (a.cls? id) [] methods d := by
  obtain ⟨fields, hgains, hfields⟩ := h
  obtain rfl := List.eq_nil_iff_forall_not_mem.mpr fun f hf => List.not_mem_nil (hfields f hf)
  exact hgains

end Adds

/-- **What a check in a scope leaves**, whether it succeeds or fails: the scope has gained
names, no other scope that was there has changed, and the classes are as
`Shipshape.Arena.Adds` says. -/
structure Leaves (a : Arena) (c : ClassTable) (id : ScopeId) (names : List (String × Entity))
    (decls : List (String × TypeExpr)) (methods : List (String × Signature)) (b : Arena)
    (d : ClassTable) : Prop where
  /-- The scopes. -/
  scopes : a.Grows id names b
  /-- The classes. -/
  classes : a.Adds id decls methods c d

namespace Leaves

variable {decls more : List (String × TypeExpr)} {methods others : List (String × Signature)}
  {names others' : List (String × Entity)} {a' b : Arena} {c c' d : ClassTable}

theorem refl (h : a.Live id) (decls : List (String × TypeExpr)) (c : ClassTable) :
    a.Leaves c id [] decls [] a c :=
  ⟨.refl h.wellFormed id, .refl a id decls c⟩

/-- Names are declared, and no field. -/
theorem extend (h : a.Live id) (names : List (String × Entity)) (decls : List (String × TypeExpr))
    (c : ClassTable) : a.Leaves c id names decls [] (a.extend id names) c :=
  ⟨.extend h.wellFormed id names, .refl a id decls c⟩

theorem mono (h : a.Leaves c id names decls methods b d) (hmore : ∀ p ∈ decls, p ∈ more) :
    a.Leaves c id names more methods b d :=
  ⟨h.scopes, h.classes.mono hmore⟩

/-- One check after another, in the same scope. -/
theorem trans (hid : a.Live id) (h : a.Leaves c id names decls methods a' c')
    (h' : a'.Leaves c' id others' more others b d) :
    a.Leaves c id (others' ++ names) (decls ++ more) (methods ++ others) b d :=
  ⟨h.scopes.trans h'.scopes, h.classes.trans hid.lt_size h.scopes h'.classes⟩

/-- What is left by a check in a scope that was just opened, in the same class, is left by
a check in the scope around it. -/
theorem of_push {s : Scope} (h : (a.push s).Leaves c a.size names decls methods b d)
    (hs : s.cls = a.cls? id) : a.Leaves c id [] decls methods b d :=
  ⟨h.scopes.of_push id, h.classes.of_push hs⟩

/-- What is added from a scope that was just opened, in a class made since then, changes
no class that was there. -/
theorem elsewhere {s : Scope} {cls : ClassRef} {other : Option ClassRef}
    (h : (a.push s).Leaves c' a.size names decls methods b d) (hs : s.cls = some cls)
    (hc : c.Gains other [] [] c') (hsize : c.size ≤ cls.id) (id : ScopeId) :
    a.Grows id [] b ∧ c.Gains other [] [] d := by
  obtain ⟨fields, hgains, -⟩ := h.classes
  rw [cls?_push, hs] at hgains
  exact ⟨h.scopes.of_push id, hc.elsewhere hsize hgains⟩

end Leaves

end Arena

/-! ### Computations -/

namespace Check

variable {α β : Type} {s : State} {id : ScopeId}
  {Q : α → Arena → ClassTable → Prop} {E : Failure → Arena → ClassTable → Prop}

/-- **How a computation leaves scopes and classes**: as `Q` says when it succeeds, and as
`E` says when it fails. -/
structure Ends (m : Check α) (s : State) (Q : α → Arena → ClassTable → Prop)
    (E : Failure → Arena → ClassTable → Prop) : Prop where
  /-- After a success. -/
  ok : ∀ a t, m s = .ok a t → Q a t.arena t.classes
  /-- After a failure. -/
  error : ∀ failure t, m s = .error failure t → E failure t.arena t.classes

namespace Ends

variable {m : Check α} {t : State}

theorem of_ok {a : α} (hrun : m s = .ok a t) (h : Q a t.arena t.classes) : Ends m s Q E := by
  refine ⟨fun b u hb => ?_, fun _ _ hb => ?_⟩
  · rw [hrun] at hb
    cases hb
    exact h
  · rw [hrun] at hb
    cases hb

theorem of_error {failure : Failure} (hrun : m s = .error failure t)
    (h : E failure t.arena t.classes) : Ends m s Q E := by
  refine ⟨fun _ _ hb => ?_, fun e u hb => ?_⟩
  · rw [hrun] at hb
    cases hb
  · rw [hrun] at hb
    cases hb
    exact h

/-- Only the run matters. -/
theorem of_run {n : Check α} (h : Ends n t Q E) (hrun : m s = n t) : Ends m s Q E :=
  ⟨fun a u ha => h.ok a u (hrun ▸ ha), fun e u he => h.error e u (hrun ▸ he)⟩

theorem pure {a : α} (h : Q a s.arena s.classes) : Ends (pure a) s Q E := of_ok rfl h

theorem refuse {cause : Cause} {span : Span} (h : ∀ failure, E failure s.arena s.classes) :
    Ends (refuse cause span) s Q E :=
  of_error rfl (h _)

theorem mono {P : α → Arena → ClassTable → Prop} {F : Failure → Arena → ClassTable → Prop}
    (h : Ends m s P F) (hok : ∀ a b c, P a b c → Q a b c)
    (herror : ∀ failure b c, F failure b c → E failure b c) : Ends m s Q E :=
  ⟨fun a t hm => hok _ _ _ (h.ok a t hm), fun f t hm => herror _ _ _ (h.error f t hm)⟩

/-- One computation after another. -/
theorem bind {m : Check β} {f : β → Check α} {P : β → Arena → ClassTable → Prop}
    (hm : Ends m s P E) (hf : ∀ b t, P b t.arena t.classes → Ends (f b) t Q E) :
    Ends (m >>= f) s Q E := by
  cases hrun : m s with
  | ok b t =>
    refine of_run (hf b t (hm.ok b t hrun)) ?_
    simp [Bind.bind, EStateM.bind, hrun]
  | error failure t =>
    refine of_error (t := t) ?_ (hm.error failure t hrun)
    simp [Bind.bind, EStateM.bind, hrun]

/-- What only reads the state may come first. -/
theorem reads {m : Check β} {x : Except Diagnostic β} {f : β → Check α} (hm : Reads m s x)
    (hE : ∀ failure, E failure s.arena s.classes) (hf : ∀ b, x = .ok b → Ends (f b) s Q E) :
    Ends (m >>= f) s Q E := by
  have hm : m s = Check.ofRule x s := hm
  cases x with
  | ok b =>
    refine of_run (hf b rfl) ?_
    simp [Bind.bind, EStateM.bind, hm, Check.ofRule]
  | error d =>
    have hrun : (m >>= f) s = .error (.refused d) s := by
      simp [Bind.bind, EStateM.bind, hm, Check.ofRule]
    exact of_error hrun (hE _)

/-- An entity may be made first, of which only the number is open. -/
theorem numbered {binding : Binding} {f : Entity → Check α}
    (hf : ∀ n, Ends (f ⟨n, binding⟩) s.fresh Q E) : Ends (newEntity binding >>= f) s Q E :=
  of_run (hf s.nextEntity) rfl

/-- An entity may be made first. -/
theorem newEntity {binding : Binding} {f : Entity → Check α}
    (hf : ∀ entity, Ends (f entity) s.fresh Q E) : Ends (newEntity binding >>= f) s Q E :=
  numbered fun n => hf ⟨n, binding⟩

/-- A class may be made first. -/
theorem newClass {name : String} {f : ClassRef → Check α}
    (hf : Ends (f (s.classes.add name).2) { s with classes := (s.classes.add name).1 } Q E) :
    Ends (newClass name >>= f) s Q E :=
  of_run hf rfl

/-- The constructor of a class may be set first. -/
theorem setCtor {cls : ClassRef} {signature : Signature} {f : Unit → Check α}
    (hf : Ends (f ()) { s with classes := s.classes.setCtor cls signature } Q E) :
    Ends (setCtor cls signature >>= f) s Q E :=
  of_run hf rfl

/-- A field may be added first. -/
theorem addField {cls : ClassRef} {name : String} {ty : Ty} {span : Span}
    (hE : ∀ failure, E failure s.arena s.classes)
    (hm : ∀ classes, s.classes.addField? cls name ty = some classes →
      Ends m { s with classes } Q E) :
    Ends (addField cls name ty >>= fun free =>
      if free then m else Check.refuse (.duplicateDeclaration name) span) s Q E := by
  cases hadd : s.classes.addField? cls name ty with
  | some classes =>
    refine of_run (hm classes hadd) ?_
    simp [Bind.bind, EStateM.bind, Check.addField, hadd]
  | none =>
    refine of_error (t := s) ?_ (hE (.refused (.located (.duplicateDeclaration name) span)))
    simp [Bind.bind, EStateM.bind, Check.addField, hadd, Check.refuse]

/-- What surrounds a scope may be looked at first. -/
theorem scope (h : s.arena.Live id) {f : Scope → Check α}
    (hf : ∀ scope, s.arena.scopes[id]? = some scope → Ends (f scope) s Q E) :
    Ends (scope id >>= f) s Q E := by
  obtain ⟨scope, hscope⟩ : ∃ scope, s.arena.scopes[id]? = some scope :=
    ⟨_, List.getElem?_eq_getElem h.lt_size⟩
  refine of_run (hf scope hscope) ?_
  simp [Bind.bind, EStateM.bind, Check.scope, Arena.get, hscope]

/-- A name may be declared first. -/
theorem declare (h : s.arena.Live id) {name : String} {entity : Entity} {span : Span}
    {f : Unit → Check α} (hE : ∀ failure, E failure s.arena s.classes)
    (hf : s.arena.Free id name →
      Ends (f ()) { s with arena := s.arena.extend id [(name, entity)] } Q E) :
    Ends (declare id name entity span >>= f) s Q E := by
  cases hdecl : s.arena.declare id name entity span with
  | ok arena =>
    obtain ⟨hfree, rfl⟩ := h.of_declare hdecl
    refine of_run (hf hfree) ?_
    simp [Bind.bind, EStateM.bind, Check.declare, hdecl]
  | error failure =>
    refine of_error (t := s) ?_ (hE failure)
    simp [Bind.bind, EStateM.bind, Check.declare, hdecl]

/-- A computation one level deeper leaves what it leaves by itself, or does not start. -/
theorem nested {span : Span} (hE : ∀ failure, E failure s.arena s.classes)
    (hm : Ends m s.deeper Q E) : Ends (nested span m) s Q E := by
  by_cases hlt : s.depth < s.limit
  · cases hrun : m s.deeper with
    | ok a t =>
      refine of_ok (t := { t with depth := t.depth - 1 }) ?_ (hm.ok a t hrun)
      rw [Check.nested, if_pos hlt, show m { s with depth := s.depth + 1 } = _ from hrun]
    | error failure t =>
      refine of_error (t := { t with depth := t.depth - 1 }) ?_ (hm.error failure t hrun)
      rw [Check.nested, if_pos hlt, show m { s with depth := s.depth + 1 } = _ from hrun]
  · have hrun : Check.nested span m s =
        .error (.refused (.located (.nestingTooDeep s.limit) span)) s := by
      rw [Check.nested, if_neg hlt]
    exact of_error hrun (hE _)

/-- A scope may be opened first. -/
theorem openScope (h : s.arena.Live id) {changes : Overrides} {f : ScopeId → Check α}
    (hf : ∀ scope : Scope, scope.parent = some id → scope.cls = changes.cls.or (s.arena.cls? id) →
      Ends (f s.arena.size) (s.push scope) Q E) :
    Ends (openScope id changes >>= f) s Q E := by
  obtain ⟨scope, hparent, hcls, hchild⟩ := h.child_eq changes
  refine of_run (hf scope hparent hcls) ?_
  simp [Bind.bind, EStateM.bind, Check.openScope, hchild, State.push]

/-- A computation in a new scope. When it succeeds it has changed no scope that was there
before, but for names that it declared in the scope around. -/
theorem withChild (h : s.arena.Live id) {changes : Overrides} {act : ScopeId → Check α}
    {R : α → ClassTable → Prop}
    (hact : ∀ scope : Scope, scope.parent = some id → scope.cls = changes.cls.or (s.arena.cls? id) →
      Ends (act s.arena.size) (s.push scope) (fun a b c => s.arena.Grows id [] b ∧ R a c) E) :
    Ends (withChild id changes act) s (fun a b c => b = s.arena ∧ R a c) E := by
  refine openScope h fun scope hparent hcls => bind (hact scope hparent hcls) fun a t ht => ?_
  obtain ⟨hgrows, hR⟩ := ht
  have hleave := hgrows.leave_eq h.wellFormed.size_pos
  rw [Arena.extend_nil] at hleave
  have hend : t.arena.leave s.arena.size = s.arena ∧ R a t.classes := ⟨hleave, hR⟩
  exact of_ok (t := { t with arena := t.arena.leave s.arena.size }) rfl hend

end Ends

end Check

end Shipshape
