import Shipshape.Proofs.Run.Inside

/-!
# What a statement that fails leaves behind

A checker may be used again after a statement has failed, in any of its scopes. What it then finds
is described here, for a state that need not come from a check: its scopes have to be well-formed,
and the scope at hand may lie below others that have nothing to do with it.

* `Shipshape.Check.Collects` – what is known of the fields that a class gains in a computation;
* `Shipshape.Check.ComesToField` – the check of statements comes to the declaration of a field;
* `Shipshape.checkStmt_collects` – one step: the class at hand gains a field from a statement if
  the statement declares it, or if a block of the statement does;
* `Shipshape.Check.Comes.collects` – all steps: where a field was gained, the check came to its
  declaration;
* `Shipshape.checkStmt_failure_leaves` – a statement that fails leaves the scopes as they were, up
  to scopes of its own that nothing refers to, and up to the name of a function whose body failed.

## Where a type was read

A field has the type that is written at its declaration, but what is written there means something
in one place only: names may be declared in the blocks around the declaration, and may be gone when
the statement fails. So the type is the one that is read in the state in which the check comes to
the declaration, in the scope of the declaration (`Shipshape.Check.ComesToField`). The state and the
scope belong to the run that fails: they are reached from where it starts by
`Shipshape.Check.Comes`.
-/

namespace Shipshape

open Check (Ends Reads bind_eq_of_left)

variable {α β : Type} {s t : State} {id : ScopeId} {cls : ClassRef} {P Q : String × Ty → Prop}

/-! ### Fields of a class -/

/-- A class that gains no fields has those that it had. -/
theorem ClassTable.Gains.fields_eq {c d : ClassTable} {other : Option ClassRef}
    {methods : List (String × Signature)} (h : c.Gains other [] methods d)
    (hcls : cls.id < c.size) : (d.info cls).fields = (c.info cls).fields := by
  rw [ClassTable.info_of_getElem? (h _ _ (ClassTable.getElem?_of_lt hcls))]
  split
  · exact List.append_nil _
  · rfl

/-- A class that is not there gains nothing. -/
theorem ClassTable.Gains.of_size_le {c d : ClassTable} {other : Option ClassRef}
    {fields : List (String × Ty)} {methods : List (String × Signature)}
    (h : c.Gains other fields methods d) (hother : ∀ r ∈ other, c.size ≤ r.id) :
    c.Gains other [] [] d := by
  intro i info hi
  have hlt : i < c.size := (List.getElem?_eq_some_iff.mp hi).1
  have hne : other.map ClassRef.id ≠ some i := by
    intro heq
    obtain ⟨r, hr, rfl⟩ := Option.map_eq_some_iff.mp heq
    exact Nat.not_le_of_lt hlt (hother r hr)
  have hd := h i info hi
  rw [if_neg hne] at hd ⊢
  exact hd

namespace Check

/-- **What is known of the fields that a class gains** in a computation, whether it succeeds or
fails. -/
def Collects (m : Check α) (s : State) (cls : ClassRef) (P : String × Ty → Prop) : Prop :=
  ∃ fields, ((after m s).classes.info cls).fields = (s.classes.info cls).fields ++ fields ∧
    ∀ f ∈ fields, P f

/-! No class changes when a scope is opened, a name is declared or the depth changes. -/

theorem after_bind_classes {m : Check β} {f : β → Check α} (hm : (after m s).classes = s.classes)
    (hf : ∀ b t, (after (f b) t).classes = t.classes) :
    (after (m >>= f) s).classes = s.classes := by
  rw [after] at hm
  rw [after_bind]
  cases hrun : m s with
  | ok b t =>
    rw [hrun] at hm
    exact (hf b t).trans hm
  | error failure t =>
    rw [hrun] at hm
    exact hm

theorem after_openScope_classes (id : ScopeId) (changes : Overrides) (s : State) :
    (after (openScope id changes) s).classes = s.classes := by
  rw [after, openScope]
  cases s.arena.child id changes <;> rfl

theorem after_declare_classes (id : ScopeId) (name : String) (entity : Entity) (span : Span)
    (s : State) : (after (declare id name entity span) s).classes = s.classes := by
  rw [after, declare]
  cases s.arena.declare id name entity span <;> rfl

theorem after_nested_classes {m : Check α} {span : Span} (hroom : s.depth < s.limit) :
    (after (nested span m) s).classes = (after m s.deeper).classes := by
  rw [after, nested, if_pos hroom, after]
  cases hrun : m s.deeper with
  | ok a t => rw [show m { s with depth := s.depth + 1 } = .ok a t from hrun]
  | error failure t => rw [show m { s with depth := s.depth + 1 } = .error failure t from hrun]

namespace Collects

/-- No class changes. -/
theorem of_eq {m : Check α} (h : (after m s).classes = s.classes) : Collects m s cls P :=
  ⟨[], by rw [h, List.append_nil], List.forall_mem_nil _⟩

/-- The fields stay as they are. -/
theorem of_adds {m : Check α} {methods : List (String × Signature)} (hcls : cls.id < s.classes.size)
    (h : s.arena.Adds id [] methods s.classes (after m s).classes) : Collects m s cls P :=
  ⟨[], by rw [h.gains_nil.fields_eq hcls, List.append_nil], List.forall_mem_nil _⟩

theorem mono {m : Check α} (h : Collects m s cls P) (hP : ∀ f, P f → Q f) :
    Collects m s cls Q := by
  obtain ⟨fields, heq, hfields⟩ := h
  exact ⟨fields, heq, fun f hf => hP f (hfields f hf)⟩

/-- One computation after another. The second one starts where the first one ends. -/
theorem bind {m : Check β} {f : β → Check α} (hm : Collects m s cls P)
    (hf : ∀ b t, m s = .ok b t → Collects (f b) t cls P) : Collects (m >>= f) s cls P := by
  obtain ⟨fields, heq, hfields⟩ := hm
  rw [after] at heq
  rw [Collects, after_bind]
  cases hrun : m s with
  | ok b t =>
    rw [hrun] at heq
    obtain ⟨more, hmore, hP⟩ := hf b t hrun
    refine ⟨fields ++ more, ?_, List.forall_mem_append.mpr ⟨hfields, hP⟩⟩
    rw [hmore, heq, List.append_assoc]
  | error failure t =>
    rw [hrun] at heq
    exact ⟨fields, heq, hfields⟩

/-- What changes no class may come last. -/
theorem first {m : Check β} {f : β → Check α} (hm : Collects m s cls P)
    (hf : ∀ b t, (after (f b) t).classes = t.classes) : Collects (m >>= f) s cls P :=
  bind hm fun b t _ => of_eq (hf b t)

/-- What only reads the state may come first. -/
theorem reads {m : Check β} {x : Except Diagnostic β} {f : β → Check α} (hm : Reads m s x)
    (hf : ∀ b, x = .ok b → m s = .ok b s → Collects (f b) s cls P) :
    Collects (m >>= f) s cls P := by
  have hm : m s = ofRule x s := hm
  cases x with
  | ok b =>
    rw [Collects, after_bind, hm]
    exact hf b rfl hm
  | error d =>
    refine of_eq ?_
    rw [after_bind, hm]
    rfl

/-- What surrounds a scope may be looked at first. -/
theorem scope (h : s.arena.Live id) {f : Scope → Check α}
    (hf : ∀ scope, s.arena.scopes[id]? = some scope → Collects (f scope) s cls P) :
    Collects (scope id >>= f) s cls P := by
  obtain ⟨scope, hscope⟩ : ∃ scope, s.arena.scopes[id]? = some scope :=
    ⟨_, List.getElem?_eq_getElem h.lt_size⟩
  have hrun : Check.scope id s = .ok scope s := by rw [Check.scope, Arena.get, hscope]
  rw [Collects, after_bind, hrun]
  exact hf scope hscope

/-- A computation one level deeper gains what it gains by itself, or nothing. -/
theorem nested {m : Check α} {span : Span} (h : s.depth < s.limit → Collects m s.deeper cls P) :
    Collects (nested span m) s cls P := by
  by_cases hroom : s.depth < s.limit
  · obtain ⟨fields, heq, hfields⟩ := h hroom
    exact ⟨fields, by rw [after_nested_classes hroom, heq]; rfl, hfields⟩
  · refine of_eq ?_
    rw [after, Check.nested, if_neg hroom]

/-- A field is added to the class unless the name is taken. -/
theorem addField {m : Check α} {name : String} {ty : Ty} {span : Span}
    (hcls : cls.id < s.classes.size) (hm : ∀ u, (after m u).classes = u.classes)
    (hP : name ∉ (s.classes.info cls).fields.map Prod.fst → P (name, ty)) :
    Collects (addField cls name ty >>= fun free =>
      if free then m else refuse (.duplicateDeclaration name) span) s cls P := by
  rw [Collects, after_bind, Check.addField]
  cases hadd : s.classes.addField? cls name ty with
  | none => exact ⟨[], (List.append_nil _).symm, List.forall_mem_nil _⟩
  | some classes =>
    have hfree := (ClassTable.addField?_eq_some hadd).1
    have hgains := (ClassTable.gains_of_addField? hadd).info_self hcls
    refine ⟨[(name, ty)], ?_, List.forall_mem_singleton.mpr (hP hfree)⟩
    show ((after m { s with classes }).classes.info cls).fields = _
    rw [hm, hgains]
    rfl

/-- A computation in a new scope starts where the scope has been opened. -/
theorem withChild {changes : Overrides} {act : ScopeId → Check α}
    (h : ∀ inner t, openScope id changes s = .ok inner t → Collects (act inner) t cls P) :
    Collects (withChild id changes act) s cls P :=
  bind (of_eq (after_openScope_classes ..)) fun inner t hopen =>
    first (h inner t hopen) fun _ _ => rfl

/-- A block gains what its statements do. -/
theorem block {body : Block Stmt} (h : Collects (checkStmts id body.body) s cls P) :
    Collects (checkBlock id body) s cls P := by
  obtain ⟨xs, span⟩ := body
  rw [checkBlock]
  exact first h fun _ _ => rfl

end Collects

end Check

open Check (Collects)

/-! ### One statement -/

/-- The body of a loop that declares a variable. -/
theorem loopBody_collects {name : String} {ty : Ty} {span : Span} {body : Block Stmt}
    (h : ∀ inner t, loopHead id name ty span s = .ok inner t →
      Collects (checkStmts inner body.body) t cls P) :
    Collects (Check.withChild id { inLoop := some true } fun inner => do
      let entity ← Check.newEntity (.var name ty)
      Check.declare inner name entity span
      let body ← checkBlock inner body
      return (entity, body)) s cls P := by
  refine .withChild fun inner t hopen => .bind (.of_eq rfl) fun entity u hentity => ?_
  refine .bind (.of_eq (Check.after_declare_classes ..)) fun _ v hdeclare => ?_
  refine .first (.block (h inner v ?_)) fun _ _ => rfl
  rw [loopHead, bind_eq_of_left hopen, bind_eq_of_left hentity, bind_eq_of_left hdeclare]
  rfl

/-- A function that is no method declares nothing in the class before its body. -/
theorem checkFunction_collects {f : FnDecl Stmt} (hlive : s.arena.Live id)
    (hcls : cls.id < s.classes.size)
    (h : ∀ r t, functionHead none id f.name f.params f.result f.span s = .ok r t →
      Collects (checkStmts r.1 f.body.body) t cls P) :
    Collects (checkFunction none id f) s cls P := by
  obtain ⟨name, params, result, body, span⟩ := f
  have howner : ∀ r ∈ none, s.arena.cls? id = some r := fun _ hr => nomatch hr
  have hhead : Ends (functionHead none id name params result span) s
      (fun _ _ c => ∃ methods, s.arena.Adds id [] methods s.classes c)
      (fun _ _ c => ∃ methods, s.arena.Adds id [] methods s.classes c) := by
    refine (functionHead_ends hlive howner name params result span).mono (fun r b c hb => ?_)
      fun _ b c he => ?_
    · obtain ⟨-, methods, -, hadds⟩ := hb
      exact ⟨methods, hadds⟩
    · obtain ⟨methods, -, hleaves⟩ := he
      exact ⟨methods, hleaves.classes⟩
  obtain ⟨methods, hadds⟩ := hhead.after
  rw [checkFunction_eq]
  exact .bind (.of_adds hcls hadds) fun r t hr => .first (.block (h r t hr)) fun _ _ => rfl

/-- Branches gain what their blocks do, each after the branches before it. -/
theorem checkBranches_collects {branches : List (Branch Expr Stmt)} (hlive : s.arena.Live id)
    (h : ∀ before test body after, branches = before ++ ⟨test, body⟩ :: after →
      ∀ bs t, checkBranches id before s = .ok bs t →
      ∀ inner u, (do
        let test ← checkExpr id test
        Check.ofRule (Rule.boolean test)
        Check.openScope id {}) t = .ok inner u →
      Collects (checkStmts inner body.body) u cls P) :
    Collects (checkBranches id branches) s cls P := by
  induction branches generalizing s with
  | nil =>
    rw [checkBranches]
    exact .of_eq rfl
  | cons b branches ih =>
    obtain ⟨test, body⟩ := b
    obtain ⟨env, henv⟩ := hlive.exists_mirrors
    rw [checkBranches]
    refine .reads (checkExpr_reads test henv) fun test' _ htest => ?_
    refine .reads (.of_rule _ s) fun _ _ hboolean => ?_
    refine .bind (.withChild fun inner v hopen => .block ?_) fun body' v hbody => ?_
    · refine h [] test body branches rfl [] s (by rw [checkBranches]; rfl) inner v ?_
      rw [bind_eq_of_left htest, bind_eq_of_left hboolean, hopen]
    · have hframed : ∀ x ∈ body.body, x.Framed := fun x _ => checkStmt_ends x
      have harena : v.arena = s.arena := ((childBlock_ends hframed rfl hlive).ok body' v hbody).1
      refine .first (ih (harena ▸ hlive) fun before test₂ body₂ after hbranches bs w hbefore => ?_)
        fun _ _ => rfl
      refine h (⟨test, body⟩ :: before) test₂ body₂ after (congrArg _ hbranches)
        (⟨test', body'⟩ :: bs) w ?_
      rw [checkBranches, bind_eq_of_left htest, bind_eq_of_left hboolean, bind_eq_of_left hbody,
        bind_eq_of_left hbefore]
      rfl

/-- **The declaration of a field** in a scope of the class: the class may gain a field of this name,
which it did not have, with the type that is written there. -/
theorem checkStmt_field_collects (hlive : s.arena.Live id) (hscope : s.arena.cls? id = some cls)
    (hcls : cls.id < s.classes.size) (typeExpr : TypeExpr) (name : String) (value : Expr)
    (span : Span) :
    Collects (checkStmt id (.field typeExpr name value span)) s cls fun f =>
      s.depth < s.limit ∧ f.1 = name ∧ convert id typeExpr s.deeper = .ok f.2 s.deeper ∧
        f.1 ∉ (s.classes.info cls).fields.map Prod.fst := by
  obtain ⟨env, henv⟩ := Arena.Live.exists_mirrors (s := s.deeper) hlive
  rw [checkStmt]
  refine .nested fun hroom => .scope (s := s.deeper) hlive fun scope hfound => ?_
  refine .reads (.require ..) fun owner howner _ => ?_
  have hself : scope.cls = some cls := by
    rw [← hscope, Arena.cls?, show s.arena.scopes[id]? = some scope from hfound]
    rfl
  obtain rfl : owner = cls :=
    Option.some.inj ((Lexical.require_eq_ok_iff.mp howner).symm.trans hself)
  refine .reads (checkExpr_reads value henv) fun value' _ _ => ?_
  refine .reads (convert_reads henv typeExpr) fun ty _ hty => .reads (.of_rule ..) fun _ _ _ => ?_
  refine .addField hcls (fun u => ?_) fun hfree => ⟨hroom, rfl, hty, hfree⟩
  -- What is left is to declare the name.
  exact Check.after_bind_classes rfl fun _ _ =>
    Check.after_bind_classes (Check.after_declare_classes ..) fun _ _ => rfl

/-- **A statement gains fields** for the class at hand if it is the declaration of one, or if a
block of it does. -/
theorem checkStmt_collects {x : Stmt} (hlive : s.arena.Live id) (hcls : cls.id < s.classes.size)
    (hown : ∀ typeExpr name value span, x = .field typeExpr name value span →
      Collects (checkStmt id x) s cls P)
    (hblocks : (∀ decl, x ≠ .classDecl decl) → ∀ m ys inner t, s.depth < s.limit →
      x.Way id m ys → m s.deeper = .ok inner t → Collects (checkStmts inner ys) t cls P) :
    Collects (checkStmt id x) s cls P := by
  have hnone (h : x.fieldDecls = []) : Collects (checkStmt id x) s cls P := by
    have hends : Ends (checkStmt id x) s (fun _ _ c => s.arena.Adds id [] [] s.classes c)
        (fun _ _ c => s.arena.Adds id [] [] s.classes c) := by
      refine (checkStmt_ends x hlive).mono (fun y b c hb => h ▸ hb.2) fun _ b c he => ?_
      obtain ⟨names, -, hleaves⟩ := he
      exact h ▸ hleaves.classes
    exact .of_adds hcls hends.after
  obtain ⟨env, henv⟩ := Arena.Live.exists_mirrors (s := s.deeper) hlive
  cases x with
  | var | classDecl | assign | print | expr | breakLoop | ret => exact hnone rfl
  | field typeExpr name value span => exact hown typeExpr name value span rfl
  | function f =>
    obtain ⟨name, params, result, body, span⟩ := f
    rw [checkStmt]
    refine .nested fun hroom => .first (checkFunction_collects (s := s.deeper) hlive hcls
      fun r t hr => ?_) fun _ _ => rfl
    exact hblocks (by simp) _ _ _ t hroom (.function name params result body span)
      (bind_eq_of_left hr _)
  | ifElse branches alternate span =>
    rw [checkStmt]
    refine .nested fun hroom => .bind (checkBranches_collects (s := s.deeper) hlive ?_)
      fun bs t hbranches => .first ?_ fun _ _ => rfl
    · rintro before test body after rfl bs t hbefore inner u hhead
      refine hblocks (by simp) _ _ inner u hroom (.branch before test body after _ _) ?_
      rw [bind_eq_of_left hbefore]
      exact hhead
    · cases alternate with
      | none =>
        rw [checkAlternate]
        exact .of_eq rfl
      | some body =>
        rw [checkAlternate]
        refine .first (.withChild fun inner u hopen => .block ?_) fun _ _ => rfl
        refine hblocks (by simp) _ _ inner u hroom (.alternate branches body span) ?_
        rw [bind_eq_of_left hbranches]
        exact hopen
  | whileLoop test body span =>
    rw [checkStmt]
    refine .nested fun hroom => .reads (checkExpr_reads test henv) fun test' _ htest => ?_
    refine .reads (.of_rule ..) fun _ _ hboolean => ?_
    refine .first (.withChild fun inner v hopen => .block ?_) fun _ _ => rfl
    refine hblocks (by simp) _ _ inner v hroom (.whileLoop test body span) ?_
    rw [bind_eq_of_left htest, bind_eq_of_left hboolean]
    exact hopen
  | forLoop name start stop body span =>
    rw [checkStmt]
    refine .nested fun hroom => .reads (checkExpr_reads start henv) fun start' _ hstart => ?_
    refine .reads (.of_rule ..) fun _ _ hinteger => ?_
    refine .reads (checkExpr_reads stop henv) fun stop' _ hstop => ?_
    refine .reads (.of_rule ..) fun _ _ hinteger' => ?_
    refine .first (loopBody_collects fun inner z hhead => ?_) fun _ _ => rfl
    refine hblocks (by simp) _ _ inner z hroom (.forLoop name start stop body span) ?_
    rw [bind_eq_of_left hstart, bind_eq_of_left hinteger, bind_eq_of_left hstop,
      bind_eq_of_left hinteger']
    exact hhead
  | forEach name typeExpr iterable body span =>
    rw [checkStmt]
    refine .nested fun hroom => .reads (checkExpr_reads iterable henv) fun iterable' _ hiter => ?_
    refine .reads (loopVariableType_reads henv typeExpr iterable') fun ty _ hty => ?_
    refine .first (loopBody_collects fun inner v hhead => ?_) fun _ _ => rfl
    refine hblocks (by simp) _ _ inner v hroom (.forEach name typeExpr iterable body span) ?_
    rw [bind_eq_of_left hiter, bind_eq_of_left hty]
    exact hhead

/-! ### All statements -/

/-- **The check of statements comes to the declaration of a field** of the class `cls`: when the
statements `xs₀` are checked in the scope `id₀`, from the state `s₀`, it comes in the state `u` to a
declaration of the field `f`, in the scope `place`. -/
structure Check.ComesToField (id₀ : ScopeId) (xs₀ : List Stmt) (s₀ : State) (cls : ClassRef)
    (f : String × Ty) (typeExpr : TypeExpr) (place : ScopeId) (u : State) : Prop where
  /-- The declaration is next, and has the name of the field. -/
  comes : ∃ value span ys, Comes id₀ xs₀ s₀ place (.field typeExpr f.1 value span :: ys) u
  /-- It is not nested too deep. -/
  room : u.depth < u.limit
  /-- It stands in a scope of the class. -/
  inside : u.arena.cls? place = some cls
  /-- What is written there is the type of the field. -/
  denotes : convert place typeExpr u.deeper = .ok f.2 u.deeper
  /-- The class has no field of this name yet. -/
  fresh : f.1 ∉ (u.classes.info cls).fields.map Prod.fst

open Check (Comes ComesToField)

/-- What a block of a statement declares for the class around it, the statement does, unless it is
a class itself. -/
theorem Stmt.Way.fieldDecls_subset {x : Stmt} {m : Check ScopeId} {ys : List Stmt}
    (h : x.Way id m ys) (hx : ∀ decl, x ≠ .classDecl decl) : stmtsFieldDecls ys ⊆ x.fieldDecls := by
  cases h with
  | ctor | method => exact absurd rfl (hx _)
  | function name params result body span =>
    rw [Stmt.fieldDecls_function, blockFieldDecls_eq]
    exact List.Subset.refl _
  | branch before test body after alternate span =>
    rw [Stmt.fieldDecls, branchFieldDecls_eq, List.flatMap_append, List.flatMap_cons]
    exact fun d hd => List.mem_append_left _ (List.mem_append_right _ (List.mem_append_left _ hd))
  | alternate branches body span =>
    rw [Stmt.fieldDecls, alternateFieldDecls, blockFieldDecls_eq]
    exact List.subset_append_right _ _
  | whileLoop | forLoop | forEach =>
    rw [Stmt.fieldDecls, blockFieldDecls_eq]
    exact List.Subset.refl _

namespace Check

variable {id₀ : ScopeId} {xs₀ : List Stmt} {s₀ : State} {xs : List Stmt}

/-- The check of statements comes to a declaration, among given ones, of a field. -/
def ComesToOne (id₀ : ScopeId) (xs₀ : List Stmt) (s₀ : State) (cls : ClassRef)
    (decls : List (String × TypeExpr)) (f : String × Ty) : Prop :=
  ∃ typeExpr place u, (f.1, typeExpr) ∈ decls ∧ ComesToField id₀ xs₀ s₀ cls f typeExpr place u

/-- Statements in a row, each of which gains fields only where the check came to their
declarations. -/
theorem Comes.collects_stmts
    (hxs : ∀ x ∈ xs, ∀ {ys s}, Comes id₀ xs₀ s₀ id (x :: ys) s → s.arena.Live id →
      s.arena.cls? id = some cls → cls.id < s.classes.size →
      Collects (checkStmt id x) s cls (ComesToOne id₀ xs₀ s₀ cls x.fieldDecls))
    (h : Comes id₀ xs₀ s₀ id xs s) (hlive : s.arena.Live id) (hscope : s.arena.cls? id = some cls)
    (hcls : cls.id < s.classes.size) :
    Collects (checkStmts id xs) s cls (ComesToOne id₀ xs₀ s₀ cls (stmtsFieldDecls xs)) := by
  induction xs generalizing s with
  | nil =>
    rw [checkStmts]
    exact .of_eq rfl
  | cons x xs ih =>
    obtain ⟨hx, hxs⟩ := List.forall_mem_cons.mp hxs
    rw [checkStmts, stmtsFieldDecls]
    refine .bind ((hx h hlive hscope hcls).mono fun f hf => ?_) fun y t hy => ?_
    · obtain ⟨typeExpr, place, u, hmem, hf⟩ := hf
      exact ⟨typeExpr, place, u, List.mem_append_left _ hmem, hf⟩
    · obtain ⟨hbinds, fields, hgains, -⟩ := (checkStmt_ends x hlive).ok y t hy
      obtain ⟨names, harena⟩ := hbinds.exists_names
      have hgrows : s.arena.Grows id names t.arena := harena ▸ .extend hlive.wellFormed id names
      refine .first ((ih hxs (.next h hy) (hgrows.live hlive) ?_ ?_).mono fun f hf => ?_)
        fun _ _ => rfl
      · exact (hgrows.cls?_eq hlive.lt_size).trans hscope
      · exact hgains.grows.lt_size hcls
      · obtain ⟨typeExpr, place, u, hmem, hf⟩ := hf
        exact ⟨typeExpr, place, u, List.mem_append_right _ hmem, hf⟩

/-- **Where a field was gained, the check came to its declaration.** -/
theorem Comes.collects (x : Stmt) {ys : List Stmt} (h : Comes id₀ xs₀ s₀ id (x :: ys) s)
    (hlive : s.arena.Live id) (hscope : s.arena.cls? id = some cls)
    (hcls : cls.id < s.classes.size) :
    Collects (checkStmt id x) s cls (ComesToOne id₀ xs₀ s₀ cls x.fieldDecls) := by
  induction x using Stmt.bodies_ind generalizing id ys s with
  | step x ih =>
    refine checkStmt_collects hlive hcls ?_ fun hdecl m zs inner t hroom hway hm => ?_
    · rintro typeExpr name value span rfl
      refine (checkStmt_field_collects hlive hscope hcls typeExpr name value span).mono ?_
      rintro ⟨_, ty⟩ ⟨hroom, rfl, hty, hfree⟩
      exact ⟨typeExpr, id, s, List.mem_singleton_self _, ⟨value, span, ys, h⟩, hroom, hscope, hty,
        hfree⟩
    · -- The block stands in the same class, and the check enters it on its way.
      obtain ⟨⟨names, henters⟩, fields, hgains⟩ :=
        (hway.enters (s := s.deeper) hdecl hlive).ok _ _ hm
      obtain ⟨b, hb, rfl⟩ := hway.exists_body
      refine (collects_stmts (fun y hy => ih b hb y hy) (.enter h hroom hway hm)
        (henters.live hlive) (henters.cls?_eq.trans hscope) (hgains.grows.lt_size hcls)).mono ?_
      rintro f ⟨typeExpr, place, u, hmem, hf⟩
      exact ⟨typeExpr, place, u, hway.fieldDecls_subset hdecl hmem, hf⟩

end Check

/-! ### Failure -/

/-- **The class at hand gains the fields whose declarations the check comes to**, and no other class
changes. -/
theorem checkStmt_gains (x : Stmt) (hlive : s.arena.Live id) :
    ∃ fields, s.classes.Gains (s.arena.cls? id) fields [] (Check.after (checkStmt id x) s).classes ∧
      ∀ f ∈ fields, ∃ cls typeExpr place u, s.arena.cls? id = some cls ∧
        (f.1, typeExpr) ∈ x.fieldDecls ∧ ComesToField id [x] s cls f typeExpr place u := by
  have hends : Ends (checkStmt id x) s
      (fun _ _ c => ∃ fields, s.classes.Gains (s.arena.cls? id) fields [] c)
      (fun _ _ c => ∃ fields, s.classes.Gains (s.arena.cls? id) fields [] c) := by
    refine (checkStmt_ends x hlive).mono (fun y b c hb => ?_) fun _ b c he => ?_
    · obtain ⟨-, fields, hgains, -⟩ := hb
      exact ⟨fields, hgains⟩
    · obtain ⟨names, -, -, fields, hgains, -⟩ := he
      exact ⟨fields, hgains⟩
  obtain ⟨fields, hgains⟩ := hends.after
  by_cases hthere : ∃ cls, s.arena.cls? id = some cls ∧ cls.id < s.classes.size
  · obtain ⟨cls, hscope, hcls⟩ := hthere
    obtain ⟨more, hmore, hfields⟩ := Comes.collects x .start hlive hscope hcls
    have hself := (hscope ▸ hgains).info_self hcls
    rw [hself] at hmore
    obtain rfl : fields = more := List.append_cancel_left hmore
    refine ⟨fields, hgains, fun f hf => ?_⟩
    obtain ⟨typeExpr, place, u, hmem, hcomes⟩ := hfields f hf
    exact ⟨cls, typeExpr, place, u, hscope, hmem, hcomes⟩
  · refine ⟨[], hgains.of_size_le fun cls hscope => ?_, List.forall_mem_nil _⟩
    exact Nat.not_lt.mp fun hcls => hthere ⟨cls, hscope, hcls⟩

/-- **A statement that fails** leaves the depth as it was and at least the scopes that
there were, and all scopes are well-formed. The scopes that there were are unchanged,
unless the statement is a function and the failure is that of its body: then the scope at
hand has gained the name of the function, and nothing else. Of the classes that were
there, only the class at hand may have gained members. These are fields, each with the name of a
declaration inside the statement to which the check came before it failed, and with the type that
is written there. -/
theorem checkStmt_failure_leaves (hs : s.arena.WellFormed) (hid : id < s.arena.size) {x : Stmt}
    {failure : Failure} (hrun : checkStmt id x s = .error failure t) :
    t.depth = s.depth ∧ s.arena.size ≤ t.arena.size ∧ t.arena.WellFormed ∧
    ((∀ i < s.arena.size, t.arena.scopes[i]? = s.arena.scopes[i]?) ∧
        (∀ decl, x = .function decl →
          ∀ body, checkStmt id (.function { decl with body }) s = .error failure t) ∨
      ∃ decl entity inner u v, x = .function decl ∧
        u.arena = (s.arena.extend id [(decl.name, entity)]).push inner ∧
        checkBlock s.arena.size decl.body u = .error failure v ∧ v.arena = t.arena ∧
        (∀ i < s.arena.size, i ≠ id → t.arena.scopes[i]? = s.arena.scopes[i]?) ∧
        ∃ scope, s.arena.scopes[id]? = some scope ∧ scope.lookup decl.name = none ∧
          t.arena.scopes[id]? = some (scope.bind decl.name entity)) ∧
    ∃ fields, s.classes.Gains (s.arena.cls? id) fields [] t.classes ∧
      ∀ f ∈ fields, ∃ cls typeExpr place u, s.arena.cls? id = some cls ∧
        (f.1, typeExpr) ∈ x.fieldDecls ∧ ComesToField id [x] s cls f typeExpr place u := by
  have hlive : s.arena.Live id := ⟨hs, hid⟩
  have hdepth := ((checkStmt_nests x id).after_placed s).1
  rw [Check.after, hrun] at hdepth
  obtain ⟨names, hnames, hleaves⟩ := (checkStmt_ends x hlive).error failure t hrun
  obtain ⟨fields, hgains, hfields⟩ := checkStmt_gains x hlive
  rw [Check.after, hrun] at hgains
  refine ⟨hdepth, hleaves.scopes.size_le, hleaves.scopes.wellFormed, ?_, fields, hgains, hfields⟩
  by_cases hx : ∃ decl, x = .function decl
  · obtain ⟨decl, rfl⟩ := hx
    rcases checkStmt_function_error hlive hrun with ⟨hgrows, hany⟩ |
      ⟨entity, inner, u, v, hu, hbody, hv, hfree, hgrows⟩
    · refine .inl ⟨fun i hi => hgrows.scopes_eq hi, fun decl' hdecl => ?_⟩
      cases hdecl
      exact hany
    · have hscope : s.arena.scopes[id]? = some s.arena.scopes[id] := List.getElem?_eq_getElem hid
      refine .inr ⟨decl, entity, inner, u, v, rfl, hu, hbody, hv, fun i hi hne => ?_, _, hscope,
        hfree _ hscope, ?_⟩
      · rw [hgrows.scopes i hi, Arena.getElem?_extend_of_ne _ _ hne]
      · rw [hgrows.scopes id hid, Arena.getElem?_extend_self hscope]
        rfl
  · rcases hnames with rfl | hfunction
    · exact .inl ⟨fun i hi => hleaves.scopes.scopes_eq hi,
        fun decl hdecl => absurd ⟨decl, hdecl⟩ hx⟩
    · exact absurd hfunction hx

/-- When the variable has no value that is known, the function fails in its body. Its name is there
all the same, and so is the field, whose type is the one that is written at its declaration; and the
scope of the function is left behind. -/
theorem harbour_loading_fails : harbour.arena.WellFormed ∧ 1 < harbour.arena.size ∧
    ∃ failure t, checkStmt 1 (loading (.symbol "rum" .null)) harbour = .error failure t ∧
      t.depth = harbour.depth ∧ t.arena.size = 4 ∧ t.arena.WellFormed ∧
      (∃ scope entity, harbour.arena.scopes[1]? = some scope ∧ scope.lookup "load" = none ∧
        t.arena.scopes[1]? = some (scope.bind "load" entity)) ∧
      harbour.classes.Gains (some ⟨0, "Ship"⟩) [("cargo", .int)] [] t.classes ∧
      ∃ place u, ComesToField 1 [loading (.symbol "rum" .null)] harbour ⟨0, "Ship"⟩ ("cargo", .int)
        (.named "int") place u := by
  refine ⟨harbour_wellFormed, by decide, ?_⟩
  obtain ⟨failure, hrun⟩ := Check.exists_run_eq_error
    (m := checkStmt 1 (loading (.symbol "rum" .null))) (s := harbour) (by decide +kernel)
  obtain ⟨t, ht⟩ : ∃ t, t = Check.after (checkStmt 1 (loading (.symbol "rum" .null))) harbour :=
    ⟨_, rfl⟩
  have hsize : t.arena.size = 4 := by
    rw [ht]
    decide +kernel
  have hload : (t.arena.scopes[1]?.bind (·.lookup "load")).isSome = true := by
    rw [ht]
    decide +kernel
  have hnames : (t.classes.info ⟨0, "Ship"⟩).fields.map Prod.fst = ["cargo"] := by
    rw [ht]
    decide +kernel
  have hints : (t.classes.info ⟨0, "Ship"⟩).fields.all (·.2.isInteger) = true := by
    rw [ht]
    decide +kernel
  rw [← ht] at hrun
  obtain ⟨hdepth, -, hwell, hscopes, fields, hgains, hfields⟩ :=
    checkStmt_failure_leaves harbour_wellFormed (by decide) hrun
  -- The class had no fields, so what it has now is what it has gained.
  replace hgains : harbour.classes.Gains (some ⟨0, "Ship"⟩) fields [] t.classes := hgains
  rw [hgains.info_self (by decide)] at hnames hints
  replace hints : fields.all (·.2.isInteger) = true := hints
  obtain rfl : fields = [("cargo", .int)] := by
    obtain ⟨⟨name, ty⟩, rfl, rfl⟩ := List.map_eq_singleton_iff.mp hnames
    obtain rfl : ty = .int := Ty.isInteger_iff.mp (by simpa using hints)
    rfl
  refine ⟨failure, t, hrun, hdepth, hsize, hwell, ?_, hgains, ?_⟩
  · rcases hscopes with ⟨hsame, -⟩ | ⟨decl, entity, -, -, -, hdecl, -, -, -, -, scope, hscope,
      hfree, hbound⟩
    · rw [hsame 1 (by decide)] at hload
      cases hload
    · cases hdecl
      exact ⟨scope, entity, hscope, hfree, hbound⟩
  · obtain ⟨cls, typeExpr, place, u, hcls, hmem, hcomes⟩ := hfields _ List.mem_cons_self
    obtain rfl : (⟨0, "Ship"⟩ : ClassRef) = cls := Option.some.inj hcls
    have hdecls : (loading (.symbol "rum" .null)).fieldDecls = [("cargo", .named "int")] := rfl
    rw [hdecls, List.mem_singleton] at hmem
    obtain rfl : typeExpr = .named "int" := congrArg Prod.snd hmem
    exact ⟨place, u, hcomes⟩

end Shipshape
