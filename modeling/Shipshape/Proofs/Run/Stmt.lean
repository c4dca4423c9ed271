import Shipshape.Proofs.Run.Outcome

/-!
# The run of the check over statements

* `Shipshape.checkStmt_outcome` – every statement runs as it should, by induction over
  statements;
* `Shipshape.checkProgram_outcome` – so a program that is accepted is the result of a
  run that has its outcome;
* `Shipshape.Outcome.stands_of_hasStmt` – what is established about each statement of
  an accepted program, at any depth.

Each statement follows one pattern. The expressions in it are read off the scopes
first, and leave the state as it is; what they are is known from
`Shipshape.Lexical.expr_fits`. Then come the declaration or the blocks, which are
steps, and what was known about the expressions is carried over them.
-/

namespace Shipshape

open Lexical (Env Mirrors)
open Check (Yields)

variable {s : State} {id : ScopeId} {env : Env}

/-! ### Choices -/

theorem checkBranches_outcome {branches : List (Branch Expr Stmt)}
    (hbranches : ∀ b ∈ branches, ∀ x ∈ b.body.body, x.Runs) (h : Mirrors s id env)
    (hs : s.Sound) :
    Yields (checkBranches id branches) s fun bs t =>
      Outcome env.ambient s (bs.flatMap fun b => b.body.body) t ∧ ∀ b ∈ bs, b.test.ty = .bool ∧
        b.test.Throughout (Checked.Expr.Fits t.classes env.ambient) := by
  induction branches generalizing s env with
  | nil =>
    rw [checkBranches]
    exact .pure ⟨.nil env.ambient s, fun _ hb => by cases hb⟩
  | cons branch branches ih =>
    obtain ⟨test, body⟩ := branch
    rw [checkBranches]
    refine .reads (checkExpr_reads test h) fun test htest => ?_
    refine .reads (.of_rule ..) fun _ hbool => ?_
    replace htest := Lexical.expr_fits _ (hs.sees h) htest
    have hinner := checkInner_outcome (hbranches _ List.mem_cons_self) h hs {} rfl
    have hagree : ∀ x ∈ body.body, x.CheckedLexically := fun x _ => checkStmt_agree x
    -- A branch leaves no names behind, so the next one sees what this one saw.
    refine .bind (hinner.and (.of_agree (checkInner_agree hagree h {}))) fun b t hb => ?_
    obtain ⟨hb, -, σ, -, rfl⟩ := hb
    have ih := ih (fun c hc => hbranches c (List.mem_cons_of_mem _ hc)) (h.advance [] σ)
      (hb.reaches.sound hs)
    refine .bind ih fun bs u hbs => .pure ⟨hb.append hbs.1, ?_⟩
    refine List.forall_mem_cons.mpr ⟨⟨Rule.boolean_eq_ok_iff.mp hbool, ?_⟩, hbs.2⟩
    exact htest.mono fun _ hd => hd.mono (hb.reaches.trans hbs.1.reaches).grows

theorem checkAlternate_outcome {alternate : Option (Block Stmt)}
    (halternate : ∀ b ∈ alternate, ∀ x ∈ b.body, x.Runs) (h : Mirrors s id env) (hs : s.Sound) :
    Yields (checkAlternate id alternate) s fun b t =>
      Outcome env.ambient s (b.toList.flatMap Block.body) t := by
  cases alternate with
  | none =>
    rw [checkAlternate]
    exact .pure (.nil env.ambient s)
  | some body =>
    rw [checkAlternate]
    refine .bind (checkInner_outcome (halternate body rfl) h hs {} rfl) fun b t hb => .pure ?_
    rw [Option.toList_some, List.flatMap_singleton]
    exact hb

/-! ### Statements -/

theorem State.Sound.settled (hs : s.Sound) : s.classes.Settled :=
  fun c hc => (hs.classes c hc).settled

namespace Outcome

/-- The outcome of one statement, from its own rule and what is in its blocks. -/
theorem single {a : Ambient} {t : State} {x : Checked.Stmt} (hreach : Reaches s t)
    (hstands : x.Stands s t a)
    (hblocks : ∀ b ∈ x.blocks a, ∀ y ∈ b.2.body, y.Throughout (Checked.Stmt.Stands s t) b.1)
    (hgains : s.classes.Gains a.cls x.fields [] t.classes) : Outcome a s [x] t := by
  refine ⟨hreach, List.forall_mem_singleton.mpr (.intro hstands hblocks), ?_⟩
  rw [Checked.stmtsFields, Checked.stmtsFields, List.append_nil]
  exact hgains

/-- The outcome of a statement without blocks that leaves the classes alone. -/
theorem leaf {a : Ambient} {t : State} {x : Checked.Stmt} (hreach : Reaches s t)
    (hclasses : t.classes = s.classes) (hfits : x.Fits s.classes a) (hblocks : x.blocks a = [])
    (hfields : x.fields = []) : Outcome a s [x] t := by
  refine .single hreach ⟨by rw [hclasses]; exact hfits, fun c hc => ?_⟩ (fun b hb => ?_) ?_
  · subst hc
    cases hblocks
  · rw [hblocks] at hb
    cases hb
  · rw [hfields, hclasses]
    exact .refl s.classes a.cls

/-- The outcome of a statement with one block, whose fields are those of the
block. -/
theorem block {a inner : Ambient} {t : State} {x : Checked.Stmt} {b : Block Checked.Stmt}
    (hb : Outcome inner s b.body t) (hfits : x.Fits t.classes a)
    (hclass : ∀ c, x ≠ .classDecl c) (hblocks : x.blocks a = [(inner, b)])
    (hcls : inner.cls = a.cls) (hfields : x.fields = Checked.blockFields b) :
    Outcome a s [x] t := by
  refine .single hb.reaches ⟨hfits, fun c hc => (hclass c hc).elim⟩ ?_ ?_
  · rw [hblocks]
    exact List.forall_mem_singleton.mpr hb.stands
  · rw [hfields, Checked.blockFields_eq, ← hcls]
    exact hb.gains

/-- A statement is checked one level deeper than where it stands. -/
theorem nested {span : Span} {act : Check Checked.Stmt} (h : Mirrors s id env) (hs : s.Sound)
    (hact : ∀ u env', Mirrors u id env' → u.Sound →
      Yields act u fun y t => Outcome env'.ambient u [y] t) :
    Yields (Check.nested span act) s fun y t => Outcome env.ambient s [y] t := by
  have hdown : Reaches s s.deeper := .single (.depth _)
  refine .nested ((hact s.deeper _ h.deeper (hdown.sound hs)).mono fun y t hy => ?_)
  exact hy.extend hdown rfl (.single (.depth _)) rfl

end Outcome

/-- **The check of a statement has the outcome that it should have.** -/
theorem checkStmt_outcome (x : Stmt) : x.Runs := by
  intro s id env h hs
  induction x generalizing s id env with
  | var name typeExpr value span =>
    rw [checkStmt]
    refine Outcome.nested h hs fun s env h hs => .reads (checkExpr_reads value h) fun v hv => ?_
    replace hv := Lexical.expr_fits value (hs.sees h) hv
    refine .reads (variableType_reads h typeExpr v) fun ty hty => .newEntity fun n => ?_
    obtain ⟨hsettled, hfit⟩ :=
      Lexical.variableType_settled (hs.sees h) (hv.grounded hs.settled).self hty
    refine .declare h.fresh.sees (.of_value rfl rfl hsettled) fun hstep => .pure ?_
    have hreach := Reaches.trans (.single .newEntity) (.single hstep)
    refine .leaf hreach rfl ⟨⟨⟨name, rfl⟩, hfit⟩, ?_, ?_⟩ rfl rfl
    · exact List.forall_mem_singleton.mpr hv
    · exact List.forall_mem_singleton.mpr (.of_value rfl hsettled)
  | function decl ih =>
    rw [checkStmt]
    refine Outcome.nested h hs fun s env h hs => ?_
    refine .bind (checkFunction_outcome ih (fun _ hc => by cases hc) h hs) fun f t hf => .pure ?_
    obtain ⟨m, -, hgain, -⟩ := hf.gains
    refine .single hf.reaches ⟨⟨hf.typed, fun _ he => (by cases he), hf.settled⟩,
      fun _ hc => by cases hc⟩ ?_ ?_
    · exact List.forall_mem_singleton.mpr hf.stands
    · rw [Checked.fields_function]
      exact hgain
  | classDecl decl ihb ihm =>
    rw [checkStmt]
    refine Outcome.nested h hs fun s env h hs => ?_
    refine .bind (checkClass_outcome ihb ihm h hs).run fun c t hc => .pure ?_
    obtain ⟨hrun, hc⟩ := hc
    refine .single hc.reaches ⟨⟨hc.typed, fun _ he => (by cases he), hc.settled⟩, ?_⟩ hc.stands ?_
    · rintro _ ⟨⟩
      exact ⟨id, decl, s, t, .refl s, hrun, hc.written, hc.isSealed, .refl t⟩
    · exact hc.gains
  | field typeExpr name value span =>
    rw [checkStmt]
    refine Outcome.nested h hs fun s env h hs => .scope h fun scope hframe => ?_
    have hscope : scope.cls = env.ambient.cls := congrArg (·.ambient.cls) hframe
    rw [hscope]
    refine .reads (.require ..) fun cls hcls => .reads (checkExpr_reads value h) fun v hv => ?_
    replace hcls := Lexical.require_eq_ok_iff.mp hcls
    replace hv := Lexical.expr_fits value (hs.sees h) hv
    refine .reads (convert_reads h typeExpr) fun ty hty => .reads (.of_rule ..) fun _ hfit => ?_
    replace hty := (hs.sees h).settled_convert hty
    replace hfit := Rule.assignable_eq_ok_iff.mp hfit
    refine .addField fun classes hadd => .newEntity fun n => ?_
    -- The scope at hand lies in the class that gains the field.
    obtain ⟨live, hlive, hlframe⟩ := h.exists_scope
    have hlcls : live.cls = some cls := (congrArg (·.ambient.cls) hlframe).trans hcls
    have hfield := Reaches.single (Step.addField hlive hlcls hty hadd)
    have hgain := ClassTable.gains_of_addField? hadd
    obtain ⟨hfree, -⟩ := ClassTable.addField?_eq_some hadd
    have hfound : (classes.info cls).field? name = some ty := by
      rw [hgain.info_self (hs.cls live hlive cls hlcls)]
      exact ClassInfo.lookup_concat_of_notMem hfree ty
    refine .declare (s := State.fresh { s with classes }) h.sees (.of_value rfl rfl hty)
      fun hstep => .pure ?_
    have hreach := hfield.trans (.trans (.single .newEntity) (.single hstep))
    refine .single hreach ⟨⟨⟨hfit, name, cls, rfl, hcls, hfound⟩, ?_, ?_⟩,
      fun _ hc => by cases hc⟩ (fun _ hb => by cases hb) ?_
    · exact List.forall_mem_singleton.mpr (hv.mono fun _ hd => hd.mono hgain.grows)
    · exact List.forall_mem_singleton.mpr (.of_value rfl hty)
    · rw [hcls]
      exact hgain
  | assign target value span =>
    rw [checkStmt]
    refine Outcome.nested h hs fun s env h hs => .reads (checkExpr_reads value h) fun v hv => ?_
    refine .reads (checkExpr_reads target h) fun e he => .reads (.of_rule ..) fun _ hfit => .pure ?_
    replace hv := Lexical.expr_fits value (hs.sees h) hv
    replace he := Lexical.expr_fits target (hs.sees h) he
    replace hfit := Rule.assignable_eq_ok_iff.mp hfit
    refine .leaf (.refl s) rfl ⟨hfit, ?_, fun _ he => by cases he⟩ rfl rfl
    exact List.forall_mem_cons.mpr ⟨he, List.forall_mem_singleton.mpr hv⟩
  | print value span =>
    rw [checkStmt]
    refine Outcome.nested h hs fun s env h hs => ?_
    refine .reads (checkExpr_reads value h) fun v hv => .pure ?_
    replace hv := Lexical.expr_fits value (hs.sees h) hv
    refine .leaf (.refl s) rfl ⟨trivial, ?_, fun _ he => by cases he⟩ rfl rfl
    exact List.forall_mem_singleton.mpr hv
  | expr value span =>
    rw [checkStmt]
    refine Outcome.nested h hs fun s env h hs => ?_
    refine .reads (checkExpr_reads value h) fun v hv => .pure ?_
    replace hv := Lexical.expr_fits value (hs.sees h) hv
    refine .leaf (.refl s) rfl ⟨trivial, ?_, fun _ he => by cases he⟩ rfl rfl
    exact List.forall_mem_singleton.mpr hv
  | ifElse branches alternate span ihb iha =>
    rw [checkStmt]
    refine Outcome.nested h hs fun s env h hs => ?_
    have hagree : ∀ b ∈ branches, ∀ x ∈ b.body.body, x.CheckedLexically :=
      fun _ _ x _ => checkStmt_agree x
    refine .bind ((checkBranches_outcome ihb h hs).and (.of_agree (checkBranches_agree hagree h)))
      fun bs t hbs => ?_
    obtain ⟨⟨hbs, htests⟩, -, σ, -, rfl⟩ := hbs
    refine .bind (checkAlternate_outcome iha (h.advance [] σ) (hbs.reaches.sound hs))
      fun b u hb => .pure ?_
    have hall := hbs.append hb
    refine .single hall.reaches ⟨⟨fun c hc => (htests c hc).1, ?_, fun _ he => by cases he⟩,
      fun _ hc => by cases hc⟩ ?_ ?_
    · intro e he
      obtain ⟨c, hc, rfl⟩ := List.mem_map.mp he
      exact (htests c hc).2.mono fun _ hd => hd.mono hb.reaches.grows
    · -- A block is that of a branch or the alternate one; both were checked on the way.
      intro block hblock y hy
      rcases List.mem_append.mp hblock with hblock | hblock
      · obtain ⟨c, hc, rfl⟩ := List.mem_map.mp hblock
        exact hall.stands y (List.mem_append_left _ (List.mem_flatMap.mpr ⟨c, hc, hy⟩))
      · obtain ⟨c, hc, rfl⟩ := List.mem_map.mp hblock
        exact hall.stands y (List.mem_append_right _ (List.mem_flatMap.mpr ⟨c, hc, hy⟩))
    · have hgains := hall.gains
      rw [Checked.stmtsFields_append, ← Checked.branchFields_eq,
        ← Checked.alternateFields_eq] at hgains
      exact hgains
  | whileLoop test body span ih =>
    rw [checkStmt]
    refine Outcome.nested h hs fun s env h hs => .reads (checkExpr_reads test h) fun e he => ?_
    refine .reads (.of_rule ..) fun _ hbool => ?_
    replace he := Lexical.expr_fits test (hs.sees h) he
    refine .bind (checkInner_outcome ih h hs { inLoop := some true } rfl) fun b t hb => .pure ?_
    refine .block hb ⟨Rule.boolean_eq_ok_iff.mp hbool, ?_, fun _ he => by cases he⟩
      (fun _ hc => by cases hc) rfl rfl (by rw [Checked.Stmt.fields])
    exact List.forall_mem_singleton.mpr (he.mono fun _ hd => hd.mono hb.reaches.grows)
  | forLoop name start stop body span ih =>
    rw [checkStmt]
    refine Outcome.nested h hs fun s env h hs => .reads (checkExpr_reads start h) fun e he => ?_
    refine .reads (.of_rule ..) fun _ hint => .reads (checkExpr_reads stop h) fun d hd => ?_
    refine .reads (.of_rule ..) fun _ hint' => ?_
    replace he := Lexical.expr_fits start (hs.sees h) he
    replace hd := Lexical.expr_fits stop (hs.sees h) hd
    have hsettled : Ty.Settled .int := .scalar (by decide)
    refine .bind (loopBody_outcome ih name hsettled span h hs) fun r t hr => .pure ?_
    obtain ⟨entity, b⟩ := r
    obtain ⟨hentity, hb⟩ := hr
    have hint := Rule.integer_eq_ok_iff.mp hint
    have hint' := Rule.integer_eq_ok_iff.mp hint'
    refine .block hb ⟨⟨⟨name, hentity⟩, hint, hint'⟩, ?_, ?_⟩ (fun _ hc => by cases hc) rfl rfl
      (by rw [Checked.Stmt.fields])
    · refine List.forall_mem_cons.mpr ⟨he.mono fun _ hf => hf.mono hb.reaches.grows, ?_⟩
      exact List.forall_mem_singleton.mpr (hd.mono fun _ hf => hf.mono hb.reaches.grows)
    · exact List.forall_mem_singleton.mpr (.of_value (by rw [Entity.valueType?, hentity]) hsettled)
  | forEach name typeExpr iterable body span ih =>
    rw [checkStmt]
    refine Outcome.nested h hs fun s env h hs => .reads (checkExpr_reads iterable h) fun e he => ?_
    refine .reads (loopVariableType_reads h typeExpr e) fun ty hty => ?_
    replace he := Lexical.expr_fits iterable (hs.sees h) he
    obtain ⟨hsettled, element, hiter, hfit⟩ :=
      Lexical.loopVariableType_settled (hs.sees h) (he.grounded hs.settled).self hty
    refine .bind (loopBody_outcome ih name hsettled span h hs) fun r t hr => .pure ?_
    obtain ⟨entity, b⟩ := r
    obtain ⟨hentity, hb⟩ := hr
    refine .block hb ⟨⟨name, ty, element, hentity, hiter, hfit⟩, ?_, ?_⟩ (fun _ hc => by cases hc)
      rfl rfl (by rw [Checked.Stmt.fields])
    · exact List.forall_mem_singleton.mpr (he.mono fun _ hf => hf.mono hb.reaches.grows)
    · exact List.forall_mem_singleton.mpr (.of_value (by rw [Entity.valueType?, hentity]) hsettled)
  | breakLoop span =>
    rw [checkStmt]
    refine Outcome.nested h hs fun s env h hs => .scope h fun scope hframe => ?_
    have hloop : scope.inLoop = env.ambient.inLoop := congrArg (·.ambient.inLoop) hframe
    rw [hloop]
    by_cases hin : env.ambient.inLoop = true
    · rw [if_pos hin]
      refine .pure (.leaf (.refl s) rfl ⟨hin, ?_, ?_⟩ rfl rfl)
      · exact fun _ he => by cases he
      · exact fun _ he => by cases he
    · rw [if_neg hin]
      exact fun _ _ ha => by cases ha
  | ret value span =>
    rw [checkStmt]
    refine Outcome.nested h hs fun s env h hs => .scope h fun scope hframe => ?_
    have hfn : scope.function = env.ambient.function := congrArg (·.ambient.function) hframe
    rw [hfn]
    refine .reads (.require ..) fun f hf => .reads (checkReturn_reads h f value span) fun v hv => ?_
    obtain ⟨hreturns, hv⟩ := Lexical.returned_fits (hs.sees h) hv
    replace hf := Lexical.require_eq_ok_iff.mp hf
    refine .pure (.leaf (.refl s) rfl ⟨⟨f, hf, hreturns⟩, hv, ?_⟩ rfl rfl)
    exact fun _ he => by cases he

/-! ### Programs -/

/-- A program that is accepted is the result of a run from the initial state, which
ends with the classes of the checked program and has the outcome that it should
have. -/
theorem checkProgram_outcome {limit : Nat} {p : Program} {t : Checked.Program}
    (h : checkProgram limit p = .ok t) : ∃ last,
      checkStmts Arena.root p.body (.initial limit) = .ok t.body last ∧
      last.classes = t.classes ∧ Outcome .top (.initial limit) t.body last := by
  rw [checkProgram] at h
  cases hrun : checkStmts Arena.root p.body (.initial limit) with
  | error e u =>
    rw [hrun] at h
    cases h
  | ok body last =>
    rw [hrun] at h
    cases h
    have hall : ∀ x ∈ p.body, x.Runs := fun x _ => checkStmt_outcome x
    have hyields := checkStmts_outcome hall (Lexical.mirrors_initial limit)
      (State.sound_initial limit)
    exact ⟨last, rfl, rfl, hyields body last hrun⟩

/-- Every statement of a program that is accepted is as it should be. -/
theorem Outcome.stands_of_hasStmt {t : Checked.Program} {s last : State}
    (h : Outcome .top s t.body last) {a : Ambient} {x : Checked.Stmt} (hx : t.HasStmt a x) :
    x.Stands s last a :=
  Checked.Program.of_hasStmt h.stands hx

end Shipshape
