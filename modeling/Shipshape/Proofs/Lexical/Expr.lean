import Shipshape.Check.Expr
import Shipshape.Check.TypeExpr
import Shipshape.Proofs.Induction
import Shipshape.Proofs.Lexical.Chain
import Shipshape.Proofs.Lexical.Check

/-!
# Expressions are checked lexically

Checking an expression or a type expression changes nothing, whether it succeeds or
fails, and its result is that of the lexical checker.

* `Shipshape.Lexical.Mirrors` – an environment is what a scope sees in a state;
* `Shipshape.Check.Reads` – a computation leaves a state alone and has a given
  result there;
* `Shipshape.checkExpr_reads`, `Shipshape.convert_reads` – expressions and type
  expressions are read in this sense.

`Shipshape.Check.Reads` goes through sequencing and nesting, so each kind of
expression takes one step for each of its parts.
-/

namespace Shipshape

open Lexical (Env)

/-- **An environment is what a scope sees**: the frames are those of the scope and
of the scopes around it, and the nesting is that of the state. -/
structure Lexical.Mirrors (s : State) (id : ScopeId) (env : Env) : Prop where
  /-- The frames. -/
  sees : s.arena.Sees id env.frames
  /-- The nesting. -/
  level : env.level = s.depth
  /-- The nesting that is allowed. -/
  limit : env.limit = s.limit

open Lexical (Mirrors)

/-- The state one level deeper. -/
def State.deeper (s : State) : State := { s with depth := s.depth + 1 }

namespace Lexical.Mirrors

variable {s : State} {id : ScopeId} {env : Env}

/-- What is seen one level deeper. -/
theorem deeper (h : Mirrors s id env) :
    Mirrors s.deeper id { env with level := env.level + 1 } :=
  ⟨h.sees, congrArg (· + 1) h.level, h.limit⟩

/-- **The levels of a state and of what is seen in it run out together.** -/
theorem descend (h : Mirrors s id env) (span : Span) :
    env.descend span = if s.depth < s.limit then .ok { env with level := env.level + 1 }
      else .error (.located (.nestingTooDeep s.limit) span) := by
  rw [Env.descend, h.level, h.limit]

end Lexical.Mirrors

namespace Check

variable {α β : Type} {s : State} {id : ScopeId} {env : Env}

/-- **A computation that only reads** a state: it leaves the state as it is and has
the result `x` there. -/
def Reads (m : Check α) (s : State) (x : Except Diagnostic α) : Prop := m s = ofRule x s

theorem Reads.of_rule (x : Except Diagnostic α) (s : State) : Reads (ofRule x) s x := rfl

theorem Reads.pure (a : α) (s : State) : Reads (pure a) s (pure a) := rfl

theorem Reads.require (value : Option α) (cause : Cause) (span : Span) (s : State) :
    Reads (require value cause span) s (Lexical.require value cause span) := by
  cases value <;> rfl

/-- Reading one thing after another is reading. -/
theorem Reads.bind {m : Check α} {f : α → Check β} {x : Except Diagnostic α}
    {g : α → Except Diagnostic β} (hm : Reads m s x) (hf : ∀ a, Reads (f a) s (g a)) :
    Reads (m >>= f) s (x >>= g) := by
  cases x with
  | ok a =>
    have hm : m s = .ok a s := hm
    have hbind : (m >>= f) s = f a s := by simp [Bind.bind, EStateM.bind, hm]
    exact hbind.trans (hf a)
  | error d =>
    have hm : m s = .error (.refused d) s := hm
    show (m >>= f) s = .error (.refused d) s
    simp [Bind.bind, EStateM.bind, hm]

/-- Reading one level deeper is reading. -/
theorem Reads.nested {m : Check α} {g : Env → Except Diagnostic α} {span : Span}
    (h : Mirrors s id env)
    (hm : ∀ env', Mirrors s.deeper id env' → Reads m s.deeper (g env')) :
    Reads (nested span m) s (env.descend span >>= g) := by
  rw [h.descend span]
  by_cases hlt : s.depth < s.limit
  · have hm : m { s with depth := s.depth + 1 } = _ := hm _ h.deeper
    rw [if_pos hlt]
    show Check.nested span m s = ofRule (g { env with level := env.level + 1 }) s
    rw [Check.nested, if_pos hlt, hm]
    cases g { env with level := env.level + 1 } <;> simp [ofRule, State.deeper]
  · rw [if_neg hlt]
    show Check.nested span m s = .error (.refused (.located (.nestingTooDeep s.limit) span)) s
    rw [Check.nested, if_neg hlt]

/-- Looking a name up is reading. -/
theorem Reads.resolve (h : Mirrors s id env) (name : String) (span : Span) :
    Reads (resolve id name span) s (env.resolve name span) := by
  rw [Reads, Check.resolve, Arena.resolve_eq h.sees]
  cases env.resolve name span <;> rfl

/-- Looking at a scope is reading what surrounds it. -/
theorem Reads.scope (h : Mirrors s id env) {f : Scope → Check β} {x : Except Diagnostic β}
    (hf : ∀ scope : Scope, scope.frame = env.frame → Reads (f scope) s x) :
    Reads (scope id >>= f) s x := by
  obtain ⟨scope, hs, hframe⟩ := h.sees.get
  have hbind : (Check.scope id >>= f) s = f scope s := by
    simp [Bind.bind, EStateM.bind, Check.scope, hs]
  exact hbind.trans (hf scope hframe)

end Check

open Check (Reads)

variable {s : State} {id : ScopeId} {env : Env}

/-! ### Type expressions -/

theorem convertList_reads {as : List TypeExpr}
    (has : ∀ a ∈ as, Reads (convert id a) s (env.convert a)) :
    Reads (convertList id as) s (env.convertList as) := by
  induction as with
  | nil => rw [convertList, Env.convertList]; exact .pure ..
  | cons a as ih =>
    rw [convertList, Env.convertList]
    refine .bind (has a List.mem_cons_self) fun ty => ?_
    exact .bind (ih fun p hp => has p (List.mem_cons_of_mem _ hp)) fun tys => .pure ..

/-- **A type expression is read lexically.** -/
theorem convert_reads (h : Mirrors s id env) (a : TypeExpr) :
    Reads (convert id a) s (env.convert a) := by
  induction a with
  | name name span =>
    rw [convert, Env.convert]
    exact .bind (.resolve h name span) fun entity => .require ..
  | array element ih =>
    rw [convert, Env.convert]
    exact .bind ih fun ty => .pure ..
  | map key value ihk ihv =>
    rw [convert, Env.convert]
    exact .bind ihk fun k => .bind ihv fun v => .pure ..
  | function params result ihps ihr =>
    rw [convert, Env.convert]
    exact .bind (convertList_reads ihps) fun ps => .bind ihr fun r => .pure ..

theorem convertResult_reads (h : Mirrors s id env) (result : Option TypeExpr) :
    Reads (convertResult id result) s (env.convertResult result) := by
  cases result with
  | none => exact .pure ..
  | some typeExpr => exact convert_reads h typeExpr

theorem convertParams_reads (h : Mirrors s id env) (params : List Param) :
    Reads (convertParams id params) s (env.convertParams params) :=
  convertList_reads fun a _ => convert_reads h a

/-! ### Expressions -/

/-- An expression is read lexically, in every state and environment that agree. -/
def Expr.ReadLexically (e : Expr) : Prop :=
  ∀ {s : State} {id : ScopeId} {env : Env}, Mirrors s id env →
    Reads (checkExpr id e) s (Lexical.expr env s.classes e)

theorem checkExprs_reads (h : Mirrors s id env) {es : List Expr}
    (hes : ∀ e ∈ es, e.ReadLexically) :
    Reads (checkExprs id es) s (Lexical.exprs env s.classes es) := by
  induction es with
  | nil => rw [checkExprs, Lexical.exprs]; exact .pure ..
  | cons e es ih =>
    rw [checkExprs, Lexical.exprs]
    refine .bind (hes e List.mem_cons_self h) fun e' => ?_
    exact .bind (ih fun e he => hes e (List.mem_cons_of_mem _ he)) fun es' => .pure ..

theorem passArguments_reads {signature : Signature} {span : Span}
    {m : Check (List Checked.Expr)} {x : Except Diagnostic (List Checked.Expr)}
    (hm : Reads m s x) :
    Reads (passArguments signature span m) s (Lexical.passed signature span x) := by
  rw [passArguments, Lexical.passed]
  exact .bind hm fun args => .bind (.of_rule ..) fun _ => .pure ..

theorem checkEntries_reads (h : Mirrors s id env) {items : List (Expr × Expr)}
    (hes : ∀ p ∈ items, p.1.ReadLexically ∧ p.2.ReadLexically) (key value : Ty) :
    Reads (checkEntries id key value items) s
      (Lexical.entries env s.classes key value items) := by
  induction items generalizing key value with
  | nil => rw [checkEntries, Lexical.entries]; exact .pure ..
  | cons item items ih =>
    obtain ⟨k, v⟩ := item
    obtain ⟨hk, hv⟩ := hes (k, v) List.mem_cons_self
    have ih := ih fun p hp => hes p (List.mem_cons_of_mem _ hp)
    rw [checkEntries, Lexical.entries]
    refine .bind (hk h) fun k' => .bind (hv h) fun v' => ?_
    refine .bind (.of_rule ..) fun key' => .bind (.of_rule ..) fun value' => ?_
    exact .bind (ih key' value') fun r => .pure ..

/-- What is known about a class is read off the state. -/
theorem Check.Reads.classInfo {β : Type} {f : ClassInfo → Check β} {x : Except Diagnostic β}
    {cls : ClassRef} (hf : Reads (f (s.classes.info cls)) s x) :
    Reads (Check.classInfo cls >>= f) s x := hf

/-- **Expressions are checked lexically**: checking one changes nothing, and gives
what the lexical checker gives. -/
theorem checkExpr_reads (e : Expr) : e.ReadLexically := by
  intro s id env h
  -- In each case both checkers descend first and then take the same parts in order;
  -- no part changes the state that the next one is read in.
  induction e generalizing s id env with
  | literal value span =>
    rw [checkExpr, Lexical.expr]
    exact .nested h fun env' h' => .pure ..
  | symbol name span =>
    rw [checkExpr, Lexical.expr]
    refine .nested h fun env' h' => .bind (.resolve h' name span) fun entity => ?_
    exact .bind (.require ..) fun ty => .pure ..
  | self span =>
    rw [checkExpr, Lexical.expr]
    refine .nested h fun env' h' => .scope h' fun scope hframe => ?_
    have hcls : scope.cls = env'.ambient.cls := congrArg (·.ambient.cls) hframe
    rw [hcls]
    exact .bind (.require ..) fun cls => .pure ..
  | binary op left right span ihl ihr =>
    rw [checkExpr, Lexical.expr]
    refine .nested h fun env' h' => .bind (ihl h') fun l => .bind (ihr h') fun r => ?_
    exact .bind (.of_rule ..) fun ty => .pure ..
  | unary op operand span ih =>
    rw [checkExpr, Lexical.expr]
    refine .nested h fun env' h' => .bind (ih h') fun x => ?_
    exact .bind (.of_rule ..) fun ty => .pure ..
  | conditional test consequent alternate span iht ihc iha =>
    rw [checkExpr, Lexical.expr]
    refine .nested h fun env' h' => .bind (iht h') fun t => .bind (.of_rule ..) fun _ => ?_
    refine .bind (ihc h') fun x => .bind (iha h') fun y => ?_
    exact .bind (.of_rule ..) fun ty => .pure ..
  | call callee args span ihc ihs =>
    rw [checkExpr, Lexical.expr]
    refine .nested h fun env' h' => .bind (ihc h') fun f => .bind (.of_rule ..) fun sig => ?_
    exact .bind (passArguments_reads (checkExprs_reads h' ihs)) fun xs => .pure ..
  | subscript array index span iha ihi =>
    rw [checkExpr, Lexical.expr]
    refine .nested h fun env' h' => .bind (iha h') fun x => .bind (ihi h') fun i => ?_
    exact .bind (.of_rule ..) fun ty => .pure ..
  | array elements span ihs =>
    rw [checkExpr, Lexical.expr]
    refine .nested h fun env' h' => .bind (checkExprs_reads h' ihs) fun xs => ?_
    exact .bind (.of_rule ..) fun ty => .pure ..
  | map items span ihs =>
    rw [checkExpr, Lexical.expr]
    refine .nested h fun env' h' => ?_
    exact .bind (checkEntries_reads h' ihs .any .any) fun r => .pure ..
  | member object name span ih =>
    rw [checkExpr, Lexical.expr]
    refine .nested h fun env' h' => .bind (ih h') fun x => .bind (.of_rule ..) fun cls => ?_
    exact .classInfo (.bind (.require ..) fun ty => .pure ..)
  | methodCall object name args span ih ihs =>
    rw [checkExpr, Lexical.expr]
    refine .nested h fun env' h' => .bind (ih h') fun x => .bind (.of_rule ..) fun cls => ?_
    refine .classInfo (.bind (.require ..) fun sig => ?_)
    exact .bind (passArguments_reads (checkExprs_reads h' ihs)) fun xs => .pure ..
  | construct className args span ihs =>
    rw [checkExpr, Lexical.expr]
    refine .nested h fun env' h' => .bind (.resolve h' className span) fun entity => ?_
    refine .bind (.require ..) fun cls => .classInfo ?_
    exact .bind (passArguments_reads (checkExprs_reads h' ihs)) fun xs => .pure ..

end Shipshape
