import Shipshape.Proofs.Arguments
import Shipshape.Proofs.Mismatch.Rule
import Shipshape.Proofs.Run.Trace

/-!
# Where a mismatch comes from

A program may be refused because one type stands where another is needed. The two types are those
of parts of the program, in the state in which the check comes to these parts, or the type that is
written beside them.

* `Shipshape.Expr.Compares`, `Shipshape.Stmt.Compares` – two types are compared in the check of an
  expression, or of a statement apart from its blocks;
* `Shipshape.Check.ComesToComparison` – the check of statements comes to a statement in which two
  types are compared;
* `Shipshape.checkExpr_opposes` – a mismatch with which an expression is refused opposes two types
  that are compared in it;
* `Shipshape.checkStmt_opposes`, `Shipshape.checkProgram_opposes` – a mismatch with which a
  statement or a program is refused opposes two types that are compared on the way.

Types are compared in a few places only: operands, the arms of a conditional, the elements of a
literal, arguments and parameters, and a value and what it is for. That these are all is what the
induction shows, and not what the definitions say.
-/

namespace Shipshape

variable {α : Type} {s t : State} {id : ScopeId} {C D : Ty → Ty → Prop}

open Diagnostic (AdmitsPlain)
open Check (Traces)

/-! ### What is compared -/

/-- **Two types are compared in the check of an expression**, in the scope `id` and from the given
state: they are the types of parts of the expression, or of arguments and their parameters. -/
inductive Expr.Compares (id : ScopeId) : State → Expr → Ty → Ty → Prop
  /-- In a part of the expression. -/
  | part {s : State} {c e : Expr} {expected received : Ty} :
      c ∈ e.parts → Compares id s.deeper c expected received → Compares id s e expected received
  /-- The operands of an operator. -/
  | operands {s : State} {left right : Expr} {left' right' : Checked.Expr} (op : BinaryOp)
      (span : Span) :
      s.deeper.Checks id left left' → s.deeper.Checks id right right' →
      Compares id s (.binary op left right span) left'.ty right'.ty
  /-- The arms of a conditional. -/
  | arms {s : State} {consequent alternate : Expr} {consequent' alternate' : Checked.Expr}
      (test : Expr) (span : Span) :
      s.deeper.Checks id consequent consequent' → s.deeper.Checks id alternate alternate' →
      Compares id s (.conditional test consequent alternate span) consequent'.ty alternate'.ty
  /-- An element of an array, with what the elements before it share. -/
  | element {s : State} {elements : List Expr} {before after : List Checked.Expr}
      {e' : Checked.Expr} {shared : Ty} (span : Span) :
      List.Forall₂ (s.deeper.Checks id) elements (before ++ e' :: after) →
      (before.map Checked.Expr.ty).foldlM Ty.common .any = some shared →
      Compares id s (.array elements span) shared e'.ty
  /-- A key of a map, with what the keys before it share. -/
  | key {s : State} {before : List (Expr × Expr)} {before' : List (Checked.Expr × Checked.Expr)}
      {key value : Ty} {k v : Expr} {k' : Checked.Expr} (after : List (Expr × Expr)) (span : Span) :
      checkEntries id .any .any before s.deeper = .ok (before', key, value) s.deeper →
      s.deeper.Checks id k k' → Compares id s (.map (before ++ (k, v) :: after) span) key k'.ty
  /-- A value of a map, with what the values before it share. -/
  | value {s : State} {before : List (Expr × Expr)} {before' : List (Checked.Expr × Checked.Expr)}
      {key value : Ty} {k v : Expr} {v' : Checked.Expr} (after : List (Expr × Expr)) (span : Span) :
      checkEntries id .any .any before s.deeper = .ok (before', key, value) s.deeper →
      s.deeper.Checks id v v' → Compares id s (.map (before ++ (k, v) :: after) span) value v'.ty
  /-- A parameter and its argument, in a call of any form. -/
  | argument {s : State} {signature : Signature} {args : List Expr} {e : Expr}
      {node : List Checked.Expr → Checked.Expr} {args' : List Checked.Expr}
      {pair : Ty × Checked.Expr} :
      s.Calls id signature args e node → List.Forall₂ (s.deeper.Checks id) args args' →
      pair ∈ signature.params.zip args' → Compares id s e pair.1 pair.2.ty

/-- **Two types are compared in the check of a statement**, apart from its blocks. The state is `s`
one level deeper than the statement. -/
inductive Stmt.Compares (id : ScopeId) (s : State) (x : Stmt) : Ty → Ty → Prop
  /-- In an expression of the statement. -/
  | expr {e : Expr} {t : State} {expected received : Ty} :
      x.Asks id s (.expr e) t → e.Compares id t expected received →
      Compares id s x expected received
  /-- The type of a value, with that of the place that it is for. -/
  | value {value : Checked.Expr} {target : Ty} {t : State} :
      x.Asks id s (.assignable value target) t → Compares id s x target value.ty
  /-- The type of elements that are run over, with the one that is written. -/
  | element {iterable : Checked.Expr} {element declared : Ty} {t : State} :
      x.Asks id s (.declaredElement iterable element declared) t →
      Compares id s x declared element

/-- **The check of statements comes to a comparison**: when the statements `xs₀` are checked in the
scope `id₀`, from the state `s₀`, it comes to a statement in which the two types are compared. -/
def Check.ComesToComparison (id₀ : ScopeId) (xs₀ : List Stmt) (s₀ : State)
    (expected received : Ty) : Prop :=
  ∃ id x xs s, Comes id₀ xs₀ s₀ id (x :: xs) s ∧ s.depth < s.limit ∧
    x.Compares id s.deeper expected received

/-- **The diagnostic opposes compared types** if it is about two types at all. -/
def Diagnostic.OpposesCompared (compared : Ty → Ty → Prop) (d : Diagnostic) : Prop :=
  d.cause.isMismatch = true →
    ∃ expected received, compared expected received ∧ d.Opposes expected received

namespace Diagnostic

theorem OpposesCompared.mono {d : Diagnostic} (h : d.OpposesCompared C)
    (hC : ∀ a b, C a b → D a b) : d.OpposesCompared D := by
  intro hmismatch
  obtain ⟨expected, received, hcompared, hopposes⟩ := h hmismatch
  exact ⟨expected, received, hC _ _ hcompared, hopposes⟩

/-- A diagnostic that is not about two types. -/
theorem admitsPlain_compared (C : Ty → Ty → Prop) (span : Span) :
    AdmitsPlain (OpposesCompared C) span := by
  intro cause hcause _ hmismatch
  have hcontra : cause.isMismatch = true := hmismatch
  rw [hcause] at hcontra
  cases hcontra

theorem allowsPlain_compared (C : Ty → Ty → Prop) (e : Checked.Expr) :
    Rule.AllowsPlain (OpposesCompared C) e :=
  (admitsPlain_compared C e.span).allows rfl

end Diagnostic

open Diagnostic (OpposesCompared admitsPlain_compared allowsPlain_compared)

/-! ### Expressions -/

theorem checkExprs_eq_ok_iff {es : List Expr} {es' : List Checked.Expr} :
    checkExprs id es s = .ok es' t ↔ List.Forall₂ (s.Checks id) es es' ∧ t = s := by
  constructor
  · intro hrun
    induction es generalizing es' t with
    | nil =>
      rw [checkExprs] at hrun
      cases hrun
      exact ⟨.nil, rfl⟩
    | cons e es ih =>
      rw [checkExprs] at hrun
      obtain ⟨e', u, he, hrest⟩ := Check.bind_eq_ok hrun
      obtain ⟨es', v, hes, hpure⟩ := Check.bind_eq_ok hrest
      cases hpure
      obtain ⟨he, rfl⟩ := State.checks_of_ok he
      obtain ⟨hes, rfl⟩ := ih hes
      exact ⟨.cons he hes, rfl⟩
  · rintro ⟨hes, rfl⟩
    exact checkExprs_eq_ok hes

section Parts

variable {P : Diagnostic → Prop}

theorem checkExprs_traces {es : List Expr} (hes : ∀ e ∈ es, Traces (checkExpr id e) s P) :
    Traces (checkExprs id es) s P := by
  induction es with
  | nil =>
    rw [checkExprs]
    exact .pure _
  | cons e es ih =>
    obtain ⟨he, hes⟩ := List.forall_mem_cons.mp hes
    rw [checkExprs]
    exact .keeps (checkExpr_keeps id e) he fun e' _ => .first (ih hes) fun _ => .pure trivial

/-- Arguments complain one by one, or do not fit the parameters. -/
theorem passArguments_traces {args : List Expr} {signature : Signature} {span : Span}
    (hargs : ∀ e ∈ args, Traces (checkExpr id e) s P)
    (hrule : ∀ args', List.Forall₂ (s.Checks id) args args' →
      Rule.Only (Rule.arguments signature args' span) P) :
    Traces (passArguments signature span (checkExprs id args)) s P := by
  refine .bind (checkExprs_traces hargs) fun args' t hargs' => ?_
  exact .first (.ofRule (hrule args' (checkExprs_eq_ok_iff.mp hargs').1)) fun _ => .pure trivial

/-- Entries complain one by one, or a key or a value does not join those before it. -/
theorem checkEntries_traces {entries : List (Expr × Expr)} {key value : Ty}
    (hentries : ∀ entry ∈ entries,
      Traces (checkExpr id entry.1) s P ∧ Traces (checkExpr id entry.2) s P)
    (hkey : ∀ before k v after before' key' value' k', entries = before ++ (k, v) :: after →
      checkEntries id key value before s = .ok (before', key', value') s → s.Checks id k k' →
      Rule.Only (Rule.join key' k') P)
    (hvalue : ∀ before k v after before' key' value' v', entries = before ++ (k, v) :: after →
      checkEntries id key value before s = .ok (before', key', value') s → s.Checks id v v' →
      Rule.Only (Rule.join value' v') P) :
    Traces (checkEntries id key value entries) s P := by
  induction entries generalizing key value with
  | nil =>
    rw [checkEntries]
    exact .pure _
  | cons entry entries ih =>
    obtain ⟨k, v⟩ := entry
    obtain ⟨⟨hk, hv⟩, hentries⟩ := List.forall_mem_cons.mp hentries
    have hnone : checkEntries id key value [] s = .ok ([], key, value) s := by
      rw [checkEntries]
      rfl
    rw [checkEntries]
    refine .keeps (checkExpr_keeps id k) hk fun k' hk' => ?_
    refine .keeps (checkExpr_keeps id v) hv fun v' hv' => ?_
    refine .rule (hkey [] k v entries [] key value k' rfl hnone hk') fun key₁ hkey₁ => ?_
    refine .rule (hvalue [] k v entries [] key value v' rfl hnone hv') fun value₁ hvalue₁ => ?_
    have hfirst : ∀ before before' key' value',
        checkEntries id key₁ value₁ before s = .ok (before', key', value') s →
        checkEntries id key value ((k, v) :: before) s =
          .ok ((k', v') :: before', key', value') s := by
      intro before before' key' value' hbefore
      rw [checkEntries, Check.bind_eq_of_left hk', Check.bind_eq_of_left hv', hkey₁, hvalue₁]
      show (checkEntries id key₁ value₁ before >>= _) s = _
      rw [Check.bind_eq_of_left hbefore]
      rfl
    refine .first (ih hentries (fun before k₂ v₂ after before' key' value' k₂' hsplit hbefore => ?_)
      fun before k₂ v₂ after before' key' value' v₂' hsplit hbefore => ?_) fun _ => .pure trivial
    · exact hkey ((k, v) :: before) k₂ v₂ after _ key' value' k₂' (congrArg _ hsplit)
        (hfirst before before' key' value' hbefore)
    · exact hvalue ((k, v) :: before) k₂ v₂ after _ key' value' v₂' (congrArg _ hsplit)
        (hfirst before before' key' value' hbefore)

end Parts

/-- Arguments that do not fit the parameters of a call are opposed to them. -/
theorem State.Calls.opposes {signature : Signature} {args : List Expr} {e : Expr}
    {node : List Checked.Expr → Checked.Expr} {args' : List Checked.Expr} {span : Span}
    (h : s.Calls id signature args e node)
    (hargs : List.Forall₂ (s.deeper.Checks id) args args') :
    Rule.Only (Rule.arguments signature args' span) (OpposesCompared (e.Compares id s)) := by
  intro d hd hmismatch
  obtain ⟨pair, hpair, hopposes⟩ := Rule.arguments_opposes signature args' span d hd hmismatch
  exact ⟨_, _, .argument h hargs hpair, hopposes⟩

/-- One node: what is compared in its parts, and its own rule. -/
theorem checkExpr_opposes_of_parts {e : Expr}
    (hparts : ∀ c ∈ e.parts,
      Traces (checkExpr id c) s.deeper (OpposesCompared (e.Compares id s))) :
    Traces (checkExpr id e) s (OpposesCompared (e.Compares id s)) := by
  have hplain := admitsPlain_compared (e.Compares id s)
  have hallows := allowsPlain_compared (e.Compares id s)
  cases e with
  | literal value span =>
    rw [checkExpr]
    exact .nested (hplain span) fun _ => .pure _
  | symbol name span =>
    rw [checkExpr]
    exact .nested (hplain span) fun _ => .of_only (.next (.resolve (hplain _ _ rfl rfl) id)
      fun entity => .next (.require (hplain _ _ rfl rfl)) fun ty => .pure trivial)
  | self span =>
    rw [checkExpr]
    exact .nested (hplain span) fun _ => .of_only (.next (.scope id) fun scope =>
      .next (.require (hplain _ _ rfl rfl)) fun cls => .pure trivial)
  | binary op left right span =>
    have hleft := hparts left (by simp [Expr.parts])
    have hright := hparts right (by simp [Expr.parts])
    rw [checkExpr]
    refine .nested (hplain span) fun _ => ?_
    refine .keeps (checkExpr_keeps id left) hleft fun left' hl => ?_
    refine .keeps (checkExpr_keeps id right) hright fun right' hr => ?_
    refine .first (.ofRule fun d hd hmismatch => ?_) fun _ => .pure trivial
    exact ⟨_, _, .operands op span hl hr, Rule.binary_opposes op left' right' d hd hmismatch⟩
  | unary op operand span =>
    have hoperand := hparts operand (by simp [Expr.parts])
    rw [checkExpr]
    exact .nested (hplain span) fun _ => .keeps (checkExpr_keeps id operand) hoperand
      fun operand' _ => .first (.ofRule (Rule.unary_only (hallows operand') op)) fun _ =>
        .pure trivial
  | conditional test consequent alternate span =>
    have htest := hparts test (by simp [Expr.parts])
    have hconsequent := hparts consequent (by simp [Expr.parts])
    have halternate := hparts alternate (by simp [Expr.parts])
    rw [checkExpr]
    refine .nested (hplain span) fun _ => ?_
    refine .keeps (checkExpr_keeps id test) htest fun test' _ => ?_
    refine .rule (Rule.boolean_only (hallows test')) fun _ _ => ?_
    refine .keeps (checkExpr_keeps id consequent) hconsequent fun consequent' hc => ?_
    refine .keeps (checkExpr_keeps id alternate) halternate fun alternate' ha => ?_
    refine .first (.ofRule fun d hd _ => ?_) fun _ => .pure trivial
    exact ⟨_, _, .arms test span hc ha, Rule.join_opposes consequent'.ty alternate' d hd⟩
  | call callee args span =>
    obtain ⟨hcallee, hargs⟩ := List.forall_mem_cons.mp hparts
    rw [checkExpr]
    refine .nested (hplain span) fun _ => ?_
    refine .keeps (checkExpr_keeps id callee) hcallee fun callee' hc => ?_
    refine .rule (Rule.callee_only (hallows callee')) fun signature hsignature => ?_
    refine .first (passArguments_traces hargs fun args' hargs' => ?_) fun _ => .pure trivial
    exact (State.Calls.call hc (Rule.callee_eq_ok_iff.mp hsignature)).opposes hargs'
  | subscript array index span =>
    have harray := hparts array (by simp [Expr.parts])
    have hindex := hparts index (by simp [Expr.parts])
    rw [checkExpr]
    refine .nested (hplain span) fun _ => ?_
    refine .keeps (checkExpr_keeps id array) harray fun array' _ => ?_
    refine .keeps (checkExpr_keeps id index) hindex fun index' _ => ?_
    exact .first (.ofRule (Rule.subscript_only (hallows array') (hallows index'))) fun _ =>
      .pure trivial
  | array elements span =>
    rw [checkExpr]
    refine .nested (hplain span) fun _ => .bind (checkExprs_traces hparts)
      fun elements' t helements => ?_
    refine .first (.ofRule fun d hd _ => ?_) fun _ => .pure trivial
    obtain ⟨before, e', after, shared, rfl, hshared, hopposes⟩ :=
      Rule.elements_opposes .any elements' d hd
    exact ⟨_, _, .element span (checkExprs_eq_ok_iff.mp helements).1 hshared, hopposes⟩
  | map entries span =>
    rw [checkExpr]
    refine .nested (hplain span) fun _ => ?_
    refine .first (checkEntries_traces (fun entry hentry => ?_) ?_ ?_) fun _ => .pure trivial
    · exact ⟨hparts _ (List.mem_flatMap.mpr ⟨entry, hentry, by simp⟩),
        hparts _ (List.mem_flatMap.mpr ⟨entry, hentry, by simp⟩)⟩
    · rintro before k v after before' key value k' rfl hbefore hk d hd -
      exact ⟨_, _, .key after span hbefore hk, Rule.join_opposes key k' d hd⟩
    · rintro before k v after before' key value v' rfl hbefore hv d hd -
      exact ⟨_, _, .value after span hbefore hv, Rule.join_opposes value v' d hd⟩
  | member object name span =>
    have hobject := hparts object (by simp [Expr.parts])
    rw [checkExpr]
    exact .nested (hplain span) fun _ => .keeps (checkExpr_keeps id object) hobject
      fun object' _ => .of_only <| .next (.ofRule (Rule.object_only (hallows object'))) fun cls =>
        .next (.classInfo cls) fun info => .next (.require (hplain _ _ rfl rfl)) fun ty =>
          .pure trivial
  | methodCall object name args span =>
    obtain ⟨hobject, hargs⟩ := List.forall_mem_cons.mp hparts
    rw [checkExpr]
    refine .nested (hplain span) fun _ => ?_
    refine .keeps (checkExpr_keeps id object) hobject fun object' ho => ?_
    refine .rule (Rule.object_only (hallows object')) fun cls hcls => ?_
    refine .keeps (.classInfo cls) (.of_only (.classInfo cls)) fun info hinfo => ?_
    obtain rfl : s.deeper.classes.info cls = info := by
      cases hinfo
      rfl
    refine .require (hplain _ _ rfl rfl) fun signature hmethod => ?_
    refine .first (passArguments_traces hargs fun args' hargs' => ?_) fun _ => .pure trivial
    exact (State.Calls.methodCall ho (Rule.object_eq_ok_iff.mp hcls) hmethod).opposes hargs'
  | construct className args span =>
    rw [checkExpr]
    refine .nested (hplain span) fun _ => ?_
    refine .keeps (.resolve id className span) (.of_only (.resolve (hplain _ _ rfl rfl) id))
      fun entity hentity => ?_
    have hresolve : s.arena.resolve id className span = .ok entity := by
      rw [Check.resolve] at hentity
      split at hentity
      · next hfound =>
        cases hentity
        exact hfound
      · cases hentity
    refine .require (hplain _ _ rfl rfl) fun cls hcls => ?_
    refine .keeps (.classInfo cls) (.of_only (.classInfo cls)) fun info hinfo => ?_
    obtain rfl : s.deeper.classes.info cls = info := by
      cases hinfo
      rfl
    refine .first (passArguments_traces hparts fun args' hargs' => ?_) fun _ => .pure trivial
    exact (State.Calls.construct hresolve hcls rfl).opposes hargs'

/-- **A mismatch in an expression** opposes two types that are compared in it. -/
theorem checkExpr_opposes (id : ScopeId) (e : Expr) (s : State) :
    Traces (checkExpr id e) s (OpposesCompared (e.Compares id s)) := by
  induction e using Expr.parts_ind generalizing s with
  | step e ih =>
    refine checkExpr_opposes_of_parts fun c hc => ?_
    exact (ih c hc s.deeper).mono fun d hd => hd.mono fun _ _ hcompared => .part hc hcompared

/-! ### Statements -/

/-- **What a statement asks is answered with a mismatch** only of types that it compares. -/
theorem Stmt.Asks.opposes {x : Stmt} {q : Query} (h : x.Asks id s q t) :
    q.Traces id t (OpposesCompared (x.Compares id s)) := by
  cases q with
  | expr e =>
    exact (checkExpr_opposes id e t).mono fun d hd => hd.mono fun _ _ hcompared =>
      .expr h hcompared
  | assignable value target =>
    exact fun d hd _ => ⟨_, _, .value h, Rule.assignable_opposes value target d hd⟩
  | declaredElement iterable element declared =>
    exact fun d hd _ =>
      ⟨_, _, .element h, Rule.declaredElement_opposes iterable element declared d hd⟩
  | inferred value =>
    exact Rule.inferred_only fun _ => by rintro ⟨⟩
  | inferredElement iterable element =>
    exact Rule.inferredElement_only (fun _ => by rintro ⟨⟩) element

section Run

variable {id₀ : ScopeId} {xs₀ xs : List Stmt} {s₀ : State}

open Check (Comes ComesToComparison)

/-- What is asked on the way is answered with a mismatch only of types that are compared there. -/
theorem Check.Comes.opposes {x : Stmt} (h : Comes id₀ xs₀ s₀ id (x :: xs) s)
    (hroom : s.depth < s.limit) (q : Query) (t : State) (hasks : x.Asks id s.deeper q t) :
    q.Traces id t (OpposesCompared (ComesToComparison id₀ xs₀ s₀)) :=
  hasks.opposes.mono fun _ hd => hd.mono fun _ _ hcompared => ⟨_, _, _, _, h, hroom, hcompared⟩

/-- **A mismatch in a statement** opposes two types that are compared on the way. -/
theorem checkStmt_opposes (id : ScopeId) (x : Stmt) (s : State) :
    Traces (checkStmt id x) s (OpposesCompared (ComesToComparison id [x] s)) :=
  Comes.traces (admitsPlain_compared _) (fun h hroom => h.opposes hroom) x .start

/-- **A mismatch in a program** opposes two types that are compared on the way. -/
theorem checkProgram_opposes {limit : Nat} {p : Program} {d : Diagnostic}
    (h : checkProgram limit p = .error (.refused d)) :
    d.OpposesCompared (ComesToComparison Arena.root p.body (.initial limit)) :=
  checkProgram_traces (admitsPlain_compared _) (fun h hroom => h.opposes hroom) h

end Run

end Shipshape
