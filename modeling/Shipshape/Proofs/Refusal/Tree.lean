import Shipshape.Check.Stmt
import Shipshape.Proofs.Induction
import Shipshape.Proofs.Refusal.Computation
import Shipshape.Proofs.Tree.Walk

/-!
# What the check of a tree can complain about

* `Shipshape.Expr.Marks`, `Shipshape.TypeExpr.Marks` – the spans that a complaint about an
  expression or a type expression may be located at;
* `Shipshape.checkExpr_answers` – by induction over expressions: an expression is refused
  with a complaint at one of its spans, which is never that its type cannot be inferred, and
  one that is accepted keeps its span;
* `Shipshape.convert_only`, `Shipshape.declareParams_only`, `Shipshape.checkReturn_only` – the
  same for type expressions and for what else a statement does before it comes to a block.

Only the type of a declaration can be ambiguous. So an expression is checked without a word
about ambiguity, however many empty literals lie in it. To read a type expression or to declare a
name is plainer still: no two types are compared there (`Shipshape.Diagnostic.AdmitsPlain`).
-/

namespace Shipshape

open Check (Answers)

/-- The cause is that a type cannot be read off an empty literal. -/
def Cause.isAmbiguity : Cause → Bool
  | .ambiguousEmptyLiteral _ => true
  | .duplicateDeclaration _ | .breakOutsideLoop | .selfOutsideClass | .returnOutsideFunction
  | .nestingTooDeep _ | .undeclaredIdentifier _ | .typeMismatch _ _ | .notABoolean _
  | .notANumber _ | .notAnInteger _ | .notIterable _ | .notCallable _ | .notAClass _
  | .notAType _ | .notAValue _ | .returnArityMismatch _ _ | .argumentMismatch _
  | .unknownMember _ _ => false

theorem Cause.isAmbiguity_of_isOperand {cause : Cause} (h : cause.isOperand = true) :
    cause.isAmbiguity = false := by
  cases cause with
  | ambiguousEmptyLiteral => cases h
  | _ => rfl

/-- **Complaints at a span are of the kind `E`**, unless they are about ambiguity. -/
def Diagnostic.Admits (E : Diagnostic → Prop) (span : Span) : Prop :=
  ∀ cause : Cause, cause.isAmbiguity = false → E (.located cause span)

/-- **Complaints at a span are of the kind `E`**, unless they are about ambiguity or about two
types. -/
def Diagnostic.AdmitsPlain (E : Diagnostic → Prop) (span : Span) : Prop :=
  ∀ cause : Cause, cause.isMismatch = false → cause.isAmbiguity = false → E (.located cause span)

variable {id : ScopeId} {E : Diagnostic → Prop}

open Diagnostic (Admits AdmitsPlain)

theorem Diagnostic.AdmitsPlain.allows {span : Span} (h : AdmitsPlain E span) {e : Checked.Expr}
    (he : e.span = span) : Rule.AllowsPlain E e :=
  fun cause hcause hplain => he ▸ h cause hplain (Cause.isAmbiguity_of_isOperand hcause)

theorem Diagnostic.Admits.plain {span : Span} (h : Admits E span) : AdmitsPlain E span :=
  fun cause _ hcause => h cause hcause

theorem Diagnostic.Admits.allows {span : Span} (h : Admits E span) {e : Checked.Expr}
    (he : e.span = span) : Rule.Allows E e :=
  fun cause hcause => he ▸ h cause (Cause.isAmbiguity_of_isOperand hcause)

/-! ### Expressions -/

/-- **A span of an expression**: its own, or that of an expression in it. -/
def Expr.Marks (e : Expr) (span : Span) : Prop := ∃ c : Expr, c.Within e ∧ c.span = span

theorem Expr.marks_self (e : Expr) : e.Marks e.span := ⟨e, .refl, rfl⟩

theorem Expr.Marks.part {c e : Expr} {span : Span} (h : c.Marks span) (hc : c ∈ e.parts) :
    e.Marks span := by
  obtain ⟨d, hwithin, rfl⟩ := h
  exact ⟨d, .part hc hwithin, rfl⟩

theorem checkExprs_answers {es : List Expr}
    (hes : ∀ e ∈ es, Answers (checkExpr id e) E (Rule.Allows E)) :
    Answers (checkExprs id es) E fun es' => ∀ e ∈ es', Rule.Allows E e := by
  induction es with
  | nil =>
    rw [checkExprs]
    exact .pure (List.forall_mem_nil _)
  | cons e es ih =>
    obtain ⟨he, hes⟩ := List.forall_mem_cons.mp hes
    rw [checkExprs]
    exact .bind he fun e' he' => .bind (ih hes) fun es' hes' =>
      .pure (List.forall_mem_cons.mpr ⟨he', hes'⟩)

/-- Arguments are complained about one by one, and their number at the call. -/
theorem passArguments_only {es : List Expr}
    (hes : ∀ e ∈ es, Answers (checkExpr id e) E (Rule.Allows E)) {span : Span}
    (hspan : Admits E span) (signature : Signature) :
    (passArguments signature span (checkExprs id es)).Only E :=
  .bind (checkExprs_answers hes) fun _ hes' =>
    .next (.ofRule (Rule.arguments_only hes' (fun _ => hspan _ rfl) signature)) fun _ =>
      .pure trivial

theorem checkEntries_only {entries : List (Expr × Expr)}
    (hentries : ∀ entry ∈ entries, Answers (checkExpr id entry.1) E (Rule.Allows E) ∧
      Answers (checkExpr id entry.2) E (Rule.Allows E)) (key value : Ty) :
    (checkEntries id key value entries).Only E := by
  induction entries generalizing key value with
  | nil =>
    rw [checkEntries]
    exact .pure trivial
  | cons entry entries ih =>
    obtain ⟨k, v⟩ := entry
    obtain ⟨⟨hk, hv⟩, hentries⟩ := List.forall_mem_cons.mp hentries
    rw [checkEntries]
    exact .bind hk fun k' hk' => .bind hv fun v' hv' =>
      .next (.ofRule (Rule.join_only hk' _)) fun key' =>
        .next (.ofRule (Rule.join_only hv' _)) fun value' =>
          .next (ih hentries key' value') fun _ => .pure trivial

/-- One node: what the parts complain about, and the node for its own sake. -/
theorem checkExpr_answers_of_parts {e : Expr} (hself : Admits E e.span)
    (hparts : ∀ c ∈ e.parts, Answers (checkExpr id c) E (Rule.Allows E)) :
    Answers (checkExpr id e) E fun e' => e'.span = e.span := by
  have hdeep : ∀ n, E (.located (.nestingTooDeep n) e.span) := fun n => hself _ rfl
  cases e with
  | literal value span =>
    rw [checkExpr]
    exact .nested hdeep (.pure rfl)
  | symbol name span =>
    rw [checkExpr]
    exact .nested hdeep (.next (.resolve (hself _ rfl) id) fun entity =>
      .next (.require (hself _ rfl)) fun ty => .pure rfl)
  | self span =>
    rw [checkExpr]
    exact .nested hdeep (.next (.scope id) fun scope =>
      .next (.require (hself _ rfl)) fun cls => .pure rfl)
  | binary op left right span =>
    have hleft := hparts left (by simp [Expr.parts])
    have hright := hparts right (by simp [Expr.parts])
    rw [checkExpr]
    exact .nested hdeep (.bind hleft fun left' hl => .bind hright fun right' hr =>
      .next (.ofRule (Rule.binary_only hl hr op)) fun ty => .pure rfl)
  | unary op operand span =>
    have hoperand := hparts operand (by simp [Expr.parts])
    rw [checkExpr]
    exact .nested hdeep (.bind hoperand fun operand' ho =>
      .next (.ofRule (Rule.unary_only ho.plain op)) fun ty => .pure rfl)
  | conditional test consequent alternate span =>
    have htest := hparts test (by simp [Expr.parts])
    have hconsequent := hparts consequent (by simp [Expr.parts])
    have halternate := hparts alternate (by simp [Expr.parts])
    rw [checkExpr]
    refine .nested hdeep (.bind htest fun test' ht =>
      .next (.ofRule (Rule.boolean_only ht.plain)) fun _ => ?_)
    exact .bind hconsequent fun consequent' _ => .bind halternate fun alternate' ha =>
      .next (.ofRule (Rule.join_only ha _)) fun ty => .pure rfl
  | call callee args span =>
    obtain ⟨hcallee, hargs⟩ := List.forall_mem_cons.mp hparts
    rw [checkExpr]
    exact .nested hdeep (.bind hcallee fun callee' hc =>
      .next (.ofRule (Rule.callee_only hc.plain)) fun signature =>
        .next (passArguments_only hargs hself signature) fun args' => .pure rfl)
  | subscript array index span =>
    have harray := hparts array (by simp [Expr.parts])
    have hindex := hparts index (by simp [Expr.parts])
    rw [checkExpr]
    exact .nested hdeep (.bind harray fun array' ha => .bind hindex fun index' hi =>
      .next (.ofRule (Rule.subscript_only ha.plain hi.plain)) fun ty => .pure rfl)
  | array elements span =>
    rw [checkExpr]
    exact .nested hdeep (.bind (checkExprs_answers hparts) fun elements' helements =>
      .next (.ofRule (Rule.elements_only helements _)) fun ty => .pure rfl)
  | map entries span =>
    rw [checkExpr]
    refine .nested hdeep (.next (checkEntries_only (fun entry hentry => ?_) _ _) fun r =>
      .pure rfl)
    exact ⟨hparts _ (List.mem_flatMap.mpr ⟨entry, hentry, by simp⟩),
      hparts _ (List.mem_flatMap.mpr ⟨entry, hentry, by simp⟩)⟩
  | member object name span =>
    have hobject := hparts object (by simp [Expr.parts])
    rw [checkExpr]
    exact .nested hdeep (.bind hobject fun object' ho =>
      .next (.ofRule (Rule.object_only ho.plain)) fun cls => .next (.classInfo cls) fun info =>
        .next (.require (hself _ rfl)) fun ty => .pure rfl)
  | methodCall object name args span =>
    obtain ⟨hobject, hargs⟩ := List.forall_mem_cons.mp hparts
    rw [checkExpr]
    refine .nested hdeep (.bind hobject fun object' ho =>
      .next (.ofRule (Rule.object_only ho.plain)) fun cls => .next (.classInfo cls) fun info => ?_)
    exact .next (.require (hself _ rfl)) fun signature =>
      .next (passArguments_only hargs hself signature) fun args' => .pure rfl
  | construct className args span =>
    rw [checkExpr]
    refine .nested hdeep (.next (.resolve (hself _ rfl) id) fun entity =>
      .next (.require (hself _ rfl)) fun cls => .next (.classInfo cls) fun info => ?_)
    exact .next (passArguments_only hparts hself info.ctor) fun args' => .pure rfl

/-- Induction over expressions by their parts. -/
theorem Expr.parts_ind {motive : Expr → Prop}
    (step : ∀ e : Expr, (∀ c ∈ e.parts, motive c) → motive e) (e : Expr) : motive e := by
  refine step e ?_
  induction e with
  | literal | symbol | self => exact List.forall_mem_nil _
  | binary op left right span ihl ihr =>
    exact List.forall_mem_cons.mpr ⟨step _ ihl, List.forall_mem_singleton.mpr (step _ ihr)⟩
  | unary op operand span ih => exact List.forall_mem_singleton.mpr (step _ ih)
  | conditional test consequent alternate span iht ihc iha =>
    exact List.forall_mem_cons.mpr ⟨step _ iht,
      List.forall_mem_cons.mpr ⟨step _ ihc, List.forall_mem_singleton.mpr (step _ iha)⟩⟩
  | call callee args span ihc ihs =>
    exact List.forall_mem_cons.mpr ⟨step _ ihc, fun e he => step e (ihs e he)⟩
  | subscript array index span iha ihi =>
    exact List.forall_mem_cons.mpr ⟨step _ iha, List.forall_mem_singleton.mpr (step _ ihi)⟩
  | array elements span ihs => exact fun e he => step e (ihs e he)
  | map entries span ihs =>
    intro c hc
    obtain ⟨entry, hentry, hc⟩ := List.mem_flatMap.mp hc
    obtain rfl | rfl : c = entry.1 ∨ c = entry.2 := by simpa using hc
    · exact step _ (ihs entry hentry).1
    · exact step _ (ihs entry hentry).2
  | member object name span ih => exact List.forall_mem_singleton.mpr (step _ ih)
  | methodCall object name args span iho ihs =>
    exact List.forall_mem_cons.mpr ⟨step _ iho, fun e he => step e (ihs e he)⟩
  | construct className args span ihs => exact fun e he => step e (ihs e he)

/-- **What the check of an expression answers**: a complaint at one of its spans, or a checked
expression with its span. -/
theorem checkExpr_answers {e : Expr} (h : ∀ span, e.Marks span → Admits E span) (id : ScopeId) :
    Answers (checkExpr id e) E fun e' => e'.span = e.span := by
  induction e using Expr.parts_ind with
  | step e ih =>
    have hself := h _ e.marks_self
    refine checkExpr_answers_of_parts hself fun c hc => ?_
    have hspans : ∀ span, c.Marks span → Admits E span := fun span hspan => h span (hspan.part hc)
    exact (ih c hc hspans).mono (fun _ hd => hd) fun e' he' => (hspans _ c.marks_self).allows he'

/-- **An expression keeps its span.** -/
theorem checkExpr_span {e : Expr} {e' : Checked.Expr} {s t : State}
    (h : checkExpr id e s = .ok e' t) : e'.span = e.span :=
  (checkExpr_answers (fun _ _ _ _ => trivial) id : Answers _ (fun _ => True) _).ok h

/-! ### Type expressions -/

/-- **A span of a name** in a type expression. -/
inductive TypeExpr.Marks : TypeExpr → Span → Prop
  /-- A name. -/
  | name {name : String} {span : Span} : Marks (.name name span) span
  /-- A name in the elements of an array. -/
  | element {a : TypeExpr} {span : Span} : a.Marks span → Marks (.array a) span
  /-- A name in the keys of a map. -/
  | key {k v : TypeExpr} {span : Span} : k.Marks span → Marks (.map k v) span
  /-- A name in the values of a map. -/
  | value {k v : TypeExpr} {span : Span} : v.Marks span → Marks (.map k v) span
  /-- A name in a parameter of a function. -/
  | param {ps : List TypeExpr} {p r : TypeExpr} {span : Span} : p ∈ ps → p.Marks span →
      Marks (.function ps r) span
  /-- A name in the result of a function. -/
  | result {ps : List TypeExpr} {r : TypeExpr} {span : Span} : r.Marks span →
      Marks (.function ps r) span

theorem convertList_only {as : List TypeExpr} (has : ∀ a ∈ as, (convert id a).Only E) :
    (convertList id as).Only E := by
  induction as with
  | nil =>
    rw [convertList]
    exact .pure trivial
  | cons a as ih =>
    obtain ⟨ha, has⟩ := List.forall_mem_cons.mp has
    rw [convertList]
    exact .next ha fun ty => .next (ih has) fun tys => .pure trivial

/-- **A type expression is complained about at one of its names.** -/
theorem convert_only {a : TypeExpr} (h : ∀ span, a.Marks span → AdmitsPlain E span) (id : ScopeId) :
    (convert id a).Only E := by
  induction a with
  | name name span =>
    have hspan := h span .name
    rw [convert]
    exact .next (.resolve (hspan _ rfl rfl) id) fun entity => .require (hspan _ rfl rfl)
  | array element ih =>
    rw [convert]
    exact .next (ih fun span hspan => h span (.element hspan)) fun ty => .pure trivial
  | map key value ihk ihv =>
    rw [convert]
    exact .next (ihk fun span hspan => h span (.key hspan)) fun k =>
      .next (ihv fun span hspan => h span (.value hspan)) fun v => .pure trivial
  | function params result ihps ihr =>
    rw [convert]
    refine .next (convertList_only fun p hp => ?_) fun ps =>
      .next (ihr fun span hspan => h span (.result hspan)) fun r => .pure trivial
    exact ihps p hp fun span hspan => h span (.param hp hspan)

theorem convertResult_only {result : Option TypeExpr}
    (h : ∀ a ∈ result, ∀ span, a.Marks span → AdmitsPlain E span) :
    (convertResult id result).Only E := by
  cases result with
  | none => exact .pure trivial
  | some a => exact convert_only (h a rfl) id

theorem convertParams_only {params : List Param}
    (h : ∀ p ∈ params, ∀ span, p.typeExpr.Marks span → AdmitsPlain E span) :
    (convertParams id params).Only E :=
  convertList_only (List.forall_mem_map.mpr fun p hp => convert_only (h p hp) id)

/-! ### Declarations -/

theorem declareParams_only {params : List Param} (h : ∀ p ∈ params, AdmitsPlain E p.span)
    (tys : List Ty) : (declareParams id params tys).Only E := by
  induction params generalizing tys with
  | nil => cases tys <;> exact .pure trivial
  | cons p params ih =>
    obtain ⟨hp, h⟩ := List.forall_mem_cons.mp h
    cases tys with
    | nil => exact .pure trivial
    | cons ty tys =>
      rw [declareParams]
      exact .next (.newEntity _) fun entity => .next (.declare (hp _ rfl rfl) _ _) fun _ =>
        .next (ih h tys) fun _ => .pure trivial

theorem declareMethod_only {span : Span} (h : AdmitsPlain E span) (owner : Option ClassRef)
    (name : String) (signature : Signature) :
    (declareMethod owner name signature span).Only E := by
  cases owner with
  | none => exact .pure trivial
  | some cls =>
    refine .next (.addMethod cls name signature) fun free => ?_
    split
    · exact .pure trivial
    · exact .refuse (h _ rfl rfl)

/-- A variable may be complained about at its type expression or at its value. Only where no
type is written can it be ambiguous. -/
theorem variableType_only {typeExpr : Option TypeExpr} {value : Checked.Expr}
    (h : ∀ a ∈ typeExpr, ∀ span, a.Marks span → Admits E span) (hvalue : Rule.Allows E value)
    (hnone : typeExpr = none → Rule.Only (Rule.inferred value) E) :
    (variableType id typeExpr value).Only E := by
  cases typeExpr with
  | none => exact .ofRule (hnone rfl)
  | some a =>
    exact .next (convert_only (fun span hspan => (h a rfl span hspan).plain) id) fun declared =>
      .next (.ofRule (Rule.assignable_only hvalue _)) fun _ => .pure trivial

theorem loopVariableType_only {typeExpr : Option TypeExpr} {iterable : Checked.Expr}
    (h : ∀ a ∈ typeExpr, ∀ span, a.Marks span → Admits E span)
    (hiterable : Rule.Allows E iterable)
    (hnone : typeExpr = none → ∀ element, Rule.Only (Rule.inferredElement iterable element) E) :
    (loopVariableType id typeExpr iterable).Only E := by
  refine .next (.ofRule (Rule.iterated_only hiterable.plain)) fun element => ?_
  cases typeExpr with
  | none => exact .ofRule (hnone rfl element)
  | some a =>
    exact .next (convert_only (fun span hspan => (h a rfl span hspan).plain) id) fun declared =>
      .ofRule (Rule.declaredElement_only hiterable _ _)

theorem checkReturn_only {value : Option Expr} {span : Span} (hspan : Admits E span)
    (h : ∀ e ∈ value, Answers (checkExpr id e) E (Rule.Allows E)) (function : Entity) :
    (checkReturn id function value span).Only E := by
  have hreturns : ∀ hasValue, Rule.Only (Rule.returns function hasValue span) E :=
    Rule.returns_only (fun _ _ => hspan _ rfl) function
  cases value with
  | none => exact .next (.ofRule (hreturns _)) fun _ => .pure trivial
  | some e =>
    exact .next (.ofRule (hreturns _)) fun _ =>
      .bind (h e rfl) fun e' he' =>
        .next (.ofRule (Rule.assignable_only he' _)) fun _ => .pure trivial

end Shipshape
