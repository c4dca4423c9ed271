import Shipshape.Proofs.Lexical.Typed

/-!
# Where an open type comes from

An expression whose type is not settled has an empty literal inside it, and `any`
does not lie inside a function in its type.

* `Shipshape.Checked.Expr.IsEmptyLiteral` – an array or a map without elements;
* `Shipshape.Checked.Expr.Grounded` – the type of an expression is settled, up to
  what empty literals inside it leave open;
* `Shipshape.Checked.Expr.Throughout.grounded` – every expression that is well typed
  at every node is grounded at every node, provided that the classes are settled.

The proof is from the bottom up. The type of a node is made from those of its parts,
taken from the classes, or known by itself; only a literal without elements brings
`any` in.
-/

namespace Shipshape

namespace Ty

/-- What is kept by sharing is kept by sharing along a list. -/
theorem foldlM_common {P : Ty → Prop}
    (hP : ∀ {a b c : Ty}, a.common b = some c → P a → P b → P c) {tys : List Ty} {start shared : Ty}
    (h : tys.foldlM common start = some shared) (hstart : P start) (htys : ∀ t ∈ tys, P t) :
    P shared := by
  induction tys generalizing start with
  | nil => exact Option.some.inj h ▸ hstart
  | cons t tys ih =>
    obtain ⟨next, hnext, h⟩ := Option.bind_eq_some_iff.mp h
    have hP := hP hnext hstart (htys t List.mem_cons_self)
    exact ih h hP fun u hu => htys u (List.mem_cons_of_mem _ hu)

theorem functionsSettled_of_sharedBy {tys : List Ty} {shared : Ty}
    (h : sharedBy tys = some shared) (htys : ∀ t ∈ tys, t.FunctionsSettled) :
    shared.FunctionsSettled :=
  foldlM_common functionsSettled_of_common h trivial htys

/-- What settled types share is settled, if there are any. -/
theorem settled_of_sharedBy {tys : List Ty} {shared : Ty} (h : sharedBy tys = some shared)
    (hne : tys ≠ []) (htys : ∀ t ∈ tys, t.Settled) : shared.Settled := by
  cases tys with
  | nil => exact absurd rfl hne
  | cons t tys =>
    -- The first type replaces the `any` that sharing starts from.
    replace h : tys.foldlM common t = some shared := h
    obtain ⟨ht, htys⟩ := List.forall_mem_cons.mp htys
    exact foldlM_common settled_of_common h ht htys

end Ty

theorem BinaryOp.Typed.result {op : BinaryOp} {left right ty : Ty} (h : op.Typed left right ty) :
    ty = left ∨ ty = .bool := by
  cases op with
  | add | sub | mul | div | pow | rem => exact .inl h.2.2
  | lt | le | gt | ge | and | or => exact .inr h.2.2
  | eq | ne => exact .inr h.2

theorem UnaryOp.Typed.result {op : UnaryOp} {operand ty : Ty} (h : op.Typed operand ty) :
    ty = operand ∨ ty = .bool := by
  cases op with
  | negate => exact .inl h.2
  | not => exact .inr h.2

theorem Literal.settled_ty (value : Literal) : value.ty.Settled := by
  cases value <;> exact .scalar (by decide)

namespace Checked.Expr

/-- An array or a map without elements. -/
def IsEmptyLiteral : Expr → Prop
  | .array elements _ _ => elements = []
  | .map entries _ _ => entries = []
  | _ => False

/-- **The type of an expression is settled up to empty literals**: `any` does not
lie inside a function in it, and if it occurs at all, then an empty literal lies in
the expression. -/
structure Grounded (e : Expr) : Prop where
  /-- The functions in the type are settled. -/
  functions : e.ty.FunctionsSettled
  /-- An open type comes from an empty literal. -/
  literal : ¬e.ty.Settled → ∃ d : Expr, d.IsEmptyLiteral ∧ d.Within e

theorem Grounded.of_settled {e : Expr} (h : e.ty.Settled) : e.Grounded :=
  ⟨h.functionsSettled, fun hopen => absurd h hopen⟩

/-- An empty literal in a part lies in the whole. -/
theorem Grounded.within {c e : Expr} (h : c.Grounded) (hc : c ∈ e.parts) (hopen : ¬c.ty.Settled) :
    ∃ d : Expr, d.IsEmptyLiteral ∧ d.Within e := by
  obtain ⟨d, hempty, hwithin⟩ := h.literal hopen
  exact ⟨d, hempty, .part hc hwithin⟩

/-- What some parts share is open only through an empty literal in one of them,
unless there are no such parts. -/
theorem Grounded.sharedBy {e : Expr} (hparts : ∀ c ∈ e.parts, c.Grounded) {cs : List Expr}
    (hsub : ∀ c ∈ cs, c ∈ e.parts) {shared : Ty}
    (h : Ty.sharedBy (cs.map Expr.ty) = some shared) : shared.FunctionsSettled ∧
      (¬shared.Settled → cs = [] ∨ ∃ d : Expr, d.IsEmptyLiteral ∧ d.Within e) := by
  refine ⟨Ty.functionsSettled_of_sharedBy h ?_, fun hopen => ?_⟩
  · intro t ht
    obtain ⟨c, hc, rfl⟩ := List.mem_map.mp ht
    exact (hparts c (hsub c hc)).functions
  · by_cases hnil : cs = []
    · exact .inl hnil
    · obtain ⟨c, hc, hcopen⟩ : ∃ c ∈ cs, ¬c.ty.Settled := by
        by_contra hall
        push Not at hall
        exact hopen (Ty.settled_of_sharedBy h (by simpa using hnil) (by simpa using hall))
      exact .inr ((hparts c (hsub c hc)).within (hsub c hc) hcopen)

variable {classes : ClassTable} {a : Ambient}

/-- One node is grounded if its parts are. -/
theorem Fits.grounded {e : Expr} (h : e.Fits classes a) (hclasses : classes.Settled)
    (hparts : ∀ c ∈ e.parts, c.Grounded) : e.Grounded := by
  obtain ⟨htyped, hentity⟩ := h
  cases e with
  | literal value ty span =>
    obtain rfl : ty = value.ty := htyped
    exact .of_settled value.settled_ty
  | symbol name entity ty span => exact .of_settled ((hentity entity rfl).value ty htyped.1)
  | self cls ty span =>
    obtain ⟨-, rfl⟩ := htyped
    exact .of_settled .object
  | binary op left right ty span =>
    -- An operator passes on the type of the left operand, or gives a truth value.
    rcases htyped.result with rfl | rfl
    · have hleft := hparts left (by simp [parts])
      exact ⟨hleft.functions, hleft.within (by simp [parts])⟩
    · exact .of_settled (.scalar (by decide))
  | unary op operand ty span =>
    rcases htyped.result with rfl | rfl
    · have hoperand := hparts operand (by simp [parts])
      exact ⟨hoperand.functions, hoperand.within (by simp [parts])⟩
    · exact .of_settled (.scalar (by decide))
  | conditional test consequent alternate ty span =>
    obtain ⟨-, hshared⟩ := htyped
    have hx := hparts consequent (by simp [parts])
    have hy := hparts alternate (by simp [parts])
    -- What the two sides share is settled as soon as both are, so one of them is open.
    refine ⟨Ty.functionsSettled_of_common hshared hx.functions hy.functions, fun hopen => ?_⟩
    by_cases hxs : consequent.ty.Settled
    · refine hy.within (by simp [parts]) fun hys => ?_
      exact hopen (Ty.settled_of_common hshared hxs hys)
    · exact hx.within (by simp [parts]) hxs
  | call callee signature args ty span =>
    obtain ⟨hcallee, -, rfl⟩ := htyped
    have hfun := (hparts callee (by simp [parts])).functions
    rw [hcallee] at hfun
    -- `any` does not lie inside a function, so what the callee returns is settled.
    cases hfun with
    | function _ hresult => exact .of_settled hresult
  | subscript whole index ty span =>
    obtain ⟨hwhole, -⟩ := htyped
    have hg := hparts whole (by simp [parts])
    have hfun := hg.functions
    rw [hwhole] at hfun
    refine ⟨hfun, fun hopen => hg.within (by simp [parts]) fun hsettled => hopen ?_⟩
    rw [hwhole] at hsettled
    cases hsettled with
    | array helement => exact helement
  | array elements ty span =>
    obtain ⟨element, hshared, rfl⟩ := htyped
    obtain ⟨hfun, hliteral⟩ := Grounded.sharedBy hparts (fun c hc => hc) hshared
    refine ⟨hfun, fun hopen => ?_⟩
    rcases hliteral fun h => hopen (.array h) with rfl | hd
    · exact ⟨.array [] _ span, rfl, .refl⟩
    · exact hd
  | map entries ty span =>
    obtain ⟨key, value, hkey, hvalue, rfl⟩ := htyped
    have hkeys : ∀ c ∈ entries.map Prod.fst,
        c ∈ (Expr.map entries (.map key value) span).parts :=
      List.forall_mem_map.mpr fun p hp => List.mem_flatMap.mpr ⟨p, hp, by simp⟩
    have hvalues : ∀ c ∈ entries.map Prod.snd,
        c ∈ (Expr.map entries (.map key value) span).parts :=
      List.forall_mem_map.mpr fun p hp => List.mem_flatMap.mpr ⟨p, hp, by simp⟩
    obtain ⟨hkfun, hkliteral⟩ := Grounded.sharedBy hparts hkeys (by rw [List.map_map]; exact hkey)
    obtain ⟨hvfun, hvliteral⟩ :=
      Grounded.sharedBy hparts hvalues (by rw [List.map_map]; exact hvalue)
    refine ⟨⟨hkfun, hvfun⟩, fun hopen => ?_⟩
    -- Without entries the literal itself is the one; otherwise one is found among the
    -- keys or among the values, whichever type is open.
    by_cases hnil : entries = []
    · subst hnil
      exact ⟨.map [] _ span, rfl, .refl⟩
    · by_cases hk : key.Settled
      · exact (hvliteral fun hv => hopen (.map hk hv)).resolve_left (by simpa using hnil)
      · exact (hkliteral hk).resolve_left (by simpa using hnil)
  | member object name ty span =>
    obtain ⟨cls, -, hfield⟩ := htyped
    exact .of_settled ((hclasses.info cls).of_field? hfield)
  | methodCall object name signature args ty span =>
    obtain ⟨cls, -, hmethod, -, rfl⟩ := htyped
    cases (hclasses.info cls).of_method? hmethod with
    | function _ hresult => exact .of_settled hresult
  | construct cls args ty span =>
    obtain ⟨-, -, rfl⟩ := htyped
    exact .of_settled .object

/-- **What is well typed at every node is grounded at every node.** -/
theorem Throughout.grounded {e : Expr} (h : e.Throughout (Fits classes a))
    (hclasses : classes.Settled) : e.Throughout Grounded := by
  induction h with
  | intro hfits _ ih => exact .intro (hfits.grounded hclasses fun c hc => (ih c hc).self) ih

end Checked.Expr

/-! ### Types of declarations -/

namespace Lexical

variable {env : Env} {classes : ClassTable}

/-- **The type of a variable is settled**, whether it is written or read off the
value, and the value may be kept in it. -/
theorem variableType_settled {typeExpr : Option TypeExpr} {value : Checked.Expr} {ty : Ty}
    (henv : env.Sound classes) (hvalue : value.Grounded)
    (h : variableType env typeExpr value = .ok ty) :
    ty.Settled ∧ value.ty.assignableTo ty = true := by
  cases typeExpr with
  | none =>
    obtain ⟨hany, rfl⟩ := Rule.inferred_eq_ok_iff.mp h
    exact ⟨(Ty.settled_iff _).mpr ⟨hvalue.functions, hany⟩, Ty.assignableTo_refl _⟩
  | some typeExpr =>
    obtain ⟨declared, hdeclared, h⟩ := bind_eq_ok_iff.mp h
    obtain ⟨_, hfit, h⟩ := bind_eq_ok_iff.mp h
    obtain rfl := Except.ok.inj h
    exact ⟨henv.settled_convert hdeclared, Rule.assignable_eq_ok_iff.mp hfit⟩

/-- **The type of a loop variable is settled**, whether it is written or read off
what the loop runs over, and the elements may be kept in it. -/
theorem loopVariableType_settled {typeExpr : Option TypeExpr} {iterable : Checked.Expr} {ty : Ty}
    (henv : env.Sound classes) (hiterable : iterable.Grounded)
    (h : loopVariableType env typeExpr iterable = .ok ty) :
    ty.Settled ∧ ∃ element, (iterable.ty = .array element ∨ ∃ key, iterable.ty = .map key element) ∧
      element.assignableTo ty = true := by
  obtain ⟨element, hiter, h⟩ := bind_eq_ok_iff.mp h
  replace hiter := Rule.iterated_eq_ok_iff.mp hiter
  cases typeExpr with
  | none =>
    obtain ⟨hany, rfl⟩ := Rule.inferredElement_eq_ok_iff.mp h
    have hfun : element.FunctionsSettled := by
      have hfun := hiterable.functions
      rcases hiter with hty | ⟨key, hty⟩
      · rw [hty] at hfun
        exact hfun
      · rw [hty] at hfun
        exact hfun.2
    exact ⟨(Ty.settled_iff _).mpr ⟨hfun, hany⟩, element, hiter, Ty.assignableTo_refl _⟩
  | some typeExpr =>
    obtain ⟨declared, hdeclared, h⟩ := bind_eq_ok_iff.mp h
    obtain ⟨hfit, rfl⟩ := Rule.declaredElement_eq_ok_iff.mp h
    exact ⟨henv.settled_convert hdeclared, element, hiter, hfit⟩

/-- The value of a return, or its absence, is right for the function around it. -/
theorem returned_fits {f : Entity} {value : Option Expr} {value' : Option Checked.Expr}
    {span : Span} (henv : env.Sound classes)
    (h : returned env classes f value span = .ok value') :
    Checked.Stmt.Returns f value' ∧
      ∀ e ∈ value'.toList, e.Throughout (Checked.Expr.Fits classes env.ambient) := by
  cases value with
  | none =>
    obtain ⟨_, hreturns, h⟩ := bind_eq_ok_iff.mp h
    obtain rfl := Except.ok.inj h
    exact ⟨(Rule.returns_eq_ok_iff.mp hreturns).mpr rfl, fun e he => nomatch he⟩
  | some value =>
    obtain ⟨_, hreturns, h⟩ := bind_eq_ok_iff.mp h
    obtain ⟨e, he, h⟩ := bind_eq_ok_iff.mp h
    obtain ⟨_, hfit, h⟩ := bind_eq_ok_iff.mp h
    obtain rfl := Except.ok.inj h
    have hsome : f.resultType ≠ .none :=
      fun hnone => nomatch (Rule.returns_eq_ok_iff.mp hreturns).mp hnone
    refine ⟨⟨hsome, Rule.assignable_eq_ok_iff.mp hfit⟩, ?_⟩
    exact List.forall_mem_singleton.mpr (expr_fits value henv he)

end Lexical

end Shipshape
