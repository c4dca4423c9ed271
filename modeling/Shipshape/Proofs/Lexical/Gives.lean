import Mathlib.Data.List.Perm.Basic
import Shipshape.Proofs.Lexical.Typed
import Shipshape.Proofs.Ty.Algebra

/-!
# The type of an expression

Which type the lexical checker gives to an expression, if it accepts it, read off the types of
its parts.

* `Shipshape.Lexical.Gives` – the expression is accepted, with a given type;
* `Shipshape.Lexical.gives_array_iff`, `Shipshape.Lexical.gives_map_iff`,
  `Shipshape.Lexical.gives_conditional_iff`, `Shipshape.Lexical.gives_equality_iff` – when an
  expression with siblings is accepted;
* `Shipshape.Lexical.gives_array_perm` and the like – the order of the siblings makes no
  difference.

Which node of the expression stands in the way if it is not accepted depends on the order, and is
not looked at here. So the entries of a map may be taken apart like the elements of an array,
though the checker joins each of them before it looks at the next.
-/

namespace Shipshape

/-! ### What many types share -/

namespace Ty

variable {d : Ty} {tys : List Ty}

/-- What is above the type that many types share with a first one. -/
theorem exists_foldlM_common_fillsTo_iff {start : Ty} :
    (∃ c, tys.foldlM common start = some c ∧ c.FillsTo d) ↔
      start.FillsTo d ∧ ∀ t ∈ tys, t.FillsTo d := by
  induction tys generalizing start with
  | nil => simp
  | cons t tys ih =>
    rw [List.forall_mem_cons, ← and_assoc, ← exists_common_fillsTo_iff, List.foldlM_cons]
    cases start.common t with
    | none => simp
    | some next => simpa using ih

/-- **What is above the type that many types share is what is above all of them.** -/
theorem exists_sharedBy_fillsTo_iff :
    (∃ c, sharedBy tys = some c ∧ c.FillsTo d) ↔ ∀ t ∈ tys, t.FillsTo d := by
  rw [sharedBy, exists_foldlM_common_fillsTo_iff]
  exact and_iff_right (.any d)

/-- **The order of many types does not matter.** -/
theorem sharedBy_perm {us : List Ty} (h : tys.Perm us) : sharedBy tys = sharedBy us := by
  refine eq_of_above fun d => ?_
  rw [exists_sharedBy_fillsTo_iff, exists_sharedBy_fillsTo_iff]
  exact forall_congr' fun t => by rw [h.mem_iff]

end Ty

/-! ### Rules for siblings -/

/-- Two values may be compared if they share a type. -/
theorem Rule.equality_eq_ok_iff {op : BinaryOp} (hop : op = .eq ∨ op = .ne)
    {left right : Checked.Expr} {ty : Ty} :
    binary op left right = .ok ty ↔
      (∃ shared, left.ty.common right.ty = some shared) ∧ ty = .bool := by
  have hbinary : binary op left right = (discard (join left.ty right) >>= fun _ => .ok .bool) := by
    rcases hop with rfl | rfl
    · rfl
    · rfl
  rw [hbinary, bind_eq_ok_iff]
  constructor
  · rintro ⟨_, hjoin, h⟩
    obtain ⟨shared, hshared⟩ := discard_eq_ok_iff.mp hjoin
    exact ⟨⟨shared, join_eq_ok_iff.mp hshared⟩, (Except.ok.inj h).symm⟩
  · rintro ⟨⟨shared, hshared⟩, rfl⟩
    exact ⟨(), discard_eq_ok_iff.mpr ⟨shared, join_eq_ok_iff.mpr hshared⟩, rfl⟩

namespace Lexical

variable {env : Env} {classes : ClassTable} {span : Span} {ty : Ty}

/-- **The expression is accepted** in the environment, with the type `ty`. -/
def Gives (env : Env) (classes : ClassTable) (e : Expr) (ty : Ty) : Prop :=
  ∃ e', expr env classes e = .ok e' ∧ e'.ty = ty

/-- One level deeper there is an environment of the same names, unless that is too deep. -/
theorem descend_bind_eq_ok_iff {β : Type} {g : Env → Except Diagnostic β} {b : β} :
    (env.descend span >>= g) = .ok b ↔
      env.level < env.limit ∧ g { env with level := env.level + 1 } = .ok b := by
  rw [bind_eq_ok_iff, Env.descend]
  by_cases hlt : env.level < env.limit
  · simp [hlt]
  · simp [hlt]

/-- The types of expressions that are checked one after the other. -/
theorem exists_exprs_iff {es : List Expr} {tys : List Ty} :
    (∃ es', exprs env classes es = .ok es' ∧ es'.map Checked.Expr.ty = tys) ↔
      List.Forall₂ (Gives env classes) es tys := by
  induction es generalizing tys with
  | nil => simp [exprs, pure, Except.pure, eq_comm]
  | cons e es ih =>
    rw [exprs, List.forall₂_cons_left_iff]
    constructor
    · rintro ⟨_, h, rfl⟩
      obtain ⟨e', he', h⟩ := bind_eq_ok_iff.mp h
      obtain ⟨rest, hrest, h⟩ := bind_eq_ok_iff.mp h
      obtain rfl := Except.ok.inj h
      exact ⟨_, _, ⟨e', he', rfl⟩, ih.mp ⟨rest, hrest, rfl⟩, rfl⟩
    · rintro ⟨_, _, ⟨e', he', rfl⟩, htys, rfl⟩
      obtain ⟨rest, hrest, rfl⟩ := ih.mpr htys
      exact ⟨e' :: rest, by rw [he', hrest]; rfl, rfl⟩

/-- The types of the entries of a map, and what their keys and values share with those
before them. -/
theorem exists_entries_iff {items : List (Expr × Expr)} {key key' value value' : Ty} :
    (∃ items', entries env classes key value items = .ok (items', key', value')) ↔
      ∃ tys, List.Forall₂ (fun p t => Gives env classes p.1 t.1 ∧ Gives env classes p.2 t.2)
          items tys ∧
        (tys.map Prod.fst).foldlM Ty.common key = some key' ∧
        (tys.map Prod.snd).foldlM Ty.common value = some value' := by
  induction items generalizing key value with
  | nil => simp [entries, pure, Except.pure]
  | cons item items ih =>
    obtain ⟨k, v⟩ := item
    rw [entries]
    constructor
    · rintro ⟨_, h⟩
      obtain ⟨k', hk, h⟩ := bind_eq_ok_iff.mp h
      obtain ⟨v', hv, h⟩ := bind_eq_ok_iff.mp h
      obtain ⟨nextKey, hkey, h⟩ := bind_eq_ok_iff.mp h
      obtain ⟨nextValue, hvalue, h⟩ := bind_eq_ok_iff.mp h
      obtain ⟨⟨rest, lastKey, lastValue⟩, hrest, h⟩ := bind_eq_ok_iff.mp h
      cases h
      obtain ⟨tys, htys, hkeys, hvalues⟩ := ih.mp ⟨rest, hrest⟩
      refine ⟨(k'.ty, v'.ty) :: tys, .cons ⟨⟨k', hk, rfl⟩, v', hv, rfl⟩ htys, ?_, ?_⟩
      · rw [List.map_cons, List.foldlM_cons, Rule.join_eq_ok_iff.mp hkey]
        exact hkeys
      · rw [List.map_cons, List.foldlM_cons, Rule.join_eq_ok_iff.mp hvalue]
        exact hvalues
    · rintro ⟨_, htys, hkeys, hvalues⟩
      cases htys with | @cons _ t _ tys hitem htys =>
      obtain ⟨⟨k', hk, hkty⟩, v', hv, hvty⟩ := hitem
      rw [List.map_cons, List.foldlM_cons, ← hkty] at hkeys
      rw [List.map_cons, List.foldlM_cons, ← hvty] at hvalues
      obtain ⟨nextKey, hkey, hkeys⟩ := Option.bind_eq_some_iff.mp hkeys
      obtain ⟨nextValue, hvalue, hvalues⟩ := Option.bind_eq_some_iff.mp hvalues
      obtain ⟨rest, hrest⟩ := ih.mpr ⟨tys, htys, hkeys, hvalues⟩
      refine ⟨(k', v') :: rest, ?_⟩
      rw [hk, hv]
      simp only [bind, Except.bind]
      rw [Rule.join_eq_ok_iff.mpr hkey, Rule.join_eq_ok_iff.mpr hvalue]
      simp only [hrest]
      rfl

/-! Each sibling is checked one level deeper than the node, and the node has room itself. -/

/-- **When an array is accepted.** -/
theorem gives_array_iff {es : List Expr} :
    Gives env classes (.array es span) ty ↔ env.level < env.limit ∧ ∃ tys element,
      List.Forall₂ (Gives { env with level := env.level + 1 } classes) es tys ∧
        Ty.sharedBy tys = some element ∧ ty = .array element := by
  constructor
  · rintro ⟨_, h, rfl⟩
    rw [expr] at h
    obtain ⟨hlt, h⟩ := descend_bind_eq_ok_iff.mp h
    obtain ⟨es', hes, h⟩ := bind_eq_ok_iff.mp h
    obtain ⟨element, helement, h⟩ := bind_eq_ok_iff.mp h
    obtain rfl := Except.ok.inj h
    have htys := exists_exprs_iff.mp ⟨es', hes, rfl⟩
    exact ⟨hlt, _, element, htys, Rule.elements_eq_ok_iff.mp helement, rfl⟩
  · rintro ⟨hlt, tys, element, htys, helement, rfl⟩
    obtain ⟨es', hes, rfl⟩ := exists_exprs_iff.mpr htys
    refine ⟨.array es' (.array element) span, ?_, rfl⟩
    rw [expr]
    refine descend_bind_eq_ok_iff.mpr ⟨hlt, bind_eq_ok_iff.mpr ⟨es', hes, ?_⟩⟩
    exact bind_eq_ok_iff.mpr ⟨element, Rule.elements_eq_ok_iff.mpr helement, rfl⟩

/-- **When a map is accepted.** -/
theorem gives_map_iff {items : List (Expr × Expr)} :
    Gives env classes (.map items span) ty ↔ env.level < env.limit ∧
      ∃ (tys : List (Ty × Ty)) (key value : Ty),
        List.Forall₂ (fun p t => Gives { env with level := env.level + 1 } classes p.1 t.1 ∧
          Gives { env with level := env.level + 1 } classes p.2 t.2) items tys ∧
        Ty.sharedBy (tys.map Prod.fst) = some key ∧ Ty.sharedBy (tys.map Prod.snd) = some value ∧
        ty = .map key value := by
  constructor
  · rintro ⟨_, h, rfl⟩
    rw [expr] at h
    obtain ⟨hlt, h⟩ := descend_bind_eq_ok_iff.mp h
    obtain ⟨⟨items', key, value⟩, hitems, h⟩ := bind_eq_ok_iff.mp h
    obtain rfl := Except.ok.inj h
    obtain ⟨tys, htys, hkey, hvalue⟩ := exists_entries_iff.mp ⟨items', hitems⟩
    exact ⟨hlt, tys, key, value, htys, hkey, hvalue, rfl⟩
  · rintro ⟨hlt, tys, key, value, htys, hkey, hvalue, rfl⟩
    obtain ⟨items', hitems⟩ := exists_entries_iff.mpr ⟨tys, htys, hkey, hvalue⟩
    refine ⟨.map items' (.map key value) span, ?_, rfl⟩
    rw [expr]
    exact descend_bind_eq_ok_iff.mpr ⟨hlt, bind_eq_ok_iff.mpr ⟨_, hitems, rfl⟩⟩

/-- **When a conditional is accepted.** -/
theorem gives_conditional_iff {test consequent alternate : Expr} :
    Gives env classes (.conditional test consequent alternate span) ty ↔
      env.level < env.limit ∧ Gives { env with level := env.level + 1 } classes test .bool ∧
        ∃ a b, Gives { env with level := env.level + 1 } classes consequent a ∧
          Gives { env with level := env.level + 1 } classes alternate b ∧
          a.common b = some ty := by
  constructor
  · rintro ⟨_, h, rfl⟩
    rw [expr] at h
    obtain ⟨hlt, h⟩ := descend_bind_eq_ok_iff.mp h
    obtain ⟨test', htest, h⟩ := bind_eq_ok_iff.mp h
    obtain ⟨_, hbool, h⟩ := bind_eq_ok_iff.mp h
    obtain ⟨a', ha, h⟩ := bind_eq_ok_iff.mp h
    obtain ⟨b', hb, h⟩ := bind_eq_ok_iff.mp h
    obtain ⟨shared, hshared, h⟩ := bind_eq_ok_iff.mp h
    obtain rfl := Except.ok.inj h
    refine ⟨hlt, ⟨test', htest, Rule.boolean_eq_ok_iff.mp hbool⟩, ?_⟩
    exact ⟨_, _, ⟨a', ha, rfl⟩, ⟨b', hb, rfl⟩, Rule.join_eq_ok_iff.mp hshared⟩
  · rintro ⟨hlt, ⟨test', htest, hbool⟩, _, _, ⟨a', ha, rfl⟩, ⟨b', hb, rfl⟩, hshared⟩
    refine ⟨.conditional test' a' b' ty span, ?_, rfl⟩
    rw [expr]
    refine descend_bind_eq_ok_iff.mpr ⟨hlt, bind_eq_ok_iff.mpr ⟨test', htest, ?_⟩⟩
    refine bind_eq_ok_iff.mpr ⟨(), Rule.boolean_eq_ok_iff.mpr hbool, ?_⟩
    refine bind_eq_ok_iff.mpr ⟨a', ha, bind_eq_ok_iff.mpr ⟨b', hb, ?_⟩⟩
    exact bind_eq_ok_iff.mpr ⟨ty, Rule.join_eq_ok_iff.mpr hshared, rfl⟩

/-- **When a comparison by equality is accepted.** -/
theorem gives_equality_iff {op : BinaryOp} (hop : op = .eq ∨ op = .ne) {left right : Expr} :
    Gives env classes (.binary op left right span) ty ↔ env.level < env.limit ∧
      ∃ a b, Gives { env with level := env.level + 1 } classes left a ∧
        Gives { env with level := env.level + 1 } classes right b ∧
        (∃ shared, a.common b = some shared) ∧ ty = .bool := by
  constructor
  · rintro ⟨_, h, rfl⟩
    rw [expr] at h
    obtain ⟨hlt, h⟩ := descend_bind_eq_ok_iff.mp h
    obtain ⟨a', ha, h⟩ := bind_eq_ok_iff.mp h
    obtain ⟨b', hb, h⟩ := bind_eq_ok_iff.mp h
    obtain ⟨result, hresult, h⟩ := bind_eq_ok_iff.mp h
    obtain rfl := Except.ok.inj h
    have hop := (Rule.equality_eq_ok_iff hop).mp hresult
    exact ⟨hlt, _, _, ⟨a', ha, rfl⟩, ⟨b', hb, rfl⟩, hop⟩
  · rintro ⟨hlt, _, _, ⟨a', ha, rfl⟩, ⟨b', hb, rfl⟩, hshared, rfl⟩
    refine ⟨.binary op a' b' .bool span, ?_, rfl⟩
    rw [expr]
    refine descend_bind_eq_ok_iff.mpr ⟨hlt, bind_eq_ok_iff.mpr ⟨a', ha, ?_⟩⟩
    refine bind_eq_ok_iff.mpr ⟨b', hb, bind_eq_ok_iff.mpr ⟨.bool, ?_, rfl⟩⟩
    exact (Rule.equality_eq_ok_iff hop).mpr ⟨hshared, rfl⟩

/-- An expression has one type at most. -/
theorem gives_rightUnique : Relator.RightUnique (Gives env classes) := by
  rintro e _ _ ⟨e', he, rfl⟩ ⟨_, he', rfl⟩
  obtain rfl := Except.ok.inj (he.symm.trans he')
  rfl

/-- The type of an array whose elements have known types. -/
theorem gives_array_iff_of_forall₂ {es : List Expr} {tys : List Ty} (hlt : env.level < env.limit)
    (htys : List.Forall₂ (Gives { env with level := env.level + 1 } classes) es tys) :
    Gives env classes (.array es span) ty ↔
      ∃ element, Ty.sharedBy tys = some element ∧ ty = .array element := by
  rw [gives_array_iff]
  constructor
  · rintro ⟨-, tys', element, htys', helement, rfl⟩
    obtain rfl := List.right_unique_forall₂' gives_rightUnique htys htys'
    exact ⟨element, helement, rfl⟩
  · rintro ⟨element, helement, rfl⟩
    exact ⟨hlt, tys, element, htys, helement, rfl⟩

/-- The type of a map whose entries have known types. -/
theorem gives_map_iff_of_forall₂ {items : List (Expr × Expr)} {tys : List (Ty × Ty)}
    (hlt : env.level < env.limit)
    (htys : List.Forall₂ (fun p t => Gives { env with level := env.level + 1 } classes p.1 t.1 ∧
      Gives { env with level := env.level + 1 } classes p.2 t.2) items tys) :
    Gives env classes (.map items span) ty ↔ ∃ key value,
      Ty.sharedBy (tys.map Prod.fst) = some key ∧ Ty.sharedBy (tys.map Prod.snd) = some value ∧
        ty = .map key value := by
  rw [gives_map_iff]
  constructor
  · rintro ⟨-, tys', key, value, htys', hkey, hvalue, rfl⟩
    have hunique : Relator.RightUnique fun (p : Expr × Expr) (t : Ty × Ty) =>
        Gives { env with level := env.level + 1 } classes p.1 t.1 ∧
          Gives { env with level := env.level + 1 } classes p.2 t.2 :=
      fun p t u ht hu => Prod.ext (gives_rightUnique ht.1 hu.1) (gives_rightUnique ht.2 hu.2)
    obtain rfl := List.right_unique_forall₂' hunique htys htys'
    exact ⟨key, value, hkey, hvalue, rfl⟩
  · rintro ⟨key, value, hkey, hvalue, rfl⟩
    exact ⟨hlt, tys, key, value, htys, hkey, hvalue, rfl⟩

/-! ### Order -/

variable {span' : Span}

theorem gives_array_perm {es es' : List Expr} (h : es.Perm es')
    (hty : Gives env classes (.array es span) ty) : Gives env classes (.array es' span') ty := by
  obtain ⟨hlt, tys, element, htys, helement, rfl⟩ := gives_array_iff.mp hty
  obtain ⟨tys', htys', hperm⟩ := List.perm_comp_forall₂ h.symm htys
  rw [← Ty.sharedBy_perm hperm] at helement
  exact gives_array_iff.mpr ⟨hlt, tys', element, htys', helement, rfl⟩

theorem gives_map_perm {items items' : List (Expr × Expr)} (h : items.Perm items')
    (hty : Gives env classes (.map items span) ty) :
    Gives env classes (.map items' span') ty := by
  obtain ⟨hlt, tys, key, value, htys, hkey, hvalue, rfl⟩ := gives_map_iff.mp hty
  obtain ⟨tys', htys', hperm⟩ := List.perm_comp_forall₂ h.symm htys
  rw [← Ty.sharedBy_perm (hperm.map _)] at hkey hvalue
  exact gives_map_iff.mpr ⟨hlt, tys', key, value, htys', hkey, hvalue, rfl⟩

theorem gives_conditional_swap {test a b : Expr}
    (hty : Gives env classes (.conditional test a b span) ty) :
    Gives env classes (.conditional test b a span') ty := by
  obtain ⟨hlt, htest, ta, tb, ha, hb, hshared⟩ := gives_conditional_iff.mp hty
  rw [Ty.common_comm] at hshared
  exact gives_conditional_iff.mpr ⟨hlt, htest, tb, ta, hb, ha, hshared⟩

theorem gives_equality_swap {op : BinaryOp} (hop : op = .eq ∨ op = .ne) {a b : Expr}
    (hty : Gives env classes (.binary op a b span) ty) :
    Gives env classes (.binary op b a span') ty := by
  obtain ⟨hlt, ta, tb, ha, hb, hshared, rfl⟩ := (gives_equality_iff hop).mp hty
  rw [Ty.common_comm] at hshared
  exact (gives_equality_iff hop).mpr ⟨hlt, tb, ta, hb, ha, hshared, rfl⟩

end Lexical

end Shipshape
