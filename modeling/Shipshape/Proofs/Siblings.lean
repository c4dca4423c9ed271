import Shipshape.Proofs.Lexical.Gives
import Shipshape.Proofs.Nesting.Room
import Shipshape.Proofs.Run.Arises

/-!
# Sibling expressions

The elements of an array, the entries of a map, the arms of a conditional and the operands of an
equality are siblings: what they have in common is all that matters about their types.

* `Shipshape.State.Gives` – an expression is accepted in a scope, with a given type;
* `Shipshape.State.Sound.exists_gives_array_iff`,
  `Shipshape.State.Sound.exists_gives_map_iff` – a literal fits where each of its parts does;
* `Shipshape.State.Arises.sibling_types` – wherever a check comes to, siblings are unordered and
  literals are principal.

The order does not matter because the type that siblings share is a join. That it is the least
type which they fit needs more: a function fits only its own type unless there is `any` in it, and
in a state that arises there is none (`Shipshape.State.Sound.functionsSettled`).
-/

namespace Shipshape

open Lexical (Env Mirrors)

/-! ### What siblings share, and where it fits -/

namespace Ty

variable {d : Ty} {tys : List Ty}

theorem Settled.assignableTo_iff {target : Ty} (h : target.Settled) :
    d.assignableTo target = true ↔ d.equivalent target = true := by
  have hknown : target.isAny = false := by
    cases h with
    | @scalar kind hkind => cases kind <;> first | rfl | exact absurd rfl hkind
    | array | map | function | object => rfl
  rw [assignableTo, hknown, Bool.false_or]

theorem array_assignableTo_array (a b : Ty) :
    (array a).assignableTo (array b) = a.equivalent b := by
  simp [assignableTo, isAny, equivalent]

theorem map_assignableTo_map (k v l w : Ty) :
    (map k v).assignableTo (map l w) = (k.equivalent l && v.equivalent w) := by
  simp [assignableTo, isAny, equivalent]

/-- **What many types share fits a place exactly when each of them does**, provided that
nothing is open in the place, nor in the functions that the types hold. -/
theorem exists_sharedBy_equivalent_iff {target : Ty} (htys : ∀ t ∈ tys, t.FunctionsSettled)
    (htarget : target.Settled) :
    (∃ c, sharedBy tys = some c ∧ c.equivalent target = true) ↔
      ∀ t ∈ tys, t.assignableTo target = true := by
  have hshared (c : Ty) (hc : sharedBy tys = some c) :
      c.FillsTo target ↔ c.equivalent target = true :=
    fillsTo_iff_equivalent (functionsSettled_of_sharedBy hc htys)
  have heach (t : Ty) (ht : t ∈ tys) : t.FillsTo target ↔ t.assignableTo target = true := by
    rw [htarget.assignableTo_iff, fillsTo_iff_equivalent (htys t ht)]
  calc (∃ c, sharedBy tys = some c ∧ c.equivalent target = true)
      ↔ ∃ c, sharedBy tys = some c ∧ c.FillsTo target :=
        exists_congr fun c => and_congr_right fun hc => (hshared c hc).symm
    _ ↔ ∀ t ∈ tys, t.FillsTo target := exists_sharedBy_fillsTo_iff
    _ ↔ ∀ t ∈ tys, t.assignableTo target = true := forall₂_congr heach

end Ty

/-! ### Expressions in a scope -/

namespace State

variable {s : State} {id : ScopeId} {env : Env} {e : Expr} {ty : Ty}

/-- **The expression is accepted** in the scope, with the type `ty`. -/
def Gives (s : State) (id : ScopeId) (e : Expr) (ty : Ty) : Prop :=
  ∃ e' t, checkExpr id e s = .ok e' t ∧ e'.ty = ty

/-- Whether the expression is accepted in the scope, with the type `ty`. -/
def gives (s : State) (id : ScopeId) (e : Expr) (ty : Ty) : Bool :=
  match checkExpr id e s with
  | .ok e' _ => e'.ty.equivalent ty && ty.equivalent e'.ty
  | .error _ _ => false

theorem gives_eq_true_iff : s.gives id e ty = true ↔ s.Gives id e ty := by
  rw [gives, Gives]
  cases checkExpr id e s with
  | ok e' t =>
    rw [Bool.and_eq_true]
    constructor
    · rintro ⟨hread, hback⟩
      exact ⟨e', t, rfl, Ty.equivalent_antisymm hread hback⟩
    · rintro ⟨_, _, ⟨⟩, rfl⟩
      exact ⟨Ty.equivalent_refl _, Ty.equivalent_refl _⟩
  | error failure t => simp

instance : Decidable (s.Gives id e ty) := decidable_of_iff _ gives_eq_true_iff

/-- **One level deeper an expression has the same type**, if there is room for it. -/
theorem Gives.deeper (h : s.Gives id e ty) (hroom : s.deeper.HasRoom e) :
    s.deeper.Gives id e ty := by
  obtain ⟨e', t, hrun, hty⟩ := h
  exact ⟨e', _, (checkExpr_nests e).placed hrun hroom, hty⟩

/-- What is accepted is what the lexical checker accepts. -/
theorem gives_iff (h : Mirrors s id env) :
    s.Gives id e ty ↔ Lexical.Gives env s.classes e ty := by
  have hreads : checkExpr id e s = Check.ofRule (Lexical.expr env s.classes e) s :=
    checkExpr_reads e h
  rw [Gives, hreads, Lexical.Gives]
  cases Lexical.expr env s.classes e with
  | ok e' => simp [Check.ofRule]
  | error d => simp [Check.ofRule]

theorem gives_eq (h : Mirrors s id env) : s.Gives id = Lexical.Gives env s.classes := by
  funext e ty
  exact propext (gives_iff h)

/-- In a sound state, `any` does not lie inside a function in the type of an
expression. -/
theorem Sound.functionsSettled (hs : s.Sound) (h : Mirrors s id env) (hty : s.Gives id e ty) :
    ty.FunctionsSettled := by
  obtain ⟨e', he', rfl⟩ := (gives_iff h).mp hty
  exact ((Lexical.expr_fits e (hs.sees h) he').grounded hs.settled).self.functions

end State

theorem forall_of_forall₂ {α β : Type} {R : α → β → Prop} {P : β → Prop} {as : List α}
    {bs : List β} (h : List.Forall₂ R as bs) (hP : ∀ a b, R a b → P b) : ∀ b ∈ bs, P b := by
  induction h with
  | nil => exact fun _ hb => nomatch hb
  | cons hab _ ih => exact List.forall_mem_cons.mpr ⟨hP _ _ hab, ih⟩

/-! ### Literals are principal -/

namespace State

variable {s : State} {id : ScopeId} {env : Env} {span : Span}

/-- The elements of an array have their types one level deeper too, if there is room for
the array. -/
theorem HasRoom.forall₂_array {es : List Expr} {tys : List Ty} (h : s.HasRoom (.array es span))
    (htys : List.Forall₂ (s.Gives id) es tys) :
    s.depth < s.limit ∧ List.Forall₂ (s.deeper.Gives id) es tys := by
  obtain ⟨hlt, hroom⟩ := h.array
  refine ⟨hlt, ((List.forall₂_and_left _ _).mpr ⟨hroom, htys⟩).imp fun e ty he => ?_⟩
  exact he.2.deeper he.1

/-- So do the keys and the values of a map. -/
theorem HasRoom.forall₂_map {items : List (Expr × Expr)} {tys : List (Ty × Ty)}
    (h : s.HasRoom (.map items span))
    (htys : List.Forall₂ (fun p t => s.Gives id p.1 t.1 ∧ s.Gives id p.2 t.2) items tys) :
    s.depth < s.limit ∧
      List.Forall₂ (fun p t => s.deeper.Gives id p.1 t.1 ∧ s.deeper.Gives id p.2 t.2)
        items tys := by
  obtain ⟨hlt, hroom⟩ := h.map
  refine ⟨hlt, ((List.forall₂_and_left _ _).mpr ⟨hroom, htys⟩).imp fun p t hp => ?_⟩
  exact ⟨hp.2.1.deeper hp.1.1, hp.2.2.deeper hp.1.2⟩

/-- **An array fits where each of its elements does.** -/
theorem Sound.exists_gives_array_iff (hs : s.Sound) (h : Mirrors s id env) {es : List Expr}
    {tys : List Ty} (htys : List.Forall₂ (s.Gives id) es tys) (hroom : s.HasRoom (.array es span))
    {target : Ty} (htarget : target.Settled) :
    (∃ ty, s.Gives id (.array es span) ty ∧ ty.assignableTo (.array target) = true) ↔
      ∀ t ∈ tys, t.assignableTo target = true := by
  have hsettled : ∀ t ∈ tys, t.FunctionsSettled :=
    forall_of_forall₂ htys fun e t ht => hs.functionsSettled h ht
  obtain ⟨hlt, hdeeper⟩ := hroom.forall₂_array htys
  rw [gives_eq h.deeper] at hdeeper
  rw [← h.level, ← h.limit] at hlt
  have hgives (ty : Ty) : s.Gives id (.array es span) ty ↔ _ :=
    (gives_iff h).trans (Lexical.gives_array_iff_of_forall₂ hlt hdeeper)
  rw [← Ty.exists_sharedBy_equivalent_iff hsettled htarget]
  constructor
  · rintro ⟨ty, hty, hfits⟩
    obtain ⟨element, helement, rfl⟩ := (hgives ty).mp hty
    exact ⟨element, helement, Ty.array_assignableTo_array _ _ ▸ hfits⟩
  · rintro ⟨element, helement, hfits⟩
    refine ⟨.array element, (hgives _).mpr ⟨element, helement, rfl⟩, ?_⟩
    rw [Ty.array_assignableTo_array]
    exact hfits

/-- **A map fits where each of its keys and each of its values does.** -/
theorem Sound.exists_gives_map_iff (hs : s.Sound) (h : Mirrors s id env)
    {items : List (Expr × Expr)} {tys : List (Ty × Ty)}
    (htys : List.Forall₂ (fun p t => s.Gives id p.1 t.1 ∧ s.Gives id p.2 t.2) items tys)
    (hroom : s.HasRoom (.map items span)) {key value : Ty} (hkey : key.Settled)
    (hvalue : value.Settled) :
    (∃ ty, s.Gives id (.map items span) ty ∧ ty.assignableTo (.map key value) = true) ↔
      ∀ t ∈ tys, t.1.assignableTo key = true ∧ t.2.assignableTo value = true := by
  have hsettled : ∀ t ∈ tys, t.1.FunctionsSettled ∧ t.2.FunctionsSettled :=
    forall_of_forall₂ htys fun p t ht => ⟨hs.functionsSettled h ht.1, hs.functionsSettled h ht.2⟩
  obtain ⟨hlt, hdeeper⟩ := hroom.forall₂_map htys
  rw [gives_eq h.deeper] at hdeeper
  rw [← h.level, ← h.limit] at hlt
  have hgives (ty : Ty) : s.Gives id (.map items span) ty ↔ _ :=
    (gives_iff h).trans (Lexical.gives_map_iff_of_forall₂ hlt hdeeper)
  have hkeys := Ty.exists_sharedBy_equivalent_iff
    (List.forall_mem_map.mpr fun t ht => (hsettled t ht).1) hkey
  have hvalues := Ty.exists_sharedBy_equivalent_iff
    (List.forall_mem_map.mpr fun t ht => (hsettled t ht).2) hvalue
  rw [List.forall_mem_map] at hkeys hvalues
  rw [forall₂_and, ← hkeys, ← hvalues]
  constructor
  · rintro ⟨ty, hty, hfits⟩
    obtain ⟨k, v, hk, hv, rfl⟩ := (hgives ty).mp hty
    rw [Ty.map_assignableTo_map, Bool.and_eq_true] at hfits
    exact ⟨⟨k, hk, hfits.1⟩, v, hv, hfits.2⟩
  · rintro ⟨⟨k, hk, hfitsk⟩, v, hv, hfitsv⟩
    refine ⟨.map k v, (hgives _).mpr ⟨k, v, hk, hv, rfl⟩, ?_⟩
    rw [Ty.map_assignableTo_map, hfitsk, hfitsv, Bool.and_self]

end State

/-! ### Literals of siblings -/

/-- **Siblings are unordered, and literals are principal.**

In every state that arises in the check of a program, and in every scope of it: an array is
accepted exactly when the same elements in another order are, with the same type, and so for
the entries of a map, for the arms of a conditional and for the operands of an equality.
Where expressions are accepted with known types and there is room for the literal, the array of
them is accepted with a type that fits the arrays of a type without `any` exactly when each of
them fits that type, and so for the keys and the values of a map. -/
theorem State.Arises.sibling_types {limit : Nat} {p : Program} {s : State} {id : ScopeId}
    (hs : s.Arises limit p) (hid : id < s.arena.size) :
    (∀ (es es' : List Expr) (span span' : Span) (ty : Ty), es.Perm es' →
      (s.Gives id (.array es span) ty ↔ s.Gives id (.array es' span') ty)) ∧
    (∀ (items items' : List (Expr × Expr)) (span span' : Span) (ty : Ty), items.Perm items' →
      (s.Gives id (.map items span) ty ↔ s.Gives id (.map items' span') ty)) ∧
    (∀ (test a b : Expr) (span span' : Span) (ty : Ty),
      s.Gives id (.conditional test a b span) ty ↔ s.Gives id (.conditional test b a span') ty) ∧
    (∀ (op : BinaryOp) (a b : Expr) (span span' : Span) (ty : Ty), op = .eq ∨ op = .ne →
      (s.Gives id (.binary op a b span) ty ↔ s.Gives id (.binary op b a span') ty)) ∧
    (∀ (es : List Expr) (tys : List Ty) (span : Span) (target : Ty),
      List.Forall₂ (s.Gives id) es tys → s.HasRoom (.array es span) → target.Settled →
      ((∃ ty, s.Gives id (.array es span) ty ∧ ty.assignableTo (.array target) = true) ↔
        ∀ t ∈ tys, t.assignableTo target = true)) ∧
    ∀ (items : List (Expr × Expr)) (tys : List (Ty × Ty)) (span : Span) (key value : Ty),
      List.Forall₂ (fun p t => s.Gives id p.1 t.1 ∧ s.Gives id p.2 t.2) items tys →
      s.HasRoom (.map items span) → key.Settled → value.Settled →
      ((∃ ty, s.Gives id (.map items span) ty ∧ ty.assignableTo (.map key value) = true) ↔
        ∀ t ∈ tys, t.1.assignableTo key = true ∧ t.2.assignableTo value = true) := by
  obtain ⟨env, henv⟩ := hs.exists_mirrors hid
  refine ⟨fun es es' span span' ty hperm => ?_, fun items items' span span' ty hperm => ?_,
    fun test a b span span' ty => ?_, fun op a b span span' ty hop => ?_,
    fun es tys span target htys hroom => ?_, fun items tys span key value htys hroom => ?_⟩
  · rw [gives_iff henv, gives_iff henv]
    exact ⟨Lexical.gives_array_perm hperm, Lexical.gives_array_perm hperm.symm⟩
  · rw [gives_iff henv, gives_iff henv]
    exact ⟨Lexical.gives_map_perm hperm, Lexical.gives_map_perm hperm.symm⟩
  · rw [gives_iff henv, gives_iff henv]
    exact ⟨Lexical.gives_conditional_swap, Lexical.gives_conditional_swap⟩
  · rw [gives_iff henv, gives_iff henv]
    exact ⟨Lexical.gives_equality_swap hop, Lexical.gives_equality_swap hop⟩
  · exact hs.sound.exists_gives_array_iff henv htys hroom
  · exact hs.sound.exists_gives_map_iff henv htys hroom

/-- A method that takes crates, and loops. -/
def stow : FnDecl Stmt :=
  ⟨"stow", [⟨"crates", .array (.named "int"), .null⟩], none,
    ⟨[.whileLoop (.literal (.bool true) .null) ⟨[], .null⟩ .null], .null⟩, .null⟩

/-- A class with that method. -/
def holdProgram : Program :=
  ⟨[.classDecl ⟨"Hold", [], ⟨[], .null⟩, .null, [stow], .null⟩], .null⟩

/-- The state in the body of the method. -/
def aboard : State := Check.after (do
  let (cls, inside, tys, ctor) ← classHead Arena.root "Hold" []
  let _ ← checkCtor inside [] tys ctor ⟨[], .null⟩
  let _ ← checkMethods cls inside []
  let (inner, _) ← functionHead (some cls) inside stow.name stow.params stow.result stow.span
  return inner) (State.initial 8).deeper

/-- The state in the loop of the method. -/
def stowing : State := Check.after (do
  let test ← checkExpr 2 (.literal (.bool true) .null)
  Check.ofRule (Rule.boolean test)
  Check.openScope 2 { inLoop := some true }) aboard.deeper

theorem stowing_arises : stowing.Arises 8 holdProgram := by
  have hmethod : Stmt.Way Arena.root _ _ stow.body.body :=
    .method "Hold" [] ⟨[], .null⟩ .null [] stow [] .null
  have hbody : holdProgram.Comes 8 2 stow.body.body aboard :=
    .enter .start (by decide) hmethod (Check.run_eq_ok (by decide +kernel))
  have hloop : holdProgram.Comes 8 3 [] stowing :=
    .enter hbody (by decide +kernel) (.whileLoop _ _ _) (Check.run_eq_ok (by decide +kernel))
  exact .stmts hloop

/-- The crates that the method takes, as the body refers to them. -/
def crates : Expr := .symbol "crates" .null

/-- No crates. -/
def noCrates : Expr := .array [] .null

/-- In the loop, no crates and crates make an array that holds arrays of whole numbers, in either
order, and none that holds arrays of truth values. -/
theorem stowing_sibling_types :
    stowing.Arises 8 holdProgram ∧ 3 < stowing.arena.size ∧
    List.Forall₂ (stowing.Gives 3) [noCrates, crates] [.array .any, .array .int] ∧
    stowing.HasRoom (.array [noCrates, crates] .null) ∧
    (∀ ty, stowing.Gives 3 (.array [noCrates, crates] .null) ty ↔
      stowing.Gives 3 (.array [crates, noCrates] .null) ty) ∧
    (∃ ty, stowing.Gives 3 (.array [noCrates, crates] .null) ty ∧
      ty.assignableTo (.array (.array .int)) = true) ∧
    ¬∃ ty, stowing.Gives 3 (.array [noCrates, crates] .null) ty ∧
      ty.assignableTo (.array (.array .bool)) = true := by
  have hsize : 3 < stowing.arena.size := by decide +kernel
  have htys : List.Forall₂ (stowing.Gives 3) [noCrates, crates] [.array .any, .array .int] :=
    .cons (by decide +kernel) (.cons (by decide +kernel) .nil)
  have hroom : stowing.HasRoom (.array [noCrates, crates] .null) := by decide +kernel
  obtain ⟨hperm, -, -, -, harray, -⟩ := stowing_arises.sibling_types hsize
  have hint := harray _ _ .null (.array .int) htys hroom (.array (.scalar (by decide)))
  have hbool := harray _ _ .null (.array .bool) htys hroom (.array (.scalar (by decide)))
  refine ⟨stowing_arises, hsize, htys, hroom, fun ty => hperm _ _ _ _ ty (.swap ..), ?_, ?_⟩
  · exact hint.mpr (by decide)
  · rw [hbool]
    decide

end Shipshape
