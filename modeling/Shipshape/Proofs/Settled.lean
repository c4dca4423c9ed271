import Shipshape.Class
import Shipshape.Entity
import Shipshape.Proofs.Induction
import Shipshape.Ty.Order

/-!
# Settled types

A type is settled when `any` occurs nowhere in it, at any depth.

* `Shipshape.Ty.Settled` – no part of a type is `any`;
* `Shipshape.Ty.FunctionsSettled` – `any` may stand in the arrays and maps that the
  type is made of, but not inside a function;
* `Shipshape.Entity.Settled`, `Shipshape.ClassInfo.Settled` – what a name stands for,
  and what is known about a class.

`Shipshape.Ty.containsAny` does not look into functions, so by itself it does not
decide whether a type is settled. It does for a type whose functions are settled
(`Shipshape.Ty.settled_iff`), and these are the types of expressions. The type that
two values share is open only if one of theirs is
(`Shipshape.Ty.settled_of_common`).
-/

namespace Shipshape

namespace Ty

/-- **`any` occurs nowhere in the type**, at any depth. -/
inductive Settled : Ty → Prop
  /-- A scalar other than `any`. -/
  | scalar {kind : Scalar} : kind ≠ .any → Settled (.scalar kind)
  /-- Arrays of settled elements. -/
  | array {element : Ty} : Settled element → Settled (.array element)
  /-- Maps between settled types. -/
  | map {key value : Ty} : Settled key → Settled value → Settled (.map key value)
  /-- Functions between settled types. -/
  | function {params : List Ty} {result : Ty} : (∀ p ∈ params, Settled p) → Settled result →
      Settled (.function params result)
  /-- Classes. -/
  | object {cls : ClassRef} : Settled (.object cls)

/-- **`any` does not lie inside a function**, though it may stand elsewhere in the
type. -/
def FunctionsSettled : Ty → Prop
  | .scalar _ => True
  | .array element => element.FunctionsSettled
  | .map key value => key.FunctionsSettled ∧ value.FunctionsSettled
  | .function params result => Settled (.function params result)
  | .object _ => True

theorem Settled.functionsSettled {t : Ty} (h : t.Settled) : t.FunctionsSettled := by
  induction h with
  | scalar _ => trivial
  | array _ ih => exact ih
  | map _ _ ihk ihv => exact ⟨ihk, ihv⟩
  | function hps hr => exact .function hps hr
  | object => trivial

theorem Settled.containsAny_eq_false {t : Ty} (h : t.Settled) : t.containsAny = false := by
  induction h with
  | scalar h => simpa [containsAny] using h
  | array _ ih => simpa [containsAny] using ih
  | map _ _ ihk ihv => simp [containsAny, ihk, ihv]
  | function => rfl
  | object => rfl

/-- **The test for `any` decides whether a type is settled**, provided that its
functions are. -/
theorem settled_iff (t : Ty) : t.Settled ↔ t.FunctionsSettled ∧ t.containsAny = false := by
  refine ⟨fun h => ⟨h.functionsSettled, h.containsAny_eq_false⟩, ?_⟩
  rintro ⟨hfun, hany⟩
  induction t with
  | scalar kind => exact .scalar (by simpa [containsAny] using hany)
  | array element ih => exact .array (ih hfun hany)
  | map key value ihk ihv =>
    obtain ⟨hk, hv⟩ : key.containsAny = false ∧ value.containsAny = false := by
      simpa [containsAny] using hany
    exact .map (ihk hfun.1 hk) (ihv hfun.2 hv)
  | function params result _ _ => exact hfun
  | object cls => exact .object

/-! ### The type that two values share -/

/-- What two types share has its functions from them. -/
theorem functionsSettled_of_common {a b c : Ty} (h : a.common b = some c)
    (ha : a.FunctionsSettled) (hb : b.FunctionsSettled) : c.FunctionsSettled := by
  fun_induction common a b generalizing c with
  | case1 b => exact Option.some.inj h ▸ hb
  | case2 a => exact Option.some.inj h ▸ ha
  | case3 a b => exact Option.some.inj h ▸ trivial
  | case5 a b ih =>
    obtain ⟨d, hd, rfl⟩ := Option.map_eq_some_iff.mp h
    have hd : d.FunctionsSettled := ih hd ha hb
    exact hd
  | case6 k v l w key value hv hk ihk ihv =>
    obtain rfl := Option.some.inj h
    exact ⟨ihk hk ha.1 hb.1, ihv hv ha.2 hb.2⟩
  | case8 ps r qs t => exact Option.some.inj h ▸ ha
  | case10 => exact Option.some.inj h ▸ trivial
  | case4 | case7 | case9 | case11 | case12 => cases h

/-- **What two settled types share is settled.** -/
theorem settled_of_common {a b c : Ty} (h : a.common b = some c) (ha : a.Settled)
    (hb : b.Settled) : c.Settled := by
  fun_induction common a b generalizing c with
  | case1 b => exact Option.some.inj h ▸ hb
  | case2 a => exact Option.some.inj h ▸ ha
  | case3 a b => exact Option.some.inj h ▸ ha
  | case5 a b ih =>
    obtain ⟨d, hd, rfl⟩ := Option.map_eq_some_iff.mp h
    cases ha with | array ha =>
    cases hb with | array hb =>
    exact .array (ih hd ha hb)
  | case6 k v l w key value hv hk ihk ihv =>
    obtain rfl := Option.some.inj h
    cases ha with | map hak hav =>
    cases hb with | map hbk hbv =>
    exact .map (ihk hk hak hbk) (ihv hv hav hbv)
  -- Of two functions the first is kept, and nothing inside it is joined.
  | case8 ps r qs t => exact Option.some.inj h ▸ ha
  | case10 => exact Option.some.inj h ▸ .object
  | case4 | case7 | case9 | case11 | case12 => cases h

end Ty

/-! ### Declarations -/

/-- **`any` occurs nowhere in what an entity stands for**, be it a value or a
type. -/
structure Entity.Settled (e : Entity) : Prop where
  /-- The type of the entity as a value. -/
  value : ∀ ty, e.valueType? = some ty → ty.Settled
  /-- The type that the entity denotes. -/
  denoted : ∀ ty, e.denotedType? = some ty → ty.Settled

/-- An entity that is a value is settled if its type is. -/
theorem Entity.Settled.of_value {e : Entity} {ty : Ty} (he : e.valueType? = some ty)
    (h : ty.Settled) : e.Settled := by
  refine ⟨fun other hother => ?_, fun other hother => ?_⟩
  · rw [he] at hother
    exact Option.some.inj hother ▸ h
  · have hnone := e.valueType?_isSome_iff.mp (by rw [he]; rfl)
    rw [hnone] at hother
    cases hother

theorem Entity.Settled.classType {id : Nat} {cls : ClassRef} :
    Entity.Settled ⟨id, .classType cls⟩ :=
  ⟨fun _ he => (nomatch he), fun _ he => Option.some.inj he ▸ Ty.Settled.object⟩

/-- The built-in types are settled. -/
theorem builtInEntities_settled : ∀ b ∈ builtInEntities, b.2.Settled := by
  intro b hb
  obtain ⟨⟨kind, i⟩, hmem, rfl⟩ := List.mem_map.mp hb
  have hkind : kind ∈ Scalar.builtIns := List.fst_mem_of_mem_zipIdx hmem
  have hne : kind ≠ .any := by
    rintro rfl
    revert hkind
    decide
  exact ⟨fun _ he => (nomatch he), fun _ he => Option.some.inj he ▸ Ty.Settled.scalar hne⟩

/-- **`any` occurs nowhere in what is known about a class.** -/
structure ClassInfo.Settled (c : ClassInfo) : Prop where
  /-- The constructor. -/
  ctor : c.ctor.toTy.Settled
  /-- The fields. -/
  fields : ∀ f ∈ c.fields, f.2.Settled
  /-- The methods. -/
  methods : ∀ m ∈ c.methodTypes, m.2.Settled

namespace ClassInfo

variable {c : ClassInfo} {name : String}

theorem Settled.new (name : String) : (ClassInfo.new name).Settled := by
  refine ⟨.function (fun p hp => nomatch hp) (.scalar (by decide)), ?_, ?_⟩
  · exact fun f hf => nomatch hf
  · exact fun m hm => nomatch hm

theorem Settled.of_field? (h : c.Settled) {ty : Ty} (hty : c.field? name = some ty) : ty.Settled :=
  h.fields _ (mem_of_lookup_eq_some hty)

theorem Settled.of_method? (h : c.Settled) {signature : Signature}
    (hsig : c.method? name = some signature) : signature.toTy.Settled :=
  h.methods _ (mem_of_method? hsig)

end ClassInfo

/-- `any` occurs nowhere in what is known about the classes. -/
def ClassTable.Settled (t : ClassTable) : Prop := ∀ c ∈ t.infos, c.Settled

theorem ClassTable.Settled.info {t : ClassTable} (h : t.Settled) (cls : ClassRef) :
    (t.info cls).Settled := by
  rw [ClassTable.info]
  cases hc : t.infos[cls.id]? with
  | none => exact .new cls.name
  | some c => exact h c (List.mem_of_getElem? hc)

end Shipshape
