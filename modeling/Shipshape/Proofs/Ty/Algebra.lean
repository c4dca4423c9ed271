import Mathlib.Data.List.Forall2
import Shipshape.Proofs.Checked.Rule
import Shipshape.Proofs.Settled

/-!
# The algebra of types

To read one type as another is an order with `any` at the bottom, and the type that two values
share is a join.

* `Shipshape.Ty.equivalent_trans`, `Shipshape.Ty.equivalent_antisymm` – reading one type as
  another is an order;
* `Shipshape.Ty.FillsTo` – a second order: the first type becomes the second when `any` is
  filled in, but not inside a function;
* `Shipshape.Ty.exists_common_fillsTo_iff` – the type that two types share is above exactly
  what is above both, in the second order;
* `Shipshape.Ty.fillsTo_iff_equivalent` – the two orders agree above a type with settled
  functions.

The shared type is a join for the second order and not for the first: functions share a type
only if they are the same, though one of two may read as the other. Its laws, associativity
among them, all come from the one statement about what is above it. Where functions are
settled, it is the join for the first order too.
-/

namespace Shipshape.Ty

variable {a b c d : Ty}

/-! ### What a type reads as -/

theorem any_equivalent (b : Ty) : Ty.any.equivalent b = true := by
  rw [equivalent]

theorem scalar_equivalent_iff {kind : Scalar} :
    (Ty.scalar kind).equivalent b = true ↔ kind = .any ∨ b = .scalar kind := by
  cases b with
  | scalar other => cases kind <;> cases other <;> simp [equivalent]
  | _ => cases kind <;> simp [equivalent]

theorem array_equivalent_iff :
    (Ty.array a).equivalent b = true ↔ ∃ e, b = .array e ∧ a.equivalent e = true := by
  cases b <;> simp [equivalent]

theorem map_equivalent_iff {k v : Ty} :
    (Ty.map k v).equivalent b = true ↔
      ∃ l w, b = .map l w ∧ k.equivalent l = true ∧ v.equivalent w = true := by
  cases b <;> simp [equivalent]

theorem equivalentList_iff {as bs : List Ty} :
    equivalentList as bs = true ↔ List.Forall₂ (fun a b => a.equivalent b = true) as bs := by
  induction as generalizing bs with
  | nil => cases bs <;> simp [equivalentList]
  | cons a as ih => cases bs <;> simp [equivalentList, ih]

theorem function_equivalent_iff {ps : List Ty} {r : Ty} :
    (Ty.function ps r).equivalent b = true ↔ ∃ qs t, b = .function qs t ∧
      List.Forall₂ (fun p q => p.equivalent q = true) ps qs ∧ r.equivalent t = true := by
  cases b <;> simp [equivalent, equivalentList_iff]

theorem object_equivalent_iff {cls : ClassRef} :
    (Ty.object cls).equivalent b = true ↔ b = .object cls := by
  cases b with
  | object other => simpa [equivalent] using eq_comm
  | _ => simp [equivalent]

/-! ### Reading is an order -/

theorem forall₂_equivalent_trans {as bs cs : List Ty}
    (has : ∀ a ∈ as, ∀ b c : Ty, a.equivalent b = true → b.equivalent c = true →
      a.equivalent c = true)
    (h : List.Forall₂ (fun a b => a.equivalent b = true) as bs)
    (h' : List.Forall₂ (fun b c => b.equivalent c = true) bs cs) :
    List.Forall₂ (fun a c => a.equivalent c = true) as cs := by
  induction h generalizing cs with
  | nil => exact h'
  | cons hab _ ih =>
    obtain ⟨ha, has⟩ := List.forall_mem_cons.mp has
    cases h' with
    | cons hbc hrest => exact .cons (ha _ _ hab hbc) (ih has hrest)

/-- What reads as a type reads as all that the type reads as. -/
theorem equivalent_trans (hab : a.equivalent b = true) (hbc : b.equivalent c = true) :
    a.equivalent c = true := by
  induction a generalizing b c with
  | scalar kind =>
    rcases scalar_equivalent_iff.mp hab with rfl | rfl
    · exact any_equivalent c
    · exact hbc
  | array element ih =>
    obtain ⟨e, rfl, he⟩ := array_equivalent_iff.mp hab
    obtain ⟨f, rfl, hf⟩ := array_equivalent_iff.mp hbc
    exact array_equivalent_iff.mpr ⟨f, rfl, ih he hf⟩
  | map key value ihk ihv =>
    obtain ⟨l, w, rfl, hl, hw⟩ := map_equivalent_iff.mp hab
    obtain ⟨m, x, rfl, hm, hx⟩ := map_equivalent_iff.mp hbc
    exact map_equivalent_iff.mpr ⟨m, x, rfl, ihk hl hm, ihv hw hx⟩
  | function params result ihps ihr =>
    obtain ⟨qs, t, rfl, hqs, ht⟩ := function_equivalent_iff.mp hab
    obtain ⟨rs, u, rfl, hrs, hu⟩ := function_equivalent_iff.mp hbc
    have hparams := forall₂_equivalent_trans (fun p hp _ _ => ihps p hp) hqs hrs
    exact function_equivalent_iff.mpr ⟨rs, u, rfl, hparams, ihr ht hu⟩
  | object cls =>
    obtain rfl := object_equivalent_iff.mp hab
    exact hbc

theorem forall₂_equivalent_antisymm {as bs : List Ty}
    (has : ∀ a ∈ as, ∀ b : Ty, a.equivalent b = true → b.equivalent a = true → a = b)
    (h : List.Forall₂ (fun a b => a.equivalent b = true) as bs)
    (h' : List.Forall₂ (fun b a => b.equivalent a = true) bs as) : as = bs := by
  induction h with
  | nil => rfl
  | cons hab _ ih =>
    obtain ⟨ha, has⟩ := List.forall_mem_cons.mp has
    cases h' with
    | cons hba hrest => rw [ha _ hab hba, ih has hrest]

/-- **Types that read as each other are the same.** -/
theorem equivalent_antisymm (hab : a.equivalent b = true) (hba : b.equivalent a = true) :
    a = b := by
  induction a generalizing b with
  | scalar kind =>
    rcases scalar_equivalent_iff.mp hab with rfl | rfl
    · -- Only `any` reads as `any`.
      cases b with
      | scalar other => simpa [eq_comm] using scalar_equivalent_iff.mp hba
      | _ => simp [equivalent] at hba
    · rfl
  | array element ih =>
    obtain ⟨e, rfl, he⟩ := array_equivalent_iff.mp hab
    rw [equivalent] at hba
    rw [ih he hba]
  | map key value ihk ihv =>
    obtain ⟨l, w, rfl, hl, hw⟩ := map_equivalent_iff.mp hab
    rw [equivalent, Bool.and_eq_true] at hba
    rw [ihk hl hba.1, ihv hw hba.2]
  | function params result ihps ihr =>
    obtain ⟨qs, t, rfl, hqs, ht⟩ := function_equivalent_iff.mp hab
    rw [equivalent, Bool.and_eq_true, equivalentList_iff] at hba
    rw [forall₂_equivalent_antisymm (fun p hp _ => ihps p hp) hqs hba.1, ihr ht hba.2]
  | object cls => exact (object_equivalent_iff.mp hab).symm

/-- **A settled type reads as nothing but itself.** -/
theorem Settled.eq_of_equivalent (ha : a.Settled) (hab : a.equivalent b = true) : b = a := by
  induction ha generalizing b with
  | scalar hkind => exact (scalar_equivalent_iff.mp hab).resolve_left hkind
  | array _ ih =>
    obtain ⟨e, rfl, he⟩ := array_equivalent_iff.mp hab
    rw [ih he]
  | map _ _ ihk ihv =>
    obtain ⟨l, w, rfl, hl, hw⟩ := map_equivalent_iff.mp hab
    rw [ihk hl, ihv hw]
  | function _ _ ihps ihr =>
    obtain ⟨qs, t, rfl, hqs, ht⟩ := function_equivalent_iff.mp hab
    have hparams := ((List.forall₂_and_left _ _).mpr ⟨ihps, hqs⟩).imp
      fun p q hpq => (hpq.1 hpq.2).symm
    rw [List.forall₂_eq_eq_eq] at hparams
    rw [hparams, ihr ht]
  | object => exact object_equivalent_iff.mp hab

/-! ### Filling in -/

/-- **The first type becomes the second when `any` is filled in**, each time with some type,
but not inside a function. -/
inductive FillsTo : Ty → Ty → Prop
  /-- Every type may stand for `any`. -/
  | any (b : Ty) : FillsTo .any b
  /-- A scalar stays. -/
  | scalar (kind : Scalar) : FillsTo (.scalar kind) (.scalar kind)
  /-- In the elements of an array. -/
  | array {a b : Ty} : FillsTo a b → FillsTo (.array a) (.array b)
  /-- In the keys and the values of a map. -/
  | map {k l v w : Ty} : FillsTo k l → FillsTo v w → FillsTo (.map k v) (.map l w)
  /-- A function stays. -/
  | function (params : List Ty) (result : Ty) :
      FillsTo (.function params result) (.function params result)
  /-- A class stays. -/
  | object (cls : ClassRef) : FillsTo (.object cls) (.object cls)

theorem FillsTo.refl (a : Ty) : a.FillsTo a := by
  induction a with
  | scalar kind => exact .scalar kind
  | array _ ih => exact .array ih
  | map _ _ ihk ihv => exact .map ihk ihv
  | function params result _ _ => exact .function params result
  | object cls => exact .object cls

theorem FillsTo.equivalent (h : a.FillsTo b) : a.equivalent b = true := by
  induction h with
  | any b => exact any_equivalent b
  | scalar kind => exact equivalent_refl _
  | array _ ih => exact array_equivalent_iff.mpr ⟨_, rfl, ih⟩
  | map _ _ ihk ihv => exact map_equivalent_iff.mpr ⟨_, _, rfl, ihk, ihv⟩
  | function params result => exact equivalent_refl _
  | object cls => exact equivalent_refl _

theorem FillsTo.antisymm (hab : a.FillsTo b) (hba : b.FillsTo a) : a = b :=
  equivalent_antisymm hab.equivalent hba.equivalent

/-- **What a type with settled functions reads as is what it fills to.** -/
theorem fillsTo_iff_equivalent (ha : a.FunctionsSettled) :
    a.FillsTo b ↔ a.equivalent b = true := by
  refine ⟨FillsTo.equivalent, fun hab => ?_⟩
  induction a generalizing b with
  | scalar kind =>
    rcases scalar_equivalent_iff.mp hab with rfl | rfl
    · exact .any b
    · exact .scalar kind
  | array element ih =>
    obtain ⟨e, rfl, he⟩ := array_equivalent_iff.mp hab
    exact .array (ih ha he)
  | map key value ihk ihv =>
    obtain ⟨l, w, rfl, hl, hw⟩ := map_equivalent_iff.mp hab
    exact .map (ihk ha.1 hl) (ihv ha.2 hw)
  | function params result _ _ =>
    have hsettled : Settled (.function params result) := ha
    rw [hsettled.eq_of_equivalent hab]
    exact .function params result
  | object cls =>
    obtain rfl := object_equivalent_iff.mp hab
    exact .object cls

/-! ### The shared type is a join -/

/-- **What is above the type that two types share is what is above both.** Where they share
none, nothing is above both. -/
theorem exists_common_fillsTo_iff :
    (∃ c, a.common b = some c ∧ c.FillsTo d) ↔ a.FillsTo d ∧ b.FillsTo d := by
  fun_induction common a b generalizing d with
  | case1 b => simp [FillsTo.any]
  | case2 a => simp [FillsTo.any]
  | case3 kind | case10 cls => simp
  | case4 kind other hkind hother hne =>
    constructor
    · simp
    · rintro ⟨h, h'⟩
      cases h with
      | any => exact absurd rfl hkind
      | scalar =>
        cases h' with
        | any => exact absurd rfl hother
        | scalar => exact absurd rfl hne
  | case5 a b ih =>
    constructor
    · rintro ⟨c, hc, h⟩
      obtain ⟨e, he, rfl⟩ := Option.map_eq_some_iff.mp hc
      cases h with | array h =>
      obtain ⟨ha, hb⟩ := ih.mp ⟨e, he, h⟩
      exact ⟨.array ha, .array hb⟩
    · rintro ⟨ha, hb⟩
      cases ha with | array ha =>
      cases hb with | array hb =>
      obtain ⟨c, hc, h⟩ := ih.mpr ⟨ha, hb⟩
      exact ⟨.array c, by rw [hc, Option.map_some], .array h⟩
  | case6 k v l w key value hvalue hkey ihk ihv =>
    constructor
    · rintro ⟨c, hc, h⟩
      obtain rfl := Option.some.inj hc
      cases h with | map hk hv =>
      obtain ⟨hk, hl⟩ := ihk.mp ⟨key, hkey, hk⟩
      obtain ⟨hv, hw⟩ := ihv.mp ⟨value, hvalue, hv⟩
      exact ⟨.map hk hv, .map hl hw⟩
    · rintro ⟨h, h'⟩
      cases h with | map hk hv =>
      cases h' with | map hl hw =>
      obtain ⟨c, hc, hck⟩ := ihk.mpr ⟨hk, hl⟩
      obtain ⟨e, he, hev⟩ := ihv.mpr ⟨hv, hw⟩
      obtain rfl := Option.some.inj (hkey.symm.trans hc)
      obtain rfl := Option.some.inj (hvalue.symm.trans he)
      exact ⟨_, rfl, .map hck hev⟩
  | case7 k v l w hnone ihk ihv =>
    constructor
    · simp
    · rintro ⟨h, h'⟩
      cases h with | map hk hv =>
      cases h' with | map hl hw =>
      obtain ⟨c, hc, -⟩ := ihk.mpr ⟨hk, hl⟩
      obtain ⟨e, he, -⟩ := ihv.mpr ⟨hv, hw⟩
      exact (hnone c e hc he).elim
  | case8 ps r qs t h =>
    -- Functions that read as each other are the same.
    rw [Bool.and_eq_true] at h
    rw [← equivalent_antisymm h.1 h.2]
    simp
  | case9 ps r qs t hne =>
    constructor
    · simp
    · rintro ⟨h, h'⟩
      cases h with | function =>
      cases h' with | function =>
      exact absurd (by simp [equivalent_refl]) hne
  | case11 cls other hne =>
    constructor
    · simp
    · rintro ⟨h, h'⟩
      cases h with | object =>
      cases h' with | object =>
      exact absurd rfl hne
  | case12 a b hb ha hscalar harray hmap hfunction hobject =>
    constructor
    · simp
    · rintro ⟨h, h'⟩
      -- Neither type is `any`, so what is above one is of its kind, and they differ in kind.
      cases h with
      | any => exact absurd rfl ha
      | scalar =>
        cases h' with
        | any => exact absurd rfl hb
        | scalar => exact (hscalar _ _ rfl rfl).elim
      | array =>
        cases h' with
        | any => exact absurd rfl hb
        | array => exact (harray _ _ rfl rfl).elim
      | map =>
        cases h' with
        | any => exact absurd rfl hb
        | map => exact (hmap _ _ _ _ rfl rfl).elim
      | function =>
        cases h' with
        | any => exact absurd rfl hb
        | function => exact (hfunction _ _ _ _ rfl rfl).elim
      | object =>
        cases h' with
        | any => exact absurd rfl hb
        | object => exact (hobject _ _ rfl rfl).elim

/-- Two types, either of which may be missing, are the same if the same is above them. -/
theorem eq_of_above {x y : Option Ty}
    (h : ∀ d, (∃ c, x = some c ∧ c.FillsTo d) ↔ ∃ c, y = some c ∧ c.FillsTo d) : x = y := by
  cases x with
  | none =>
    cases y with
    | none => rfl
    | some c =>
      obtain ⟨_, hnone, -⟩ := (h c).mpr ⟨c, rfl, .refl c⟩
      cases hnone
  | some b =>
    obtain ⟨c, rfl, hcb⟩ := (h b).mp ⟨b, rfl, .refl b⟩
    obtain ⟨e, he, hec⟩ := (h c).mpr ⟨c, rfl, .refl c⟩
    obtain rfl := Option.some.inj he
    rw [hec.antisymm hcb]

/-- A type shares itself with itself. -/
theorem common_self (a : Ty) : a.common a = some a :=
  eq_of_above fun d => by simp [exists_common_fillsTo_iff]

/-- The order of two types does not matter. -/
theorem common_comm (a b : Ty) : a.common b = b.common a :=
  eq_of_above fun d => by rw [exists_common_fillsTo_iff, exists_common_fillsTo_iff, and_comm]

theorem any_common (a : Ty) : Ty.any.common a = some a := by
  rw [common]

theorem common_any (a : Ty) : a.common .any = some a := by
  rw [common_comm, any_common]

/-- What is above a third type and what two others share. -/
theorem exists_bind_common_fillsTo_iff {x : Option Ty} :
    (∃ e, x.bind (·.common c) = some e ∧ e.FillsTo d) ↔
      (∃ e, x = some e ∧ e.FillsTo d) ∧ c.FillsTo d := by
  cases x with
  | none => simp
  | some e => simp [exists_common_fillsTo_iff]

/-- **The grouping of three types does not matter**: both groupings fail together, and else
give the same type. -/
theorem common_assoc (a b c : Ty) :
    (a.common b).bind (·.common c) = (b.common c).bind a.common := by
  have hswap : (b.common c).bind a.common = (b.common c).bind (·.common a) :=
    congrArg _ (funext fun e => common_comm a e)
  rw [hswap]
  refine eq_of_above fun d => ?_
  rw [exists_bind_common_fillsTo_iff, exists_bind_common_fillsTo_iff, exists_common_fillsTo_iff,
    exists_common_fillsTo_iff]
  tauto

/-! ### Types with settled functions -/

/-- Two types share a type if something is above both. -/
theorem exists_common_iff (ha : a.FunctionsSettled) (hb : b.FunctionsSettled) :
    (∃ c, a.common b = some c) ↔ ∃ d, a.equivalent d = true ∧ b.equivalent d = true := by
  constructor
  · rintro ⟨c, hc⟩
    obtain ⟨hac, hbc⟩ := exists_common_fillsTo_iff.mp ⟨c, hc, .refl c⟩
    exact ⟨c, hac.equivalent, hbc.equivalent⟩
  · rintro ⟨d, had, hbd⟩
    rw [← fillsTo_iff_equivalent ha] at had
    rw [← fillsTo_iff_equivalent hb] at hbd
    obtain ⟨c, hc, -⟩ := exists_common_fillsTo_iff.mpr ⟨had, hbd⟩
    exact ⟨c, hc⟩

/-- **The shared type is the least above both.** -/
theorem common_isLeast (ha : a.FunctionsSettled) (hb : b.FunctionsSettled)
    (hc : a.common b = some c) :
    (a.equivalent c = true ∧ b.equivalent c = true) ∧
      ∀ d, a.equivalent d = true → b.equivalent d = true → c.equivalent d = true := by
  constructor
  · obtain ⟨hac, hbc⟩ := exists_common_fillsTo_iff.mp ⟨c, hc, .refl c⟩
    exact ⟨hac.equivalent, hbc.equivalent⟩
  · intro d had hbd
    rw [← fillsTo_iff_equivalent ha] at had
    rw [← fillsTo_iff_equivalent hb] at hbd
    obtain ⟨e, he, hed⟩ := exists_common_fillsTo_iff.mpr ⟨had, hbd⟩
    obtain rfl := Option.some.inj (hc.symm.trans he)
    exact hed.equivalent

/-- The type with whole numbers for `any`, except inside functions. -/
def fill : Ty → Ty
  | .scalar .any => .int
  | .array a => .array a.fill
  | .map k v => .map k.fill v.fill
  | t => t

theorem fillsTo_fill (a : Ty) : a.FillsTo a.fill := by
  fun_induction fill a with
  | case1 => exact .any _
  | case2 a ih => exact .array ih
  | case3 k v ihk ihv => exact .map ihk ihv
  | case4 t => exact .refl t

theorem containsAny_fill (a : Ty) : a.fill.containsAny = false := by
  fun_induction fill a with
  | case1 => rfl
  | case2 a ih => exact ih
  | case3 k v ihk ihv => simp [containsAny, ihk, ihv]
  | case4 t hany harray hmap => cases t <;> simp_all [containsAny]

theorem functionsSettled_fill (ha : a.FunctionsSettled) : a.fill.FunctionsSettled := by
  fun_induction fill a with
  | case1 => trivial
  | case2 a ih => exact ih ha
  | case3 k v ihk ihv => exact ⟨ihk ha.1, ihv ha.2⟩
  | case4 t => exact ha

/-- **A type without `any` reads as itself alone.** -/
theorem eq_of_containsAny_eq_false (ha : a.FunctionsSettled) (hany : a.containsAny = false)
    (hab : a.equivalent b = true) : b = a :=
  ((settled_iff a).mpr ⟨ha, hany⟩).eq_of_equivalent hab

/-- **A type with `any` reads as another**, with settled functions if it has such itself. -/
theorem containsAny_eq_false_of_forall (ha : a.FunctionsSettled)
    (h : ∀ b : Ty, b.FunctionsSettled → a.equivalent b = true → b = a) :
    a.containsAny = false := by
  have hfill : a.fill = a := h a.fill (functionsSettled_fill ha) (fillsTo_fill a).equivalent
  rw [← hfill]
  exact containsAny_fill a

/-- **The laws of the two ways in which types compare.**

To read one type as another is an order with `any` as its least element. Sharing a type is
idempotent, commutative and associative as a partial operation, with `any` as its unit. Among
the types with settled functions, two share a type exactly when some type is above both, and
then it is the least such; and a type contains no `any` exactly when it reads as itself alone,
be it among all types or among these. -/
theorem equivalent_common_algebra :
    ((∀ a : Ty, a.equivalent a = true) ∧
      (∀ a b c : Ty, a.equivalent b = true → b.equivalent c = true → a.equivalent c = true) ∧
      (∀ a b : Ty, a.equivalent b = true → b.equivalent a = true → a = b) ∧
      ∀ a : Ty, Ty.any.equivalent a = true) ∧
    ((∀ a : Ty, a.common a = some a) ∧
      (∀ a b : Ty, a.common b = b.common a) ∧
      (∀ a b c : Ty, (a.common b).bind (·.common c) = (b.common c).bind (a.common ·)) ∧
      ∀ a : Ty, Ty.any.common a = some a ∧ a.common .any = some a) ∧
    (∀ a b : Ty, a.FunctionsSettled → b.FunctionsSettled →
      ((∃ c, a.common b = some c) ↔ ∃ d, a.equivalent d = true ∧ b.equivalent d = true) ∧
      ∀ c, a.common b = some c → c.FunctionsSettled ∧
        (a.equivalent c = true ∧ b.equivalent c = true) ∧
        ∀ d, a.equivalent d = true → b.equivalent d = true → c.equivalent d = true) ∧
    ∀ t : Ty, t.FunctionsSettled →
      (t.containsAny = false ↔ ∀ u, t.equivalent u = true → u = t) ∧
      (t.containsAny = false ↔ ∀ u, u.FunctionsSettled → t.equivalent u = true → u = t) := by
  refine ⟨⟨equivalent_refl, fun _ _ _ => equivalent_trans, fun _ _ => equivalent_antisymm,
    any_equivalent⟩,
    ⟨common_self, common_comm, common_assoc, fun a => ⟨any_common a, common_any a⟩⟩,
    fun a b ha hb => ⟨exists_common_iff ha hb, fun c hc => ?_⟩, fun t ht => ⟨?_, ?_⟩⟩
  · exact ⟨functionsSettled_of_common hc ha hb, common_isLeast ha hb hc⟩
  · refine ⟨fun hany u => eq_of_containsAny_eq_false ht hany, fun h => ?_⟩
    exact containsAny_eq_false_of_forall ht fun u _ => h u
  · refine ⟨fun hany u _ => eq_of_containsAny_eq_false ht hany, fun h => ?_⟩
    exact containsAny_eq_false_of_forall ht h

/-- Two maps with open parts share a map that is open in one place only, which is the least
above both; and the settled array of functions reads as itself alone. -/
theorem openMaps_algebra :
    (Ty.map .any (.array .any)).FunctionsSettled ∧ (Ty.map .string .any).FunctionsSettled ∧
    (Ty.map .any (.array .any)).common (.map .string .any) =
      some (.map .string (.array .any)) ∧
    (∀ d, (Ty.map .any (.array .any)).equivalent d = true →
      (Ty.map .string .any).equivalent d = true →
      (Ty.map .string (.array .any)).equivalent d = true) ∧
    ∀ u, (Ty.array (.function [.int] .string)).equivalent u = true →
      u = .array (.function [.int] .string) := by
  obtain ⟨-, -, hjoin, hsettled⟩ := equivalent_common_algebra
  have hleft : (Ty.map .any (.array .any)).FunctionsSettled := ⟨trivial, trivial⟩
  have hright : (Ty.map .string .any).FunctionsSettled := ⟨trivial, trivial⟩
  have hcommon : (Ty.map .any (.array .any)).common (.map .string .any) =
      some (.map .string (.array .any)) := by simp [common]
  have hfunctions : (Ty.array (.function [.int] .string)).FunctionsSettled :=
    .function (List.forall_mem_singleton.mpr (.scalar (by decide))) (.scalar (by decide))
  refine ⟨hleft, hright, hcommon, ?_, ?_⟩
  · exact ((hjoin _ _ hleft hright).2 _ hcommon).2.2
  · exact (hsettled _ hfunctions).1.mp rfl

end Shipshape.Ty
