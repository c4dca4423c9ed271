import Shipshape.Proofs.Checked.Open
import Shipshape.Proofs.Outline.Walk
import Shipshape.Proofs.Ty.Algebra

/-!
# Which literal an open type comes from

The type of an expression is open only if an empty literal lies in the expression
(`Shipshape.Checked.Expr.Grounded`). The form of the type says more: it tells what kind of
literal the open type was made by.

* `Shipshape.Ty.Telltale` – a property of open types that an expression can only take over
  from one of its parts, unless it is a literal of arrays or maps itself;
* `Shipshape.Checked.Expr.Throughout.exists_array` – an open type that is not a map comes from
  an array literal;
* `Shipshape.Checked.Expr.Throughout.exists_map` – an open type that is a map, or made of
  arrays of maps, comes from a map literal.

The literal in question has an open type, which is not to say that it is empty: an empty
literal lies in it, and may be of the other kind.
-/

namespace Shipshape

namespace Ty

variable {a b c : Ty}

/-! ### Properties of open types -/

/-- **A property that tells where an open type comes from.** It holds of open types only, of
what two types share only if it holds of one of them, and of the arrays with elements that it
holds of. -/
structure Telltale (T : Ty → Prop) : Prop where
  /-- The type is open. -/
  isOpen : ∀ {a}, T a → ¬a.Settled
  /-- Sharing does not bring it in. -/
  common : ∀ {a b c}, a.common b = some c → T c → T a ∨ T b
  /-- Taking an element does not bring it in. -/
  array : ∀ {a}, T a → T (.array a)

/-- What some types share has it only if one of them does, or `any` does. -/
theorem Telltale.exists_of_sharedBy {T : Ty → Prop} (h : Telltale T) {tys : List Ty} {shared : Ty}
    (hshared : sharedBy tys = some shared) (hT : T shared) : T .any ∨ ∃ t ∈ tys, T t := by
  refine foldlM_common (P := fun t => T t → T .any ∨ ∃ t ∈ tys, T t) ?_ hshared .inl ?_ hT
  · intro a b c hc ha hb hTc
    exact (h.common hc hTc).elim ha hb
  · exact fun t ht hTt => .inr ⟨t, ht, hTt⟩

/-- What a type shares with another is open only if the type is. -/
theorem not_settled_of_common (h : a.common b = some c) (hc : ¬c.Settled) :
    ¬a.Settled ∧ ¬b.Settled := by
  obtain ⟨hac, hbc⟩ := exists_common_fillsTo_iff.mp ⟨c, h, .refl c⟩
  refine ⟨fun ha => hc ?_, fun hb => hc ?_⟩
  · rwa [ha.eq_of_equivalent hac.equivalent]
  · rwa [hb.eq_of_equivalent hbc.equivalent]

theorem not_settled_array (h : ¬a.Settled) : ¬(Ty.array a).Settled := by
  rintro ⟨⟩
  exact h ‹_›

/-- The type is a map. -/
def isMap : Ty → Bool
  | .map _ _ => true
  | .scalar _ | .array _ | .function _ _ | .object _ => false

/-- The type is a map, or one of arrays of maps. -/
def holdsMap : Ty → Bool
  | .map _ _ => true
  | .array element => element.holdsMap
  | .scalar _ | .function _ _ | .object _ => false

/-- **An open type that is not a map.** -/
theorem telltale_not_isMap : Telltale fun a => ¬a.Settled ∧ a.isMap = false where
  isOpen h := h.1
  common {a b c} h hc := by
    obtain ⟨hac, -⟩ := exists_common_fillsTo_iff.mp ⟨c, h, .refl c⟩
    refine .inl ⟨(not_settled_of_common h hc.1).1, ?_⟩
    cases hac with
    | map => exact hc.2
    | _ => rfl
  array h := ⟨not_settled_array h.1, rfl⟩

/-- What two types share holds a map only if one of them does. -/
theorem holdsMap_of_common (h : a.common b = some c) (hc : c.holdsMap = true) :
    a.holdsMap = true ∨ b.holdsMap = true := by
  fun_induction common a b generalizing c with
  | case1 b => exact .inr (Option.some.inj h ▸ hc)
  | case2 a => exact .inl (Option.some.inj h ▸ hc)
  | case3 a b => exact .inl (Option.some.inj h ▸ hc)
  | case5 a b ih =>
    obtain ⟨d, hd, rfl⟩ := Option.map_eq_some_iff.mp h
    exact ih hd hc
  | case6 k v l w => exact .inl rfl
  | case8 ps r qs t => exact .inl (Option.some.inj h ▸ hc)
  | case10 => exact .inl (Option.some.inj h ▸ hc)
  | case4 | case7 | case9 | case11 | case12 => cases h

/-- **An open type that holds a map.** -/
theorem telltale_holdsMap : Telltale fun a => ¬a.Settled ∧ a.holdsMap = true where
  isOpen h := h.1
  common h hc := by
    obtain ⟨ha, hb⟩ := not_settled_of_common h hc.1
    rcases holdsMap_of_common h hc.2 with hmap | hmap
    · exact .inl ⟨ha, hmap⟩
    · exact .inr ⟨hb, hmap⟩
  array h := ⟨not_settled_array h.1, h.2⟩

end Ty

/-! ### Expressions -/

namespace Checked.Expr

variable {classes : ClassTable} {a : Ambient} {T : Ty → Prop}

/-- **One node takes a telltale property over from a part**, unless it is an array or a map
literal. -/
theorem Fits.telltale (hT : Ty.Telltale T) {e : Expr} (h : e.Fits classes a)
    (hclasses : classes.Settled) (hparts : ∀ c ∈ e.parts, c.Grounded) (he : T e.ty) :
    (∃ c ∈ e.parts, T c.ty) ∨ (∃ elements ty span, e = .array elements ty span) ∨
      ∃ entries ty span, e = .map entries ty span := by
  have hopen : ¬e.ty.Settled := hT.isOpen he
  obtain ⟨htyped, hentity⟩ := h
  cases e with
  | literal value ty span =>
    obtain rfl : ty = value.ty := htyped
    exact absurd value.settled_ty hopen
  | symbol name entity ty span => exact absurd ((hentity entity rfl).value ty htyped.1) hopen
  | self cls ty span =>
    obtain ⟨-, rfl⟩ := htyped
    exact absurd .object hopen
  | binary op left right ty span =>
    rcases htyped.result with rfl | rfl
    · exact .inl ⟨left, by simp [parts], he⟩
    · exact absurd (.scalar (by decide)) hopen
  | unary op operand ty span =>
    rcases htyped.result with rfl | rfl
    · exact .inl ⟨operand, by simp [parts], he⟩
    · exact absurd (.scalar (by decide)) hopen
  | conditional test consequent alternate ty span =>
    rcases hT.common htyped.2 he with hx | hy
    · exact .inl ⟨consequent, by simp [parts], hx⟩
    · exact .inl ⟨alternate, by simp [parts], hy⟩
  | call callee signature args ty span =>
    obtain ⟨hcallee, -, rfl⟩ := htyped
    have hfun := (hparts callee (by simp [parts])).functions
    rw [hcallee] at hfun
    cases hfun with
    | function _ hresult => exact absurd hresult hopen
  | subscript whole index ty span =>
    refine .inl ⟨whole, by simp [parts], ?_⟩
    rw [htyped.1]
    exact hT.array he
  | array elements ty span => exact .inr (.inl ⟨elements, ty, span, rfl⟩)
  | map entries ty span => exact .inr (.inr ⟨entries, ty, span, rfl⟩)
  | member object name ty span =>
    obtain ⟨cls, -, hfield⟩ := htyped
    exact absurd ((hclasses.info cls).of_field? hfield) hopen
  | methodCall object name signature args ty span =>
    obtain ⟨cls, -, hmethod, -, rfl⟩ := htyped
    cases (hclasses.info cls).of_method? hmethod with
    | function _ hresult => exact absurd hresult hopen
  | construct cls args ty span =>
    obtain ⟨-, -, rfl⟩ := htyped
    exact absurd .object hopen

/-- **An open type that is not a map comes from an array literal** of an open type. -/
theorem Throughout.exists_array {e : Expr} (h : e.Throughout (Fits classes a))
    (hclasses : classes.Settled) (hopen : ¬e.ty.Settled) (hmap : e.ty.isMap = false) :
    ∃ elements ty span, (Expr.array elements ty span).Within e ∧ ¬ty.Settled := by
  induction h with
  | @intro e hfits hparts ih =>
    have hgrounded : ∀ c ∈ e.parts, c.Grounded := fun c hc => ((hparts c hc).grounded hclasses).self
    rcases hfits.telltale Ty.telltale_not_isMap hclasses hgrounded ⟨hopen, hmap⟩ with
      ⟨c, hc, hcopen, hcmap⟩ | ⟨elements, ty, span, rfl⟩ | ⟨entries, ty, span, rfl⟩
    · obtain ⟨elements, ty, span, hwithin, hty⟩ := ih c hc hcopen hcmap
      exact ⟨elements, ty, span, .part hc hwithin, hty⟩
    · exact ⟨elements, ty, span, .refl, hopen⟩
    · obtain ⟨key, value, -, -, rfl⟩ := hfits.typed
      cases hmap

/-- **An open type that holds a map comes from a map literal** of an open type. -/
theorem Throughout.exists_map {e : Expr} (h : e.Throughout (Fits classes a))
    (hclasses : classes.Settled) (hopen : ¬e.ty.Settled) (hmap : e.ty.holdsMap = true) :
    ∃ entries ty span, (Expr.map entries ty span).Within e ∧ ¬ty.Settled := by
  induction h with
  | @intro e hfits hparts ih =>
    have hgrounded : ∀ c ∈ e.parts, c.Grounded := fun c hc => ((hparts c hc).grounded hclasses).self
    have hpart : (∃ c ∈ e.parts, ¬c.ty.Settled ∧ c.ty.holdsMap = true) →
        ∃ entries ty span, (Expr.map entries ty span).Within e ∧ ¬ty.Settled := by
      rintro ⟨c, hc, hcopen, hcmap⟩
      obtain ⟨entries, ty, span, hwithin, hty⟩ := ih c hc hcopen hcmap
      exact ⟨entries, ty, span, .part hc hwithin, hty⟩
    rcases hfits.telltale Ty.telltale_holdsMap hclasses hgrounded ⟨hopen, hmap⟩ with
      hc | ⟨elements, ty, span, rfl⟩ | ⟨entries, ty, span, rfl⟩
    · exact hpart hc
    · -- Elements share a type that holds a map, so that one of them has such a type.
      obtain ⟨element, hshared, rfl⟩ := hfits.typed
      have helement : ¬element.Settled := fun h => hopen (.array h)
      rcases Ty.telltale_holdsMap.exists_of_sharedBy hshared ⟨helement, hmap⟩ with
        hany | ⟨t, ht, htopen⟩
      · cases hany.2
      · obtain ⟨c, hc, rfl⟩ := List.mem_map.mp ht
        exact hpart ⟨c, hc, htopen⟩
    · exact ⟨entries, ty, span, .refl, hopen⟩

end Checked.Expr

end Shipshape
