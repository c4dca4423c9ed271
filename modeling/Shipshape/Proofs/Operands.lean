import Shipshape.Proofs.Run.Stmt

/-!
# The operands of arithmetic and order

The left operand of an operator decides what is needed, and the right one has to share
its type. Two types are shared with `any` filled in from either side, so that the
operands need not have the *same* type.

* `Shipshape.BinaryOp.operandTypes?` – the types that an operator calculates with;
* `Shipshape.binary_operands` – in an accepted program, the left operand has one of
  these types, and the right operand has the same one, unless its type is `any` and an
  empty literal lies in it;
* `Shipshape.tallyProgram_operands_differ` – the exception occurs.

Equality is left out, since it compares values of any type that the two sides share, and
so are `and` and `or`, which need truth values.
-/

namespace Shipshape

/-- The types that an operator calculates with or puts in order: numbers, and for `+`
also texts. There are none for an operator that does neither. -/
def BinaryOp.operandTypes? : BinaryOp → Option (List Ty)
  | .add => some [.int, .double, .string]
  | .sub | .mul | .div | .pow | .rem | .lt | .le | .gt | .ge => some [.int, .double]
  | .eq | .ne | .and | .or => none

theorem Ty.mem_of_isNumeric {ty : Ty} (h : ty.isNumeric = true) : ty ∈ [Ty.int, Ty.double] := by
  unfold isNumeric at h
  split at h
  · exact List.mem_cons_self
  · exact List.mem_cons_of_mem _ List.mem_cons_self
  · cases h

/-- The left operand has one of the types of the operator, and the right operand has
the same type or one that is not known. -/
theorem BinaryOp.Typed.operands {op : BinaryOp} {left right ty : Ty}
    (h : op.Typed left right ty) {tys : List Ty} (htys : op.operandTypes? = some tys) :
    left ∈ tys ∧ (right = left ∨ right = .any) := by
  cases op with
  | add =>
    obtain rfl := Option.some.inj htys
    obtain ⟨hleft, hright, -⟩ := h
    refine ⟨?_, hright⟩
    rcases hleft with hnumeric | rfl
    · exact List.mem_append_left [Ty.string] (Ty.mem_of_isNumeric hnumeric)
    · simp
  | sub | mul | div | pow | rem | lt | le | gt | ge =>
    obtain rfl := Option.some.inj htys
    exact ⟨Ty.mem_of_isNumeric h.1, h.2.1⟩
  | eq | ne | and | or => cases htys

/-- **The operands of arithmetic and order in an accepted program.** The left operand
has one of the types of the operator, never `any`. The right operand has that very
type, except where its own type is `any`, and then an empty literal lies in it. -/
theorem binary_operands {limit : Nat} {p : Program} {t : Checked.Program}
    (h : checkProgram limit p = .ok t) {a : Ambient} {op : BinaryOp} {left right : Checked.Expr}
    {ty : Ty} {span : Span} (he : t.HasExpr a (.binary op left right ty span)) {tys : List Ty}
    (htys : op.operandTypes? = some tys) :
    left.ty ∈ tys ∧ (right.ty = left.ty ∨
      right.ty = .any ∧ ∃ d : Checked.Expr, d.IsEmptyLiteral ∧ d.Within right) := by
  obtain ⟨last, -, -, hout⟩ := checkProgram_outcome h
  have hsettled := (hout.reaches.sound (State.sound_initial limit)).settled
  obtain ⟨x, hx, d, hd, hwithin⟩ := he
  have hfits := (hout.stands_of_hasStmt hx).fits.exprs d hd
  have htyped : op.Typed left.ty right.ty ty := (hfits.within hwithin).typed
  obtain ⟨hleft, hright⟩ := htyped.operands htys
  refine ⟨hleft, hright.imp_right fun hany => ⟨hany, ?_⟩⟩
  -- The type `any` is open, and an open type comes from an empty literal.
  have hgrounded : right.Grounded := by
    refine (hfits.grounded hsettled).within (.trans (.part ?_ .refl) hwithin)
    exact List.mem_cons_of_mem _ List.mem_cons_self
  refine hgrounded.literal fun hclosed => ?_
  rw [hany] at hclosed
  cases hclosed with
  | scalar hkind => exact hkind rfl

/-- A comparison of a sum with what an empty array has at its first place. -/
def tallyProgram : Program where
  body := [.print (.binary .lt
    (.binary .add (.literal (.int 1) .null) (.literal (.int 2) .null) .null)
    (.subscript (.array [] .null) (.literal (.int 0) .null) .null) .null) .null]
  span := .null

/-- The sum in the comparison, checked. -/
def tallySum : Checked.Expr :=
  .binary .add (.literal (.int 1) .int .null) (.literal (.int 2) .int .null) .int .null

/-- The place of the empty array in the comparison, checked. -/
def tallyPlace : Checked.Expr :=
  .subscript (.array [] (.array .any) .null) (.literal (.int 0) .int .null) .any .null

theorem checkProgram_tallyProgram : ∃ t, checkProgram defaultLimit tallyProgram = .ok t ∧
    t.HasExpr .top (.binary .lt tallySum tallyPlace .bool .null) ∧ t.HasExpr .top tallySum := by
  refine ⟨⟨[.print (.binary .lt tallySum tallyPlace .bool .null) .null], .null, _⟩, by cbv, ?_, ?_⟩
  · exact ⟨_, .top List.mem_cons_self, _, List.mem_cons_self, .refl⟩
  · exact ⟨_, .top List.mem_cons_self, _, List.mem_cons_self, .part List.mem_cons_self .refl⟩

/-- Both the sum and the comparison are nodes of an accepted program, and their operands
are as they must be. -/
theorem tallyProgram_operands : ∃ t, checkProgram defaultLimit tallyProgram = .ok t ∧
    (t.HasExpr .top tallySum ∧ Ty.int ∈ [Ty.int, Ty.double, Ty.string] ∧
      (Ty.int = Ty.int ∨ Ty.int = .any ∧ ∃ d : Checked.Expr, d.IsEmptyLiteral ∧
        d.Within (.literal (.int 2) .int .null))) ∧
    t.HasExpr .top (.binary .lt tallySum tallyPlace .bool .null) ∧
      tallySum.ty ∈ [Ty.int, Ty.double] ∧ (tallyPlace.ty = tallySum.ty ∨
        tallyPlace.ty = .any ∧ ∃ d : Checked.Expr, d.IsEmptyLiteral ∧ d.Within tallyPlace) := by
  obtain ⟨t, haccepted, hless, hsum⟩ := checkProgram_tallyProgram
  exact ⟨t, haccepted, ⟨hsum, binary_operands haccepted hsum rfl⟩, hless,
    binary_operands haccepted hless rfl⟩

/-- An accepted program in which the operands of a comparison do not have the same
type. -/
theorem tallyProgram_operands_differ : ¬∀ (limit : Nat) (p : Program) (t : Checked.Program),
    checkProgram limit p = .ok t → ∀ (a : Ambient) (op : BinaryOp) (left right : Checked.Expr)
      (ty : Ty) (span : Span), t.HasExpr a (.binary op left right ty span) →
      ∀ tys, op.operandTypes? = some tys → left.ty ∈ tys ∧ right.ty = left.ty := by
  intro hall
  obtain ⟨t, haccepted, hless, -⟩ := checkProgram_tallyProgram
  have hsame : Ty.any = Ty.int := (hall _ _ _ haccepted _ _ _ _ _ _ hless _ rfl).2
  cases hsame

end Shipshape
