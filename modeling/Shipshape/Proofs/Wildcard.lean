import Shipshape.Proofs.Run.Stmt

/-!
# The unknown type does not escape

The scalar `any` stands for what an empty literal leaves open. It stays with the
expression that the literal lies in.

* `Shipshape.any_never_escapes` – in an accepted program, `any` occurs in the type of
  no declaration and of no member of a class; and where it occurs in the type of an
  expression, it is not inside a function, and an empty literal lies in the
  expression.

A declaration without a written type refuses a value whose type contains `any`, and
that test does not look into functions. It suffices because the functions in the type
of an expression are settled (`Shipshape.Checked.Expr.Grounded`), which in turn holds
because declarations are settled.
-/

namespace Shipshape

/-- **The unknown type does not escape** into the declarations of an accepted program,
and comes from an empty literal wherever it occurs in the type of an expression. -/
theorem any_never_escapes {limit : Nat} {p : Program} {t : Checked.Program}
    (h : checkProgram limit p = .ok t) :
    (∀ a x, t.HasStmt a x → ∀ entity ∈ x.entities, entity.Settled) ∧
      (∀ a e, t.HasExpr a e → ∀ entity ∈ e.entity?, entity.Settled) ∧
      (∀ c ∈ t.classes.infos, c.Settled) ∧
      ∀ a e, t.HasExpr a e → e.Grounded := by
  obtain ⟨last, -, hclasses, hout⟩ := checkProgram_outcome h
  have hsound := hout.reaches.sound (State.sound_initial limit)
  have hsettled : last.classes.Settled := hsound.settled
  refine ⟨fun a x hx => (hout.stands_of_hasStmt hx).fits.entities, fun a e he => ?_, ?_,
    fun a e he => ?_⟩
  · refine Checked.Program.of_hasExpr (P := fun _ e => ∀ entity ∈ e.entity?, entity.Settled)
      (fun x hx d hd => ?_) he
    exact ((hout.stands_of_hasStmt hx).fits.exprs d hd).mono fun _ hfits => hfits.settled
  · rw [← hclasses]
    exact hsettled
  · refine Checked.Program.of_hasExpr (P := fun _ e => e.Grounded) (fun x hx d hd => ?_) he
    exact ((hout.stands_of_hasStmt hx).fits.exprs d hd).grounded hsettled

/-- A variable whose written type fixes what two empty literals leave open. -/
def rowsProgram : Program where
  body := [.var "rows" (some (.array (.array (.named "int"))))
    (.array [.array [] .null, .array [] .null] .null) .null]
  span := .null

/-- The program with empty literals is accepted: it has an expression with an open
type, and still `any` does not escape. -/
theorem rowsProgram_any : ∃ t, checkProgram defaultLimit rowsProgram = .ok t ∧
    (∃ a e, t.HasExpr a e ∧ e.ty.containsAny = true) ∧
    (∀ a x, t.HasStmt a x → ∀ entity ∈ x.entities, entity.Settled) ∧
      (∀ a e, t.HasExpr a e → ∀ entity ∈ e.entity?, entity.Settled) ∧
      (∀ c ∈ t.classes.infos, c.Settled) ∧
      ∀ a e, t.HasExpr a e → e.Grounded := by
  have haccepted : ((checkProgram defaultLimit rowsProgram).toOption.any fun t =>
      t.body.any fun x => x.exprs.any fun e => e.ty.containsAny) = true := by decide +kernel
  cases h : checkProgram defaultLimit rowsProgram with
  | error =>
    rw [h] at haccepted
    cases haccepted
  | ok t =>
    rw [h] at haccepted
    obtain ⟨x, hx, hexprs⟩ := List.any_eq_true.mp haccepted
    obtain ⟨e, he, hany⟩ := List.any_eq_true.mp hexprs
    exact ⟨t, rfl, ⟨.top, e, ⟨x, .top hx, e, he, .refl⟩, hany⟩, any_never_escapes h⟩

end Shipshape
