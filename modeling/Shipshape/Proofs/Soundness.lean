import Shipshape.Proofs.Run.Stmt

/-!
# Checked programs are well typed

A checked program can be checked again without any scope. Each node satisfies a rule
that mentions only the types its children carry, what surrounds it, and what is known
about the classes **at the end** – although the node itself was checked while the
classes were still growing.

* `Shipshape.checkProgram_wellTyped` – every statement and every expression of an
  accepted program satisfies its local typing rule.

The rules are `Shipshape.Checked.Stmt.WellTyped` and
`Shipshape.Checked.Expr.WellTyped`.
-/

namespace Shipshape

/-- **Checked programs are well typed.** Whatever the limit, every node of an accepted
program satisfies its local typing rule, given the classes as they are in the end. -/
theorem checkProgram_wellTyped {limit : Nat} {p : Program} {t : Checked.Program}
    (h : checkProgram limit p = .ok t) :
    (∀ a x, t.HasStmt a x → x.WellTyped t.classes a) ∧
      ∀ a e, t.HasExpr a e → e.WellTyped t.classes a := by
  obtain ⟨last, -, hclasses, hout⟩ := checkProgram_outcome h
  rw [← hclasses]
  constructor
  · intro a x hx
    exact (hout.stands_of_hasStmt hx).fits.typed
  · intro a e he
    refine Checked.Program.of_hasExpr (fun x hx d hd => ?_) he
    exact ((hout.stands_of_hasStmt hx).fits.exprs d hd).mono fun _ hfits => hfits.typed

/-- A class whose method reads a field through self, and a variable that is
initialised through a new object of it. -/
def shipProgram : Program where
  body := [
    .classDecl {
      name := "Ship"
      params := [⟨"crew", .named "int", .null⟩]
      body := ⟨[.field (.named "int") "size" (.symbol "crew" .null) .null], .null⟩
      ctorSpan := .null
      methods := [⟨"count", [], some (.named "int"),
        ⟨[.ret (some (.member (.self .null) "size" .null)) .null], .null⟩, .null⟩]
      span := .null },
    .var "total" none (.methodCall (.construct "Ship" [.literal (.int 3) .null] .null) "count" []
      .null) .null]
  span := .null

/-- The program of a ship is accepted, and its nodes are well typed. -/
theorem shipProgram_wellTyped : ∃ t, checkProgram defaultLimit shipProgram = .ok t ∧
    (∀ a x, t.HasStmt a x → x.WellTyped t.classes a) ∧
      ∀ a e, t.HasExpr a e → e.WellTyped t.classes a := by
  have haccepted : (checkProgram defaultLimit shipProgram).isOk = true := by decide +kernel
  cases h : checkProgram defaultLimit shipProgram with
  | error e =>
    rw [h] at haccepted
    cases haccepted
  | ok t => exact ⟨t, rfl, checkProgram_wellTyped h⟩

end Shipshape
