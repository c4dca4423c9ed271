import Shipshape.Proofs.Run.Stmt

/-!
# The members of a class

A class ends up with exactly the members that its declaration writes, and has them
for good as soon as the declaration is through.

* `Shipshape.checkClass_members` – for every class of an accepted program, the moment
  at which the check of its declaration comes back, and what is known about the class
  then and from then on.

What a declaration writes is `Shipshape.Checked.Class.Written`. From then on no scope
that is alive lies in the class (`Shipshape.State.Sealed`), and only through such a
scope could a member be added.
-/

namespace Shipshape

/-- **A class has exactly the members that its declaration writes**, from the moment
at which the declaration was checked. Let `c` be a class of an accepted program, at
any depth. On its way from the initial state the check came to the declaration of
`c`, and went through it to a state `u`. In `u` the class has what the declaration
writes; no operation after `u` changes anything about it; and so the checked program
has the same. -/
theorem checkClass_members {limit : Nat} {p : Program} {t : Checked.Program}
    (h : checkProgram limit p = .ok t) {a : Ambient} {c : Checked.Class Checked.Stmt}
    (hc : t.HasStmt a (.classDecl c)) :
    ∃ id decl s u last, Reaches (.initial limit) s ∧ checkClass id decl s = .ok c u ∧
      c.Written (u.classes.info c.cls) ∧
      (∀ v, Reaches u v → v.classes.info c.cls = u.classes.info c.cls) ∧
      Reaches u last ∧ checkStmts Arena.root p.body (.initial limit) = .ok t.body last ∧
      t.classes.info c.cls = u.classes.info c.cls := by
  obtain ⟨last, hrun, hclasses, hout⟩ := checkProgram_outcome h
  obtain ⟨id, decl, s, u, hs, hclass, hwritten, hsealed, hlast⟩ :=
    (hout.stands_of_hasStmt hc).passes c rfl
  have hfrozen : ∀ v, Reaches u v → v.classes.info c.cls = u.classes.info c.cls :=
    fun v hv => (hv.info_of_sealed hsealed).2
  refine ⟨id, decl, s, u, last, hs, hclass, hwritten, hfrozen, hlast, hrun, ?_⟩
  rw [← hclasses]
  exact hfrozen last hlast

/-- A class with fields in its constructor, in a branch there, and in a function inside
a method, next to which another class has a field of its own. -/
def fleetProgram : Program where
  body := [
    .classDecl {
      name := "Fleet"
      params := []
      body := ⟨[.field (.named "int") "ships" (.literal (.int 0) .null) .null,
        .ifElse [⟨.literal (.bool true) .null,
          ⟨[.field (.named "int") "flags" (.literal (.int 0) .null) .null], .null⟩⟩] none .null],
        .null⟩
      ctorSpan := .null
      methods := [⟨"sail", [], none, ⟨[
        .function ⟨"log", [], none,
          ⟨[.field (.named "int") "miles" (.literal (.int 0) .null) .null], .null⟩, .null⟩,
        .classDecl ⟨"Boat", [],
          ⟨[.field (.named "int") "oars" (.literal (.int 2) .null) .null], .null⟩, .null, [],
          .null⟩], .null⟩, .null⟩]
      span := .null }]
  span := .null

/-- The class that a statement declares, if it declares one. -/
def Checked.Stmt.class? : Checked.Stmt → Option (Checked.Class Checked.Stmt)
  | .classDecl c => some c
  | _ => none

/-- The fleet has the fields of its own bodies in order, and not that of the boat. -/
theorem fleetProgram_members : ∃ t c, checkProgram defaultLimit fleetProgram = .ok t ∧
    t.HasStmt .top (.classDecl c) ∧
    (t.classes.info c.cls).fields.map Prod.fst = ["ships", "flags", "miles"] ∧
    ∃ id decl s u last, Reaches (.initial defaultLimit) s ∧ checkClass id decl s = .ok c u ∧
      c.Written (u.classes.info c.cls) ∧
      (∀ v, Reaches u v → v.classes.info c.cls = u.classes.info c.cls) ∧
      Reaches u last ∧
      checkStmts Arena.root fleetProgram.body (.initial defaultLimit) = .ok t.body last ∧
      t.classes.info c.cls = u.classes.info c.cls := by
  have haccepted : ((checkProgram defaultLimit fleetProgram).toOption.any fun t =>
      t.body.any fun x => x.class?.any fun c =>
        (t.classes.info c.cls).fields.map Prod.fst == ["ships", "flags", "miles"]) = true := by
    decide +kernel
  cases h : checkProgram defaultLimit fleetProgram with
  | error =>
    rw [h] at haccepted
    cases haccepted
  | ok t =>
    rw [h] at haccepted
    obtain ⟨x, hx, hfields⟩ := List.any_eq_true.mp haccepted
    cases x with
    | classDecl c =>
      have hc : t.HasStmt .top (.classDecl c) := .top hx
      exact ⟨t, c, rfl, hc, eq_of_beq hfields, checkClass_members h hc⟩
    | _ => cases hfields

end Shipshape
