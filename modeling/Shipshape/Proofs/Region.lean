import Shipshape.Proofs.Position.Program

/-!
# Names are declared once

* `Shipshape.checkProgram_regions` – in a program that is accepted no name is declared twice
  in a region, and a program is refused for a duplicate declaration only if it has one.

A duplicate is found in a scope, among the fields of a class or among its methods. What a
region and a class declare is read off the tree as written (`Shipshape.Program.HasRegion`,
`Shipshape.ClassDecl.fieldNames`), so that the theorem knows none of the three.
-/

namespace Shipshape

open Program (builtInNames)

/-- **No name is declared twice in a region.** In a program that is accepted, the names that
are declared directly in a region are pairwise distinct, no name declared at the top level is
that of a built-in type, and no class has two fields of the same name anywhere in its
constructor and its methods.

If a program is refused because a name is declared twice, then the name is declared twice in a
region, or at the top level where it is that of a built-in type, or for two fields of a
class. -/
theorem checkProgram_regions (limit : Nat) (p : Program) :
    (∀ t, checkProgram limit p = .ok t →
      (∀ names, p.HasRegion names → names.Nodup) ∧
      (∀ name ∈ declaredNames p.body, name ∉ builtInNames) ∧
      ∀ path decl, p.HasStmt path (.classDecl decl) → decl.fieldNames.Nodup) ∧
    ∀ d name, checkProgram limit p = .error (.refused d) → d.cause = .duplicateDeclaration name →
      (∃ names, p.HasRegion names ∧ 2 ≤ names.count name) ∨
      (name ∈ declaredNames p.body ∧ name ∈ builtInNames) ∨
      ∃ path decl, p.HasStmt path (.classDecl decl) ∧ 2 ≤ decl.fieldNames.count name := by
  refine ⟨fun t h => ?_, fun d name h hcause => ?_⟩
  · have hrow := checkProgram_accepts h
    have horderly {path : Path} {x : Stmt} (hx : p.HasStmt path x) : x.Orderly path := by
      obtain ⟨a, y, hxy⟩ := Program.exists_twin hrow.twins hx
      exact (Program.of_twins hrow.twins hxy).orderly
    obtain ⟨-, htop, hdisjoint⟩ := List.nodup_append.mp hrow.nodup
    refine ⟨fun names hnames => ?_, fun name hname hbuiltIn => ?_, fun path decl hx => ?_⟩
    · cases hnames with
      | top => exact htop
      | body hx hb => exact (horderly hx).regions _ hb
      | methods hx => exact (horderly hx).members.1
    · exact hdisjoint name hbuiltIn name hname rfl
    · exact (horderly hx).members.2
  · obtain ⟨cause, position⟩ := d
    obtain rfl : cause = .duplicateDeclaration name := hcause
    have hredeclares : p.Redeclares name := checkProgram_explains h
    cases hredeclares with
    | region hnames hcount => exact .inl ⟨_, hnames, hcount⟩
    | builtIn hdeclared hbuiltIn => exact .inr (.inl ⟨hdeclared, hbuiltIn⟩)
    | fields hx hcount => exact .inr (.inr ⟨_, _, hx, hcount⟩)

/-- A function with a parameter, whose body begins with the given statement. -/
def buoyProgram (x : Stmt) : Program where
  body := [.function ⟨"moor", [⟨"buoy", .named "int", .null⟩], none, ⟨[x], .null⟩, .null⟩]
  span := .null

/-- A variable with the name of the parameter. -/
def buoyVar : Stmt := .var "buoy" none (.literal (.int 1) .null) .null

/-- A branch that declares that variable. -/
def buoyBranch : Stmt :=
  .ifElse [⟨.literal (.bool true) .null, ⟨[buoyVar], .null⟩⟩] none .null

/-- A branch may declare the name of the parameter again: it is a region of its own. -/
theorem buoyBranch_regions : ∃ t, checkProgram defaultLimit (buoyProgram buoyBranch) = .ok t ∧
    ∀ names, (buoyProgram buoyBranch).HasRegion names → names.Nodup := by
  have haccepted : (checkProgram defaultLimit (buoyProgram buoyBranch)).isOk = true := by
    decide +kernel
  cases h : checkProgram defaultLimit (buoyProgram buoyBranch) with
  | error e =>
    rw [h] at haccepted
    cases haccepted
  | ok t => exact ⟨t, rfl, ((checkProgram_regions _ _).1 t h).1⟩

/-- The body itself may not, since the parameter belongs to it. -/
example : (match checkProgram defaultLimit (buoyProgram buoyVar) with
    | .error (.refused d) => d.cause == .duplicateDeclaration "buoy"
    | _ => false) = true := by decide +kernel

end Shipshape
