import Shipshape.Proofs.Identity.Stmt
import Shipshape.Proofs.Lexical.Simulation

/-!
# Identity of entities and classes

In a checked program, every declaration has an entity of its own, and whatever refers to a
declaration refers to exactly one.

* `Shipshape.checkProgram_builds` – the places of an accepted program are those that the
  check built;
* `Shipshape.checkProgram_identity` – the entities of all declarations are distinct, and so
  are the classes of all class declarations; a name in an expression stands for the
  nearest entity that has the name, among those that the place sees, and this is a value
  that is declared exactly once; and a class that is mentioned anywhere is that of exactly
  one class declaration.

What a place sees is read off the tree (`Shipshape.Checked.Program.places`): entities
that are declared before it in a block around it, and those of the functions, methods and
loops that it lies in. So a name never stands for a declaration in another block, even if
scopes of one number were opened and closed in between, and never for a class.
-/

namespace Shipshape

open Checked (Place)
open Lexical (Builds)

/-- **The places of an accepted program were built** by the check, from nothing. -/
theorem checkProgram_builds {limit : Nat} {p : Program} {t : Checked.Program}
    (h : checkProgram limit p = .ok t) :
    ∃ σ, Builds ⟨.empty, builtInEntities.length⟩ t.places σ ∧ σ.classes = t.classes := by
  rw [checkProgram] at h
  rcases (checkStmts_initial_agree limit p.body).cases with
    ⟨ys, s, zs, σ, hcheck, hlexical, rfl, names, rfl⟩ | ⟨d, s, σ, hcheck, -⟩
  · rw [hcheck] at h
    cases h
    refine ⟨σ, ?_, rfl⟩
    exact Lexical.stmts_build (fun x _ => Lexical.stmt_builds x) (Lexical.lists_root limit _)
      ClassTable.closed_empty hlexical
  · rw [hcheck] at h
    cases h

namespace Lexical.Builds

variable {t : Checked.Program} {n : Nat} {σ : Store}

/-- The entities of declarations are distinct. -/
theorem nodup_entities (h : Builds ⟨.empty, n⟩ t.places σ) : (t.entities.map Entity.id).Nodup :=
  (List.nodup_append.mp (h.makes.entities.nodup_iff.mp List.nodup_range)).2.1

/-- The classes of the program are those of its class declarations. -/
theorem perm_classDecls (h : Builds ⟨.empty, n⟩ t.places σ) : σ.classes.refs.Perm t.classDecls :=
  h.makes.classes

theorem nodup_classDecls (h : Builds ⟨.empty, n⟩ t.places σ) :
    (t.classDecls.map ClassRef.id).Nodup :=
  (h.perm_classDecls.map ClassRef.id).nodup_iff.mp σ.classes.nodup_refs

/-- A value that is seen from a place is that of exactly one declaration. -/
theorem value_of_seen (h : Builds ⟨.empty, n⟩ t.places σ) {place : Place}
    (hplace : place ∈ t.places) {e : Entity} (he : e ∈ place.seen) (hvalue : e.valueType? ≠ none) :
    e ∈ t.values ∧ (t.values.map Entity.id).count e.id = 1 := by
  obtain ⟨q, hq, hnames⟩ := t.seen_declared hplace he
  -- The name of a class is seen too, but it is no value.
  have hmem : e ∈ q.stmt.values := by
    rcases hnames with hmem | hdecl
    · exact hmem
    · exact ((h.holds q hq).declared e hdecl).resolve_right hvalue
  have hvalues : e ∈ t.values := List.mem_flatMap.mpr ⟨q, hq, hmem⟩
  have hnodup : (t.values.map Entity.id).Nodup :=
    (t.values_sublist.map Entity.id).nodup h.nodup_entities
  exact ⟨hvalues, List.count_eq_one_of_mem hnodup (List.mem_map_of_mem hvalues)⟩

/-- Whatever is mentioned is a class of the program. -/
theorem mem_refs_of_mentions (h : Builds ⟨.empty, n⟩ t.places σ) (hclasses : σ.classes = t.classes)
    {cls : ClassRef} (hcls : t.Mentions cls) : cls ∈ σ.classes.refs := by
  cases hcls with
  | stmt hx hmem =>
    obtain ⟨q, hq, rfl⟩ := t.exists_place hx
    exact (h.holds q hq).classes hmem
  | expr he hmem =>
    obtain ⟨x, hx, d, hd, hwithin⟩ := he
    obtain ⟨q, hq, rfl⟩ := t.exists_place hx
    exact (((h.holds q hq).exprs d hd).within hwithin).classes hmem
  | member hc hmem =>
    rw [← hclasses] at hc
    exact h.makes.closed _ hc hmem

end Lexical.Builds

/-- **Identity of entities and classes.** Whatever the limit, in an accepted program all
declarations have entities of their own and all class declarations classes of their own;
a name in an expression stands for the nearest entity of that name that its place sees,
which is the entity of exactly one variable, field, function, method, parameter or loop
variable; and each class that is mentioned is that of exactly one class declaration. -/
theorem checkProgram_identity {limit : Nat} {p : Program} {t : Checked.Program}
    (h : checkProgram limit p = .ok t) :
    (t.entities.map Entity.id).Nodup ∧ (t.classDecls.map ClassRef.id).Nodup ∧
      (∀ place ∈ t.places, ∀ d ∈ place.stmt.exprs, ∀ name entity ty span,
        (Checked.Expr.symbol name entity ty span).Within d →
          place.seen.find? (·.name == name) = some entity ∧ entity ∈ t.values ∧
            (t.values.map Entity.id).count entity.id = 1) ∧
      ∀ cls, t.Mentions cls →
        cls ∈ t.classDecls ∧ (t.classDecls.map ClassRef.id).count cls.id = 1 := by
  obtain ⟨σ, hbuilt, hclasses⟩ := checkProgram_builds h
  refine ⟨hbuilt.nodup_entities, hbuilt.nodup_classDecls, ?_, ?_⟩
  · intro place hplace d hd name entity ty span hwithin
    have hrefers := ((hbuilt.holds place hplace).exprs d hd).within hwithin
    obtain ⟨hfind, hvalue⟩ := hrefers.name
    have hseen : entity ∈ place.seen := List.mem_of_find?_eq_some hfind
    exact ⟨hfind, hbuilt.value_of_seen hplace hseen (by rw [hvalue]; exact Option.some_ne_none _)⟩
  · intro cls hcls
    have hmem : cls ∈ t.classDecls :=
      hbuilt.perm_classDecls.mem_iff.mp (hbuilt.mem_refs_of_mentions hclasses hcls)
    exact ⟨hmem, List.count_eq_one_of_mem hbuilt.nodup_classDecls (List.mem_map_of_mem hmem)⟩

/-- Two classes of one name, one of them in a function that calls itself, and a parameter
that hides a variable. -/
def namesakeProgram : Program where
  body := [
    .var "x" none (.literal (.int 1) .null) .null,
    .classDecl {
      name := "Ship"
      params := [⟨"crew", .named "int", .null⟩]
      body := ⟨[.field (.named "int") "size" (.symbol "crew" .null) .null], .null⟩
      ctorSpan := .null
      methods := [⟨"count", [], some (.named "int"),
        ⟨[.ret (some (.member (.self .null) "size" .null)) .null], .null⟩, .null⟩]
      span := .null },
    .function ⟨"load", [⟨"x", .named "int", .null⟩], some (.named "int"),
      ⟨[.classDecl ⟨"Ship", [], ⟨[], .null⟩, .null, [], .null⟩,
        .var "ship" none (.construct "Ship" [] .null) .null,
        .ret (some (.call (.symbol "load" .null) [.symbol "x" .null] .null)) .null], .null⟩, .null⟩,
    .var "ship" none (.construct "Ship" [.symbol "x" .null] .null) .null]
  span := .null

/-- The program of namesakes is accepted, with two classes and twelve entities, and each of
its names and types refers to one declaration. -/
theorem namesakeProgram_identity : ∃ t, checkProgram defaultLimit namesakeProgram = .ok t ∧
    t.classDecls.length = 2 ∧ t.entities.length = 12 ∧
    (t.entities.map Entity.id).Nodup ∧ (t.classDecls.map ClassRef.id).Nodup ∧
      (∀ place ∈ t.places, ∀ d ∈ place.stmt.exprs, ∀ name entity ty span,
        (Checked.Expr.symbol name entity ty span).Within d →
          place.seen.find? (·.name == name) = some entity ∧ entity ∈ t.values ∧
            (t.values.map Entity.id).count entity.id = 1) ∧
      ∀ cls, t.Mentions cls →
        cls ∈ t.classDecls ∧ (t.classDecls.map ClassRef.id).count cls.id = 1 := by
  have haccepted : (match checkProgram defaultLimit namesakeProgram with
      | .ok t => t.classDecls.length == 2 && t.entities.length == 12
      | .error _ => false) = true := by decide +kernel
  split at haccepted
  · next t h =>
    obtain ⟨hclasses, hentities⟩ := Bool.and_eq_true_iff.mp haccepted
    exact ⟨t, h, beq_iff_eq.mp hclasses, beq_iff_eq.mp hentities, checkProgram_identity h⟩
  · cases haccepted

end Shipshape
