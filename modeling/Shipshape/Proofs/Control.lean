import Shipshape.Proofs.Position.Program
import Shipshape.Proofs.Run.Stmt

/-!
# Breaks, returns, selves and fields

Whether a break, a return, a self or a field may stand where it does is a matter of the tree
as written.

* `Shipshape.checkProgram_control` – in a program that is accepted each of them is inside
  what it needs, and belongs to the innermost such construct; and a program is refused for
  one of them only if it has one that is not.

What is around a place is a `Shipshape.Path`, which no check has a part in.
-/

namespace Shipshape

variable {limit : Nat} {p : Program} {t : Checked.Program} {path : Path}

/-- The statements of a program that is accepted are in place. -/
theorem Program.Twins.inPlace (h : checkProgram limit p = .ok t) {x : Stmt} {a : Ambient}
    {y : Checked.Stmt} (hxy : p.Twins t path x a y) : Stmt.InPlace path x a y :=
  Program.of_twins (checkProgram_accepts h).twins hxy

/-- A statement of a program that is accepted has its counterpart. -/
theorem checkProgram_exists_twin (h : checkProgram limit p = .ok t) {x : Stmt}
    (hx : p.HasStmt path x) : ∃ a y, p.Twins t path x a y ∧ Stmt.InPlace path x a y := by
  obtain ⟨a, y, hxy⟩ := Program.exists_twin (checkProgram_accepts h).twins hx
  exact ⟨a, y, hxy, hxy.inPlace h⟩

/-- The class at hand is the one around the place. -/
theorem Program.Twins.exists_class (h : checkProgram limit p = .ok t) {x : Stmt} {a : Ambient}
    {y : Checked.Stmt} (hxy : p.Twins t path x a y) {cls : ClassRef} (hcls : a.cls = some cls) :
    ∃ decl, p.ClassAround t path decl cls := by
  have hrel := hxy.class_around fun hxy => (hxy.inPlace h).alike
  obtain ⟨decl, -, haround⟩ := exists_of_rel hrel hcls
  exact ⟨decl, haround⟩

/-- The checked form of a program that is accepted is well typed. -/
theorem checkProgram_fits (h : checkProgram limit p = .ok t) {a : Ambient} {y : Checked.Stmt}
    (hy : t.HasStmt a y) : y.Fits t.classes a := by
  obtain ⟨last, -, hclasses, hout⟩ := checkProgram_outcome h
  rw [← hclasses]
  exact (hout.stands_of_hasStmt hy).fits

/-- A return belongs to the function around it. -/
theorem checkProgram_return (h : checkProgram limit p = .ok t) {value : Option Expr} {span : Span}
    (hx : p.HasStmt path (.ret value span)) :
    ∃ a value' k f, p.Twins t path (.ret value span) a (.ret value' span) ∧
      p.FunctionAround t path k f ∧ k.Returns f.resultType ∧ value'.isSome = value.isSome ∧
      (value.isSome ↔ f.resultType ≠ .none) ∧
      ∀ v ∈ value', v.ty.assignableTo f.resultType = true := by
  obtain ⟨a, y, hxy, hin⟩ := checkProgram_exists_twin h hx
  have halike := hin.alike
  cases y with
  | ret value' span' =>
    obtain ⟨hsome, rfl⟩ := halike
    obtain ⟨f, hf, hvalue⟩ := (checkProgram_fits h hxy.hasStmt).typed
    have hrel := hxy.function_around fun hxy => (hxy.inPlace h).alike
    obtain ⟨k, hk, haround⟩ := exists_of_rel hrel hf
    obtain ⟨k', hk', hreturns⟩ := exists_of_rel hin.around.function hf
    obtain rfl := Option.some.inj (hk.symm.trans hk')
    refine ⟨a, value', k, f, hxy, haround, hreturns, hsome, ?_⟩
    rw [← hsome]
    cases value' with
    | none => exact ⟨⟨fun hv => (nomatch hv), fun hne => absurd hvalue hne⟩, fun _ hv => nomatch hv⟩
    | some v =>
      refine ⟨⟨fun _ => hvalue.1, fun _ => rfl⟩, fun w hw => ?_⟩
      exact Option.some.inj hw ▸ hvalue.2
  | _ => cases halike

/-- A field belongs to the class around it. -/
theorem checkProgram_field (h : checkProgram limit p = .ok t) {typeExpr : TypeExpr}
    {name : String} {value : Expr} {span : Span}
    (hx : p.HasStmt path (.field typeExpr name value span)) :
    ∃ a entity ty value' decl cls,
      p.Twins t path (.field typeExpr name value span) a (.field entity ty value' span) ∧
      p.ClassAround t path decl cls ∧ (t.classes.info cls).field? name = some ty := by
  obtain ⟨a, y, hxy, hin⟩ := checkProgram_exists_twin h hx
  have halike := hin.alike
  cases y with
  | field entity ty value' span' =>
    obtain ⟨hname, rfl⟩ := halike
    obtain ⟨-, name', cls, hbinding, hcls, hfield⟩ := (checkProgram_fits h hxy.hasStmt).typed
    obtain ⟨decl, haround⟩ := hxy.exists_class h hcls
    have hname' : name' = name := by rw [← hname, Entity.name, hbinding]
    exact ⟨a, entity, ty, value', decl, cls, hxy, haround, hname' ▸ hfield⟩
  | _ => cases halike

/-- A self belongs to the class around it. -/
theorem checkProgram_self (h : checkProgram limit p = .ok t) {span : Span}
    (hself : p.HasExpr path (.self span)) :
    ∃ x a y e decl cls, p.Twins t path x a y ∧ e ∈ y.exprs ∧
      (Checked.Expr.self cls (.object cls) span).Within e ∧ p.ClassAround t path decl cls := by
  obtain ⟨x, hx, e, he, hself⟩ := hself
  obtain ⟨a, y, hxy, hin⟩ := checkProgram_exists_twin h hx
  obtain ⟨hlen, hrooted⟩ := List.forall₂_iff_zip.mp hin.rooted
  obtain ⟨e', hzip⟩ := exists_mem_zip hlen he
  obtain ⟨cls, hcls, hself'⟩ := hrooted hzip span hself
  obtain ⟨decl, haround⟩ := hxy.exists_class h hcls
  exact ⟨x, a, y, e', decl, cls, hxy, (List.of_mem_zip hzip).2, hself', haround⟩

/-- Every self of the checked form belongs to the class around it. -/
theorem checkProgram_self_around (h : checkProgram limit p = .ok t) {x : Stmt} {a : Ambient}
    {y : Checked.Stmt} (hxy : p.Twins t path x a y) {e : Checked.Expr} (he : e ∈ y.exprs)
    {cls : ClassRef} {ty : Ty} {span : Span} (hself : (Checked.Expr.self cls ty span).Within e) :
    ∃ decl, p.ClassAround t path decl cls := by
  have hfits := (checkProgram_fits h hxy.hasStmt).exprs e he
  have hcls := (hfits.within hself).typed.1
  exact hxy.exists_class h hcls

/-- **Control is decided by position alone.** In a program that is accepted, a break has a loop
around it inside the innermost function, method or constructor. A return is in a function, a
method or a constructor; it has a value just when the innermost one declares to return one,
and the value is assignable to what is declared. A self and a field are in a class, and belong
to what the innermost class as written became.

If a program is refused for a break, a return, or a self or field, then it has one that is not
inside what it needs, at the position that the diagnostic gives. -/
theorem checkProgram_control (limit : Nat) (p : Program) :
    (∀ t, checkProgram limit p = .ok t →
      (∀ path span, p.HasStmt path (.breakLoop span) → path.inLoop = true) ∧
      (∀ path value span, p.HasStmt path (.ret value span) →
        ∃ a value' k f, p.Twins t path (.ret value span) a (.ret value' span) ∧
          p.FunctionAround t path k f ∧ k.Returns f.resultType ∧ value'.isSome = value.isSome ∧
          (value.isSome ↔ f.resultType ≠ .none) ∧
          ∀ v ∈ value', v.ty.assignableTo f.resultType = true) ∧
      (∀ path typeExpr name value span, p.HasStmt path (.field typeExpr name value span) →
        ∃ a entity ty value' decl cls,
          p.Twins t path (.field typeExpr name value span) a (.field entity ty value' span) ∧
          p.ClassAround t path decl cls ∧ (t.classes.info cls).field? name = some ty) ∧
      (∀ path span, p.HasExpr path (.self span) →
        ∃ x a y e decl cls, p.Twins t path x a y ∧ e ∈ y.exprs ∧
          (Checked.Expr.self cls (.object cls) span).Within e ∧ p.ClassAround t path decl cls) ∧
      ∀ path x a y, p.Twins t path x a y → ∀ e ∈ y.exprs, ∀ cls ty span,
        (Checked.Expr.self cls ty span).Within e → ∃ decl, p.ClassAround t path decl cls) ∧
    ∀ d, checkProgram limit p = .error (.refused d) →
      (d.cause = .breakOutsideLoop → ∃ path span, p.HasStmt path (.breakLoop span) ∧
        path.inLoop = false ∧ d.position = some span.start) ∧
      (d.cause = .returnOutsideFunction → ∃ path value span, p.HasStmt path (.ret value span) ∧
        path.function? = none ∧ d.position = some span.start) ∧
      (d.cause = .selfOutsideClass → ∃ path span, (p.HasExpr path (.self span) ∨
        ∃ typeExpr name value, p.HasStmt path (.field typeExpr name value span)) ∧
        path.cls? = none ∧ d.position = some span.start) := by
  refine ⟨fun t h => ⟨fun path span hx => ?_, fun _ _ _ => checkProgram_return h,
    fun _ _ _ _ _ => checkProgram_field h, fun _ _ => checkProgram_self h,
    fun _ _ _ _ hxy _ he _ _ _ => checkProgram_self_around h hxy he⟩, fun d h => ?_⟩
  · obtain ⟨a, y, -, hin⟩ := checkProgram_exists_twin h hx
    exact hin.orderly.permitted
  · obtain ⟨cause, position⟩ := d
    have hexplains := checkProgram_explains h
    refine ⟨?_, ?_, ?_⟩
    · rintro rfl
      exact hexplains
    · rintro rfl
      exact hexplains
    · rintro rfl
      exact hexplains

/-- The return of a patrol: it reads a field through self. -/
def patrolReturn : Stmt := .ret (some (.member (.self .null) "ships" .null)) .null

/-- A method with a break in a loop, and a return. -/
def patrolMethod : FnDecl Stmt where
  name := "strength"
  params := []
  result := some (.named "int")
  body := ⟨[.whileLoop (.literal (.bool true) .null) ⟨[.breakLoop .null], .null⟩ .null,
    patrolReturn], .null⟩
  span := .null

/-- A class with a field and that method. -/
def patrolClass : ClassDecl Stmt where
  name := "Patrol"
  params := []
  body := ⟨[.field (.named "int") "ships" (.literal (.int 3) .null) .null], .null⟩
  ctorSpan := .null
  methods := [patrolMethod]
  span := .null

/-- A break in a function, where the loop is around the function. -/
def strayProgram : Program where
  body := [.whileLoop (.literal (.bool true) .null) ⟨[.function ⟨"drift", [], none,
    ⟨[.breakLoop ⟨⟨31, "drift"⟩, ⟨36, "drift"⟩⟩], .null⟩, .null⟩], .null⟩ .null]
  span := .null

/-- The patrol is accepted, and its return belongs to the method; the stray break is
refused. -/
theorem patrol_control :
    (∃ t, checkProgram defaultLimit ⟨[.classDecl patrolClass], .null⟩ = .ok t ∧
      ∃ a value k f, Program.Twins ⟨[.classDecl patrolClass], .null⟩ t
          [.function patrolMethod, .cls patrolClass] patrolReturn a (.ret value .null) ∧
        Program.FunctionAround ⟨[.classDecl patrolClass], .null⟩ t
          [.function patrolMethod, .cls patrolClass] k f ∧
        value.isSome = true ∧ ∀ v ∈ value, v.ty.assignableTo f.resultType = true) ∧
    ∃ d, checkProgram defaultLimit strayProgram = .error (.refused d) ∧
      d.cause = .breakOutsideLoop ∧ ∃ path span, strayProgram.HasStmt path (.breakLoop span) ∧
        path.inLoop = false ∧ d.position = some span.start := by
  constructor
  · have haccepted : (checkProgram defaultLimit ⟨[.classDecl patrolClass], .null⟩).isOk = true := by
      decide +kernel
    cases h : checkProgram defaultLimit ⟨[.classDecl patrolClass], .null⟩ with
    | error e =>
      rw [h] at haccepted
      cases haccepted
    | ok t =>
      have hclass : Program.HasStmt ⟨[.classDecl patrolClass], .null⟩ [] (.classDecl patrolClass) :=
        .top List.mem_cons_self
      have hmethod : patrolMethod.toBody [.cls patrolClass] ∈ (Stmt.classDecl patrolClass).bodies :=
        List.mem_cons_of_mem _ List.mem_cons_self
      have hreturn : patrolReturn ∈ patrolMethod.body.body :=
        List.mem_cons_of_mem _ List.mem_cons_self
      obtain ⟨a, value, k, f, hxy, haround, -, hsome, -, hty⟩ :=
        ((checkProgram_control _ _).1 t h).2.1 _ _ _ (.inner hclass hmethod hreturn)
      exact ⟨t, rfl, a, value, k, f, hxy, haround, hsome, hty⟩
  · have hrefused : (match checkProgram defaultLimit strayProgram with
        | .error (.refused d) => d.cause == .breakOutsideLoop
        | _ => false) = true := by decide +kernel
    split at hrefused
    · next d h =>
      have hcause := eq_of_beq hrefused
      exact ⟨d, h, hcause, ((checkProgram_control _ _).2 d h).1 hcause⟩
    · cases hrefused

end Shipshape
