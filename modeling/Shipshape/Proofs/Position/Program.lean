import Shipshape.Proofs.Lexical.Simulation
import Shipshape.Proofs.Position.Stmt

/-!
# Where a program was accepted, and where it was refused

* `Shipshape.checkProgram_accepts`, `Shipshape.checkProgram_explains` – the statements of a
  program that is accepted are in place, and one that is refused has what the diagnostic
  complains about;
* `Shipshape.Program.ClassAround`, `Shipshape.Program.FunctionAround` – the innermost class
  and the innermost function around a place, as written and as they were checked;
* `Shipshape.Program.Twins.class_around`, `Shipshape.Program.Twins.function_around` – these
  are the class and the function at hand.
-/

namespace Shipshape

open Program (builtInNames)

/-! ### Programs -/

/-- The built-in names are declared before a program begins. -/
theorem Program.awaits_root (p : Program) : p.Awaits [] builtInNames [] p.body := by
  refine ⟨fun x hx => .top hx, fun name hname => ?_, fun hcls => absurd rfl hcls⟩
  rw [List.count_append] at hname
  by_cases hbuiltIn : name ∈ builtInNames
  · have hone : builtInNames.count name ≤ 1 := List.nodup_iff_count_le_one.mp (by decide) name
    have hpos : 0 < (declaredNames p.body).count name := by omega
    exact .builtIn (List.count_pos_iff.mp hpos) hbuiltIn
  · rw [List.count_eq_zero_of_not_mem hbuiltIn, Nat.zero_add] at hname
    exact .region .top hname

theorem Lexical.stmts_root_ends (limit : Nat) (p : Program) :
    Ends (stmts (.root limit) p.body) ⟨.empty, builtInEntities.length⟩
      (AcceptsRow .top [] builtInNames [] p.body .empty) p.Explains := by
  have hl : ClassTable.Lists .empty none [] := fun _ hr => nomatch hr
  exact stmts_ends (fun x _ => stmt_tracked p x) (.root limit) hl p.awaits_root

variable {limit : Nat} {p : Program} {t : Checked.Program}

/-- **The statements of a program that is accepted are in place.** -/
theorem checkProgram_accepts (h : checkProgram limit p = .ok t) :
    Lexical.AcceptsRow .top [] builtInNames [] p.body .empty t.body t.classes := by
  rw [checkProgram] at h
  rcases (checkStmts_initial_agree limit p.body).cases with
    ⟨ys, _, zs, σ, hx, hy, rfl, names, rfl⟩ | ⟨d, _, σ, hx, -⟩
  · rw [hx] at h
    cases h
    exact (Lexical.stmts_root_ends limit p).ok ys σ hy
  · rw [hx] at h
    cases h

/-- **A program that is refused has what the diagnostic complains about.** -/
theorem checkProgram_explains {d : Diagnostic} (h : checkProgram limit p = .error (.refused d)) :
    p.Explains d := by
  rw [checkProgram] at h
  rcases (checkStmts_initial_agree limit p.body).cases with
    ⟨_, _, _, _, hx, -⟩ | ⟨d, _, σ, hx, hy⟩
  · rw [hx] at h
    cases h
  · rw [hx] at h
    cases h
    exact (Lexical.stmts_root_ends limit p).error d σ hy

/-! ### What is around a place -/

/-- **What a block below two statements of the same kind lies in**, as written and in the
checked form. -/
inductive Stmt.Enters (x : Stmt) (a : Ambient) (y : Checked.Stmt) : Path → Ambient → Prop
  /-- A branch of a choice. -/
  | branch : Enters x a y [.branch] a
  /-- The body of a loop. -/
  | loop : Enters x a y [.loop] a.loop
  /-- The body of a function. -/
  | function {decl : FnDecl Stmt} {f : Checked.Function Checked.Stmt} : x = .function decl →
      y = .function f → Enters x a y [.function decl] (a.inFunction f.entity)
  /-- The constructor of a class. -/
  | ctor {decl : ClassDecl Stmt} {c : Checked.Class Checked.Stmt} : x = .classDecl decl →
      y = .classDecl c →
      Enters x a y [.ctor decl, .cls decl] ((a.inClass c.cls).inFunction c.ctor)
  /-- A method of a class. -/
  | method {decl : ClassDecl Stmt} {c : Checked.Class Checked.Stmt} {m : FnDecl Stmt}
      {f : Checked.Function Checked.Stmt} : x = .classDecl decl → y = .classDecl c →
      (m, f) ∈ decl.methods.zip c.methods →
      Enters x a y [.function m, .cls decl] ((a.inClass c.cls).inFunction f.entity)

theorem Stmt.Alike.enters {x : Stmt} {a : Ambient} {y : Checked.Stmt} (h : x.Alike y) {b : Body}
    {c : Ambient × Block Checked.Stmt} (hbc : (b, c) ∈ x.bodies.zip (y.blocks a)) :
    x.Enters a y b.around c.1 := by
  cases x with
  | function decl =>
    cases y with
    | function f =>
      cases List.mem_singleton.mp hbc
      exact .function rfl rfl
    | _ => cases h
  | classDecl decl =>
    cases y with
    | classDecl k =>
      rcases List.mem_cons.mp hbc with heq | hbc
      · cases heq
        exact .ctor rfl rfl
      · replace hbc : (b, c) ∈ (decl.methods.map fun m => m.toBody [.cls decl]).zip
            (k.methods.map fun m => ((a.inClass k.cls).inFunction m.entity, m.body)) := hbc
        rw [List.zip_map] at hbc
        obtain ⟨⟨m, f⟩, hmf, heq⟩ := List.mem_map.mp hbc
        cases heq
        exact .method rfl rfl hmf
    | _ => cases h
  | ifElse choices otherwise span =>
    cases y with
    | ifElse choices' otherwise' span' =>
      have hb : b.around = [.branch] := by
        rcases List.mem_append.mp (List.of_mem_zip hbc).1 with hb | hb
        · obtain ⟨_, -, rfl⟩ := List.mem_map.mp hb
          rfl
        · obtain ⟨_, -, rfl⟩ := List.mem_map.mp hb
          rfl
      have hc : c.1 = a := by
        rcases List.mem_append.mp (List.of_mem_zip hbc).2 with hc | hc
        · obtain ⟨_, -, rfl⟩ := List.mem_map.mp hc
          rfl
        · obtain ⟨_, -, rfl⟩ := List.mem_map.mp hc
          rfl
      rw [hb, hc]
      exact .branch
    | _ => cases h
  | whileLoop test body span =>
    cases y with
    | whileLoop test' body' span' =>
      cases List.mem_singleton.mp hbc
      exact .loop
    | _ => cases h
  | forLoop name start stop body span =>
    cases y with
    | forLoop entity start' stop' body' span' =>
      cases List.mem_singleton.mp hbc
      exact .loop
    | _ => cases h
  | forEach name typeExpr iterable body span =>
    cases y with
    | forEach entity iterable' body' span' =>
      cases List.mem_singleton.mp hbc
      exact .loop
    | _ => cases h
  | _ => cases hbc

/-- **The class around a place**: the innermost class as written, and the class that it became
where it was checked. -/
def Program.ClassAround (p : Program) (t : Checked.Program) (path : Path) (decl : ClassDecl Stmt)
    (cls : ClassRef) : Prop :=
  ∃ (inner outer : Path) (a : Ambient) (c : Checked.Class Checked.Stmt),
    path = inner ++ .cls decl :: outer ∧ inner.cls? = none ∧
    p.Twins t outer (.classDecl decl) a (.classDecl c) ∧ c.cls = cls

/-- **The function around a place**: the innermost function, method or constructor as written,
and the one that it became where it was checked. -/
inductive Program.FunctionAround (p : Program) (t : Checked.Program) :
    Path → Construct → Entity → Prop
  /-- A function. -/
  | function {inner outer : Path} {decl : FnDecl Stmt} {a : Ambient}
      {f : Checked.Function Checked.Stmt} : inner.function? = none →
      p.Twins t outer (.function decl) a (.function f) →
      FunctionAround p t (inner ++ .function decl :: outer) (.function decl) f.entity
  /-- A method of a class. -/
  | method {inner outer : Path} {decl : ClassDecl Stmt} {a : Ambient}
      {c : Checked.Class Checked.Stmt} {m : FnDecl Stmt} {f : Checked.Function Checked.Stmt} :
      inner.function? = none → p.Twins t outer (.classDecl decl) a (.classDecl c) →
      (m, f) ∈ decl.methods.zip c.methods →
      FunctionAround p t (inner ++ .function m :: .cls decl :: outer) (.function m) f.entity
  /-- The constructor of a class. -/
  | ctor {inner outer : Path} {decl : ClassDecl Stmt} {a : Ambient}
      {c : Checked.Class Checked.Stmt} : inner.function? = none →
      p.Twins t outer (.classDecl decl) a (.classDecl c) →
      FunctionAround p t (inner ++ .ctor decl :: .cls decl :: outer) (.ctor decl) c.ctor

namespace Program

variable {path : Path} {x : Stmt} {a : Ambient} {y : Checked.Stmt}

/-- A construct that is no class does not come between. -/
theorem ClassAround.cons {k : Construct} (hk : ∀ inner, Path.cls? (k :: inner) = Path.cls? inner)
    {decl : ClassDecl Stmt} {cls : ClassRef} (h : p.ClassAround t path decl cls) :
    p.ClassAround t (k :: path) decl cls := by
  obtain ⟨inner, outer, b, c, rfl, hinner, htwins, rfl⟩ := h
  exact ⟨k :: inner, outer, b, c, rfl, (hk inner).trans hinner, htwins, rfl⟩

theorem FunctionAround.cons {k : Construct}
    (hk : ∀ inner, Path.function? (k :: inner) = Path.function? inner) {f : Construct}
    {entity : Entity} (h : p.FunctionAround t path f entity) :
    p.FunctionAround t (k :: path) f entity := by
  cases h with
  | function hinner htwins => exact .function ((hk _).trans hinner) htwins
  | method hinner htwins hm => exact .method ((hk _).trans hinner) htwins hm
  | ctor hinner htwins => exact .ctor ((hk _).trans hinner) htwins

/-- **The class at hand is the one around the place.** -/
theorem Twins.class_around (hall : ∀ {path x a y}, p.Twins t path x a y → x.Alike y)
    (h : p.Twins t path x a y) : Option.Rel (p.ClassAround t path) path.cls? a.cls := by
  induction h with
  | top => exact .none
  | @inner path _ _ _ _ _ b c hxy hbc _ ih =>
    obtain ⟨around, names, block⟩ := b
    obtain ⟨inside, block'⟩ := c
    cases (hall hxy).enters hbc with
    | branch => exact rel_mono (fun _ _ => .cons fun _ => rfl) ih
    | loop => exact rel_mono (fun _ _ => .cons fun _ => rfl) ih
    | function => exact rel_mono (fun _ _ => .cons fun _ => rfl) ih
    | ctor hx hy =>
      subst hx hy
      exact .some ⟨[.ctor _], _, _, _, rfl, rfl, hxy, rfl⟩
    | method hx hy =>
      subst hx hy
      exact .some ⟨[.function _], _, _, _, rfl, rfl, hxy, rfl⟩

/-- **The function at hand is the one around the place.** -/
theorem Twins.function_around (hall : ∀ {path x a y}, p.Twins t path x a y → x.Alike y)
    (h : p.Twins t path x a y) :
    Option.Rel (p.FunctionAround t path) path.function? a.function := by
  induction h with
  | top => exact .none
  | @inner path _ _ _ _ _ b c hxy hbc _ ih =>
    obtain ⟨around, names, block⟩ := b
    obtain ⟨inside, block'⟩ := c
    cases (hall hxy).enters hbc with
    | branch => exact rel_mono (fun _ _ => .cons fun _ => rfl) ih
    | loop => exact rel_mono (fun _ _ => .cons fun _ => rfl) ih
    | @function decl f hx hy =>
      subst hx hy
      have haround : p.FunctionAround t ([] ++ .function decl :: path) _ _ := .function rfl hxy
      exact .some haround
    | @ctor decl k hx hy =>
      subst hx hy
      have haround : p.FunctionAround t ([] ++ .ctor decl :: .cls decl :: path) _ _ := .ctor rfl hxy
      exact .some haround
    | @method decl k m f hx hy hm =>
      subst hx hy
      have haround : p.FunctionAround t ([] ++ .function m :: .cls decl :: path) _ _ :=
        .method rfl hxy hm
      exact .some haround

end Program

end Shipshape
