import Mathlib.Data.List.Forall2
import Shipshape.Proofs.Checked.Node
import Shipshape.Proofs.Tree.Walk

/-!
# A program and its checked form, side by side

The checked form of a program has the shape of the program, so that a statement of the one
and a statement of the other may stand at the same place.

* `Shipshape.TypeExpr.Writes` – a type as written, and a type that it can stand for;
* `Shipshape.Path.Matches` – what is around a place as written, and what surrounds the
  place in the checked form, say the same;
* `Shipshape.Stmt.Alike` – a statement and a checked statement of the same kind;
* `Shipshape.Program.Twins` – two statements stand at the same place;
* `Shipshape.Stmt.Twin` – a property of two statements and of all that stand at the same
  place inside them.

Every statement of a program has its counterpart (`Shipshape.Program.exists_twin`), and what
holds throughout holds of the two (`Shipshape.Program.of_twins`).
-/

namespace Shipshape

/-! ### Types as written -/

/-- **A type as written may stand for a type**: each name in it is that of the scalar or
the class in its place. -/
inductive TypeExpr.Writes : TypeExpr → Ty → Prop
  /-- The name of a scalar. -/
  | scalar (kind : Scalar) (span : Span) : Writes (.name kind.name span) (.scalar kind)
  /-- The name of a class. -/
  | object (cls : ClassRef) (span : Span) : Writes (.name cls.name span) (.object cls)
  /-- An array. -/
  | array {element : TypeExpr} {ty : Ty} : Writes element ty → Writes (.array element) (.array ty)
  /-- A map. -/
  | map {key value : TypeExpr} {k v : Ty} : Writes key k → Writes value v →
      Writes (.map key value) (.map k v)
  /-- A function. -/
  | function {params : List TypeExpr} {result : TypeExpr} {tys : List Ty} {ty : Ty} :
      params.length = tys.length → (∀ q ∈ params.zip tys, Writes q.1 q.2) → Writes result ty →
      Writes (.function params result) (.function tys ty)

/-- **The type that a construct declares to return**: the one that it writes, and no value if
it writes none. -/
def Construct.Returns (k : Construct) (ty : Ty) : Prop :=
  match k.result? with
  | none => ty = .none
  | some typeExpr => typeExpr.Writes ty

/-! ### What is around a place -/

/-- **What is around a place as written and what surrounds it in the checked form say the
same**: a loop is around the place or not, the function at hand returns what the innermost
function as written declares, and the class at hand has the name of the innermost class. -/
structure Path.Matches (path : Path) (a : Ambient) : Prop where
  /-- The loop. -/
  inLoop : a.inLoop = path.inLoop
  /-- The function. -/
  function : Option.Rel (fun k f => k.Returns f.resultType) path.function? a.function
  /-- The class. -/
  cls : Option.Rel (fun decl c => c.name = decl.name) path.cls? a.cls

theorem eq_none_iff_of_rel {α β : Type} {r : α → β → Prop} {x : Option α} {y : Option β}
    (h : Option.Rel r x y) : x = none ↔ y = none := by
  cases h <;> simp

theorem exists_of_rel {α β : Type} {r : α → β → Prop} {x : Option α} {y : Option β} {b : β}
    (h : Option.Rel r x y) (hy : y = some b) : ∃ a, x = some a ∧ r a b := by
  subst hy
  cases h with
  | some hab => exact ⟨_, rfl, hab⟩

theorem rel_mono {α β : Type} {r s : α → β → Prop} (hrs : ∀ a b, r a b → s a b) {x : Option α}
    {y : Option β} (h : Option.Rel r x y) : Option.Rel s x y := by
  cases h with
  | some hab => exact .some (hrs _ _ hab)
  | none => exact .none

namespace Path.Matches

variable {path : Path} {a : Ambient}

/-- Nothing is around the top level. -/
theorem top : Path.Matches [] .top := ⟨rfl, .none, .none⟩

theorem loop (h : path.Matches a) : Path.Matches (.loop :: path) a.loop :=
  ⟨rfl, h.function, h.cls⟩

theorem branch (h : path.Matches a) : Path.Matches (.branch :: path) a :=
  ⟨h.inLoop, h.function, h.cls⟩

theorem inFunction (h : path.Matches a) (decl : FnDecl Stmt) {f : Entity}
    (hf : (Construct.function decl).Returns f.resultType) :
    Path.Matches (.function decl :: path) (a.inFunction f) :=
  ⟨rfl, .some hf, h.cls⟩

theorem inCtor (h : path.Matches a) (decl : ClassDecl Stmt) {f : Entity}
    (hf : f.resultType = .none) : Path.Matches (.ctor decl :: path) (a.inFunction f) :=
  ⟨rfl, .some hf, h.cls⟩

theorem inClass (h : path.Matches a) (decl : ClassDecl Stmt) {c : ClassRef}
    (hc : c.name = decl.name) : Path.Matches (.cls decl :: path) (a.inClass c) :=
  ⟨h.inLoop, h.function, .some hc⟩

theorem cls?_eq_none_iff (h : path.Matches a) : path.cls? = none ↔ a.cls = none :=
  eq_none_iff_of_rel h.cls

theorem function?_eq_none_iff (h : path.Matches a) : path.function? = none ↔ a.function = none :=
  eq_none_iff_of_rel h.function

end Path.Matches

/-! ### Statements at the same place -/

/-- **A statement and a checked statement of the same kind**, with the same name and the same
span. A return has a value in both or in neither. -/
def Stmt.Alike : Stmt → Checked.Stmt → Prop
  | .var name _ _ span, .var entity _ _ span' => entity.name = name ∧ span' = span
  | .function decl, .function f => f.entity.name = decl.name ∧ f.span = decl.span
  | .classDecl decl, .classDecl c => c.cls.name = decl.name ∧ c.span = decl.span
  | .field _ name _ span, .field entity _ _ span' => entity.name = name ∧ span' = span
  | .assign _ _ span, .assign _ _ span' | .print _ span, .print _ span'
  | .ifElse _ _ span, .ifElse _ _ span' | .whileLoop _ _ span, .whileLoop _ _ span'
  | .breakLoop span, .breakLoop span' => span' = span
  | .expr _ _, .expr _ => True
  | .forLoop name _ _ _ span, .forLoop entity _ _ _ span'
  | .forEach name _ _ _ span, .forEach entity _ _ span' => entity.name = name ∧ span' = span
  | .ret value span, .ret value' span' => value'.isSome = value.isSome ∧ span' = span
  | _, _ => False

/-- **Two statements stand at the same place** of a program and of its checked form. -/
inductive Program.Twins (p : Program) (t : Checked.Program) :
    Path → Stmt → Ambient → Checked.Stmt → Prop
  /-- At the top level. -/
  | top {x : Stmt} {y : Checked.Stmt} : (x, y) ∈ p.body.zip t.body → Twins p t [] x .top y
  /-- In blocks at the same place below two such statements. -/
  | inner {path : Path} {x x' : Stmt} {a : Ambient} {y y' : Checked.Stmt} {b : Body}
      {c : Ambient × Block Checked.Stmt} : Twins p t path x a y →
      (b, c) ∈ x.bodies.zip (y.blocks a) → (x', y') ∈ b.block.body.zip c.2.body →
      Twins p t (b.around ++ path) x' c.1 y'

/-- The checked statement is one of the checked form. -/
theorem Program.Twins.hasStmt {p : Program} {t : Checked.Program} {path : Path} {x : Stmt}
    {a : Ambient} {y : Checked.Stmt} (h : p.Twins t path x a y) : t.HasStmt a y := by
  induction h with
  | top hxy => exact .top (List.of_mem_zip hxy).2
  | inner _ hbc hxy ih => exact .inner ih (List.of_mem_zip hbc).2 (List.of_mem_zip hxy).2

/-- **A property of two statements, and of all that stand at the same place inside them.**
Every statement inside the one has its counterpart inside the other. -/
inductive Stmt.Twin (P : Path → Stmt → Ambient → Checked.Stmt → Prop) :
    Path → Stmt → Ambient → Checked.Stmt → Prop
  /-- The property holds of the two, and of what lies inside. -/
  | intro {path : Path} {x : Stmt} {a : Ambient} {y : Checked.Stmt} : P path x a y →
      x.bodies.length = (y.blocks a).length →
      (∀ q ∈ x.bodies.zip (y.blocks a), q.1.block.body.length = q.2.2.body.length) →
      (∀ q ∈ x.bodies.zip (y.blocks a), ∀ r ∈ q.1.block.body.zip q.2.2.body,
        Twin P (q.1.around ++ path) r.1 q.2.1 r.2) →
      Twin P path x a y

section

variable {P : Path → Stmt → Ambient → Checked.Stmt → Prop} {path : Path} {a : Ambient}

/-- Statements in a row, each with its counterpart. -/
def Stmt.TwinRow (P : Path → Stmt → Ambient → Checked.Stmt → Prop) (path : Path) (a : Ambient)
    (xs : List Stmt) (ys : List Checked.Stmt) : Prop :=
  List.Forall₂ (fun x y => Stmt.Twin P path x a y) xs ys

/-- A block below a statement, with its counterpart. -/
def Body.Twin (P : Path → Stmt → Ambient → Checked.Stmt → Prop) (path : Path) (b : Body)
    (c : Ambient × Block Checked.Stmt) : Prop :=
  Stmt.TwinRow P (b.around ++ path) c.1 b.block.body c.2.body

theorem Stmt.Twin.of_bodies {x : Stmt} {y : Checked.Stmt} (hxy : P path x a y)
    (h : List.Forall₂ (Body.Twin P path) x.bodies (y.blocks a)) : Stmt.Twin P path x a y := by
  obtain ⟨hlen, hbodies⟩ := List.forall₂_iff_zip.mp h
  refine .intro hxy hlen (fun q hq => ?_) fun q hq r hr => ?_
  · exact (List.forall₂_iff_zip.mp (hbodies hq)).1
  · exact (List.forall₂_iff_zip.mp (hbodies hq)).2 hr

/-- A member of one list has its counterpart in another of the same length. -/
theorem exists_mem_zip {α β : Type} {as : List α} {bs : List β} (hlen : as.length = bs.length)
    {x : α} (hx : x ∈ as) : ∃ y, (x, y) ∈ as.zip bs := by
  obtain ⟨i, hi, rfl⟩ := List.mem_iff_getElem.mp hx
  refine ⟨bs[i], List.mem_iff_getElem.mpr ⟨i, ?_, List.getElem_zip⟩⟩
  rw [List.length_zip]
  omega

variable {p : Program} {t : Checked.Program}

/-- What holds throughout a program holds throughout any two statements at the same place. -/
theorem Program.Twins.twin (h : Stmt.TwinRow P [] .top p.body t.body) {x : Stmt}
    {y : Checked.Stmt} (hxy : p.Twins t path x a y) : Stmt.Twin P path x a y := by
  induction hxy with
  | top hxy => exact (List.forall₂_iff_zip.mp h).2 hxy
  | inner _ hbc hxy ih =>
    cases ih with
    | intro _ _ _ hinner => exact hinner _ hbc _ hxy

/-- What holds throughout a program holds of any two statements at the same place. -/
theorem Program.of_twins (h : Stmt.TwinRow P [] .top p.body t.body) {x : Stmt}
    {y : Checked.Stmt} (hxy : p.Twins t path x a y) : P path x a y := by
  cases hxy.twin h with
  | intro hP => exact hP

/-- **Every statement of a program has its counterpart.** -/
theorem Program.exists_twin (h : Stmt.TwinRow P [] .top p.body t.body) {x : Stmt}
    (hx : p.HasStmt path x) : ∃ a y, p.Twins t path x a y := by
  induction hx with
  | top hx =>
    obtain ⟨y, hxy⟩ := exists_mem_zip (List.forall₂_iff_zip.mp h).1 hx
    exact ⟨.top, y, .top hxy⟩
  | inner _ hb hx' ih =>
    obtain ⟨a, y, hxy⟩ := ih
    cases hxy.twin h with
    | intro _ hlen hlens _ =>
      obtain ⟨c, hbc⟩ := exists_mem_zip hlen hb
      obtain ⟨y', hxy'⟩ := exists_mem_zip (hlens _ hbc) hx'
      exact ⟨c.1, y', .inner hxy hbc hxy'⟩

end

end Shipshape
