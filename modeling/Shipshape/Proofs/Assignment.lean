import Shipshape.Proofs.Arguments
import Shipshape.Proofs.Outline
import Shipshape.Proofs.Outline.Walk

/-!
# What is assigned to

A value is assigned to a target, and a target should be a place that can hold one: a name, an
element or a field.

* `Shipshape.Expr.isPlace`, `Shipshape.Checked.Expr.isPlace` – expressions that are places;
* `Shipshape.checkStmt_assign_iff` – which assignments are accepted: those whose value and
  target are accepted as expressions and whose types fit, whatever the target is;
* `Shipshape.checkProgram_assigns` – in a program that is accepted, values fit their targets,
  and all targets are places exactly when the program only writes places;
* `Shipshape.hullProgram_assigns` – a program that assigns to a number is accepted.

That a target is a place is a matter of the tree that is checked. A check keeps the form of
every target (`Shipshape.Checked.Expr.isPlace_erase`), and looks at nothing but its type.
-/

namespace Shipshape

/-! ### Places -/

/-- **Whether an expression is a place**: a name, an element or a field. -/
def Expr.isPlace : Expr → Bool
  | .symbol _ _ | .subscript _ _ _ | .member _ _ _ => true
  | .literal _ _ | .self _ | .binary _ _ _ _ | .unary _ _ _ | .conditional _ _ _ _ | .call _ _ _
  | .array _ _ | .map _ _ | .methodCall _ _ _ _ | .construct _ _ _ => false

/-- Whether a checked expression is a place. -/
def Checked.Expr.isPlace : Checked.Expr → Bool
  | .symbol _ _ _ _ | .subscript _ _ _ _ | .member _ _ _ _ => true
  | .literal _ _ _ | .self _ _ _ | .binary _ _ _ _ _ | .unary _ _ _ _ | .conditional _ _ _ _ _
  | .call _ _ _ _ _ | .array _ _ _ | .map _ _ _ | .methodCall _ _ _ _ _ _
  | .construct _ _ _ _ => false

theorem Checked.Expr.isPlace_erase (e : Checked.Expr) : e.erase.isPlace = e.isPlace := by
  cases e <;> rfl

/-- The program assigns to the target somewhere. -/
def Program.AssignsTo (p : Program) (target : Expr) : Prop :=
  ∃ path value span, p.HasStmt path (.assign target value span)

/-- The checked program assigns to the target somewhere. -/
def Checked.Program.AssignsTo (t : Checked.Program) (target : Checked.Expr) : Prop :=
  ∃ a value span, t.HasStmt a (.assign target value span)

/-- Only assignments share the outline of an assignment, and the target is the same. -/
theorem Stmt.SharesOutline.of_assign {target value : Expr} {span : Span} {y : Checked.Stmt}
    (h : Stmt.SharesOutline (.assign target value span) y) :
    ∃ target' value', y = .assign target' value' span ∧ target'.erase = target := by
  cases y with
  | assign target' value' span' =>
    obtain ⟨htarget, -, rfl⟩ := Outline.Stmt.assign.inj h
    exact ⟨target', value', rfl, htarget⟩
  | _ => cases h

theorem Stmt.SharesOutline.of_checked_assign {x : Stmt} {target value : Checked.Expr} {span : Span}
    (h : x.SharesOutline (.assign target value span)) :
    ∃ value', x = .assign target.erase value' span := by
  cases x with
  | assign target' value' span' =>
    obtain ⟨rfl, -, rfl⟩ := Outline.Stmt.assign.inj h
    exact ⟨value', rfl⟩
  | _ => cases h

/-- **A check keeps the form of every target.** -/
theorem Checked.Program.forall_isPlace_iff {p : Shipshape.Program} {t : Checked.Program}
    (h : t.erase = p.outline) :
    (∀ target, t.AssignsTo target → target.isPlace = true) ↔
      ∀ target, p.AssignsTo target → target.isPlace = true := by
  constructor
  · rintro hplaces target ⟨path, value, span, hx⟩
    obtain ⟨a, y, hy, hxy⟩ := Program.exists_checked_stmt h hx
    obtain ⟨target', value', rfl, rfl⟩ := hxy.of_assign
    rw [Expr.isPlace_erase]
    exact hplaces target' ⟨a, value', span, hy⟩
  · rintro hplaces target ⟨a, value, span, hy⟩
    obtain ⟨path, x, hx, hxy⟩ := Program.exists_written_stmt h hy
    obtain ⟨value', rfl⟩ := hxy.of_checked_assign
    rw [← Expr.isPlace_erase]
    exact hplaces _ ⟨path, value', span, hx⟩

/-! ### Assignments -/

variable {s : State} {id : ScopeId}

theorem State.Checks.bind {α : Type} {e : Expr} {e' : Checked.Expr} (h : s.Checks id e e')
    (f : Checked.Expr → Check α) : (checkExpr id e >>= f) s = f e' s :=
  Check.bind_eq_of_left h f

/-- **Which assignments are accepted.** The value and the target are accepted as any expression
is, and the type of the value fits that of the target. -/
theorem checkStmt_assign_iff (h : s.arena.Live id) {target value : Expr} {span : Span}
    {y : Checked.Stmt} {u : State} :
    checkStmt id (.assign target value span) s = .ok y u ↔
      (s.depth < s.limit ∧ ∃ target' value', s.deeper.Checks id value value' ∧
        s.deeper.Checks id target target' ∧ value'.ty.assignableTo target'.ty = true ∧
        y = .assign target' value' span) ∧ u = s := by
  have hdeeper : s.deeper.arena.Live id := h
  rw [checkStmt, Check.nested_eq_ok_iff]
  constructor
  · rintro ⟨hroom, w, hrun, rfl⟩
    rcases hdeeper.checks_or_refuses value with ⟨value', hvalue⟩ | ⟨d, hvalue⟩
    · rw [hvalue.bind] at hrun
      rcases hdeeper.checks_or_refuses target with ⟨target', htarget⟩ | ⟨d, htarget⟩
      · rw [htarget.bind] at hrun
        cases hrule : Rule.assignable value' target'.ty with
        | ok _ =>
          rw [hrule] at hrun
          cases hrun
          exact ⟨⟨hroom, target', value', hvalue, htarget, Rule.assignable_eq_ok_iff.mp hrule, rfl⟩,
            rfl⟩
        | error d =>
          rw [hrule] at hrun
          cases hrun
      · cases (Check.bind_eq_error_of_left htarget _).symm.trans hrun
    · cases (Check.bind_eq_error_of_left hvalue _).symm.trans hrun
  · rintro ⟨⟨hroom, target', value', hvalue, htarget, hfits, rfl⟩, rfl⟩
    have hrule : Rule.assignable value' target'.ty = .ok () := Rule.assignable_eq_ok_iff.mpr hfits
    refine ⟨hroom, u.deeper, ?_, rfl⟩
    rw [hvalue.bind, htarget.bind, hrule]
    rfl

/-- **What a program assigns to.** In a program that is accepted, the type of every value that is
assigned, at any depth, fits the type of its target. All targets of the checked program are
places exactly when all those that are written are. For the check itself does not ask whether a
target is a place: in every scope of every state whose scopes are well-formed, an assignment is
accepted exactly when there is room for it, its value and its target are accepted as any other
expression is, and the types fit; and nothing changes then. -/
theorem checkProgram_assigns {limit : Nat} {p : Program} {t : Checked.Program}
    (h : checkProgram limit p = .ok t) :
    (∀ a target value span, t.HasStmt a (.assign target value span) →
      value.ty.assignableTo target.ty = true) ∧
    ((∀ target, t.AssignsTo target → target.isPlace = true) ↔
      ∀ target, p.AssignsTo target → target.isPlace = true) ∧
    ∀ (s : State) (id : ScopeId), s.arena.WellFormed → id < s.arena.size →
      ∀ target value span y u, checkStmt id (.assign target value span) s = .ok y u ↔
        (s.depth < s.limit ∧ ∃ target' value', s.deeper.Checks id value value' ∧
          s.deeper.Checks id target target' ∧ value'.ty.assignableTo target'.ty = true ∧
          y = .assign target' value' span) ∧ u = s := by
  refine ⟨fun a target value span hy => ?_, ?_, fun s id hs hid target value span y u => ?_⟩
  · exact (checkProgram_fits h hy).typed
  · exact Checked.Program.forall_isPlace_iff (checkProgram_outline h)
  · exact checkStmt_assign_iff ⟨hs, hid⟩

/-- A value for an element of an array, and one for a variable. -/
def ebbing : List Stmt :=
  [.assign (.subscript (.symbol "hull" .null) (.literal (.int 0) .null) .null)
    (.symbol "depth" .null) .null,
  .assign (.symbol "depth" .null) (.literal (.int 3) .null) .null]

/-- An array and a variable, and a loop with these assignments. -/
def ebbProgram : Program where
  body := [.var "hull" none (.array [.literal (.int 1) .null] .null) .null,
    .var "depth" none (.literal (.int 4) .null) .null,
    .whileLoop (.literal (.bool true) .null) ⟨ebbing, .null⟩ .null]
  span := .null

/-- The loop assigns to places, and nothing else is assigned to. -/
theorem ebbProgram_assigns : ∃ t, checkProgram defaultLimit ebbProgram = .ok t ∧
    (∀ a target value span, t.HasStmt a (.assign target value span) →
      value.ty.assignableTo target.ty = true) ∧
    ∀ target, t.AssignsTo target → target.isPlace = true := by
  have haccepted : (checkProgram defaultLimit ebbProgram).isOk = true := by decide +kernel
  cases h : checkProgram defaultLimit ebbProgram with
  | error e =>
    rw [h] at haccepted
    cases haccepted
  | ok t =>
    obtain ⟨htyped, hplaces, -⟩ := checkProgram_assigns h
    refine ⟨t, rfl, htyped, hplaces.mpr ?_⟩
    rintro target ⟨path, value, span, hx⟩
    have hwhere {path : Path} {x : Stmt} (hx : ebbProgram.HasStmt path x) :
        x ∈ ebbProgram.body ∨ x ∈ ebbing := by
      induction hx with
      | top hx => exact .inl hx
      | inner _ hb hy ih =>
        simp only [ebbProgram, ebbing, List.mem_cons, List.not_mem_nil, or_false] at ih
        rcases ih with (rfl | rfl | rfl) | rfl | rfl
        · cases hb
        · cases hb
        · cases List.mem_singleton.mp hb
          exact .inr hy
        · cases hb
        · cases hb
    have hplace := hwhere hx
    simp only [ebbProgram, ebbing, List.mem_cons, List.not_mem_nil, or_false] at hplace
    rcases hplace with (⟨⟨⟩⟩ | ⟨⟨⟩⟩ | ⟨⟨⟩⟩) | ⟨⟨⟩⟩ | ⟨⟨⟩⟩
    · rfl
    · rfl

/-- A number to which another one is assigned. -/
def hullProgram : Program where
  body := [.assign (.literal (.int 1) .null) (.literal (.int 2) .null) .null]
  span := .null

/-- **A target need not be a place.** -/
theorem hullProgram_assigns : ¬∀ (limit : Nat) (p : Program) (t : Checked.Program),
    checkProgram limit p = .ok t → ∀ a target value span,
      t.HasStmt a (.assign target value span) →
      target.isPlace = true ∧ value.ty.assignableTo target.ty = true := by
  intro hall
  have haccepted : checkProgram defaultLimit hullProgram = .ok ⟨[.assign
    (.literal (.int 1) .int .null) (.literal (.int 2) .int .null) .null], .null, .empty⟩ := by cbv
  have hplace := (hall _ _ _ haccepted _ _ _ _ (.top List.mem_cons_self)).1
  cases hplace

end Shipshape
