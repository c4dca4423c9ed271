import Mathlib.Data.List.Forall2
import Shipshape.Proofs.Checked.Node
import Shipshape.Proofs.Outline.Tree
import Shipshape.Proofs.Tree.Walk

/-!
# Nodes that share an outline

Where a checked program erases to the outline of a program, so does each of its nodes erase
to a node of the program. Nothing is said here about how the one came out of the other.

* `Shipshape.Checked.Expr.Within.erase` – what lies in a checked expression erases to what
  lies in the expression;
* `Shipshape.Stmt.SharesOutline` – a statement and a checked statement with the same outline,
  whose blocks share their outlines in turn (`Shipshape.Stmt.SharesOutline.bodies`);
* `Shipshape.Program.exists_checked_stmt`, `Shipshape.Program.exists_written_stmt` – every
  statement of the one program has its counterpart in the other.
-/

namespace Shipshape

open Checked

/-! ### Lists -/

theorem Checked.eraseExprs_eq_map (es : List Checked.Expr) :
    eraseExprs es = es.map Checked.Expr.erase := by
  induction es with
  | nil => rfl
  | cons e es ih => rw [eraseExprs, ih, List.map_cons]

theorem Checked.eraseEntries_eq_map (entries : List (Checked.Expr × Checked.Expr)) :
    eraseEntries entries = entries.map fun entry => (entry.1.erase, entry.2.erase) := by
  induction entries with
  | nil => rfl
  | cons entry entries ih => rw [eraseEntries, ih, List.map_cons]

theorem Checked.eraseStmts_eq_map (ys : List Checked.Stmt) :
    eraseStmts ys = ys.map Checked.Stmt.erase := by
  induction ys with
  | nil => rfl
  | cons y ys ih => rw [eraseStmts, ih, List.map_cons]

theorem Checked.eraseMethods_eq_map (fs : List (Function Checked.Stmt)) :
    eraseMethods fs = fs.map eraseFunction := by
  induction fs with
  | nil => rfl
  | cons f fs ih => rw [eraseMethods, ih, List.map_cons]

theorem Checked.eraseBranches_eq_map (bs : List (Branch Checked.Expr Checked.Stmt)) :
    eraseBranches bs = bs.map fun b => ⟨b.test.erase, eraseBlock b.body⟩ := by
  induction bs with
  | nil => rfl
  | cons b bs ih => rw [eraseBranches, ih, List.map_cons]

theorem stmtsOutline_eq_map (xs : List Stmt) : stmtsOutline xs = xs.map Stmt.outline := by
  induction xs with
  | nil => rfl
  | cons x xs ih => rw [stmtsOutline, ih, List.map_cons]

theorem methodsOutline_eq_map (fs : List (FnDecl Stmt)) :
    methodsOutline fs = fs.map functionOutline := by
  induction fs with
  | nil => rfl
  | cons f fs ih => rw [methodsOutline, ih, List.map_cons]

theorem branchesOutline_eq_map (bs : List (Branch Expr Stmt)) :
    branchesOutline bs = bs.map fun b => ⟨b.test, blockOutline b.body⟩ := by
  induction bs with
  | nil => rfl
  | cons b bs ih => rw [branchesOutline, ih, List.map_cons]

/-- Lists with equal images correspond member by member. -/
theorem forall₂_of_map_eq {α β γ : Type} {f : α → γ} {g : β → γ} {as : List α} {bs : List β}
    (h : bs.map g = as.map f) : List.Forall₂ (fun a b => g b = f a) as bs := by
  rw [← List.forall₂_eq_eq_eq, List.forall₂_map_left_iff, List.forall₂_map_right_iff] at h
  exact h.flip

/-- A member of one list corresponds to a member of the other. -/
theorem exists_mem_of_forall₂ {α β : Type} {R : α → β → Prop} {as : List α} {bs : List β}
    (h : List.Forall₂ R as bs) {a : α} (ha : a ∈ as) : ∃ b ∈ bs, R a b := by
  induction h with
  | nil => cases ha
  | @cons c d as bs hcd _ ih =>
    rcases List.mem_cons.mp ha with rfl | ha
    · exact ⟨d, List.mem_cons_self, hcd⟩
    · obtain ⟨b, hb, hab⟩ := ih ha
      exact ⟨b, List.mem_cons_of_mem _ hb, hab⟩

/-! ### Expressions -/

namespace Checked.Expr

theorem parts_erase (e : Checked.Expr) : e.erase.parts = e.parts.map erase := by
  cases e with
  | call | methodCall | array | construct =>
    simp only [erase, parts, Shipshape.Expr.parts, eraseExprs_eq_map, List.map_cons]
  | map entries ty span =>
    simp only [erase, parts, Shipshape.Expr.parts, eraseEntries_eq_map, List.flatMap_map,
      List.map_flatMap, List.map_cons, List.map_nil]
  | literal | symbol | self | binary | unary | conditional | subscript | member => rfl

/-- **What lies in a checked expression** erases to what lies in the expression. -/
theorem Within.erase {c e : Checked.Expr} (h : c.Within e) : c.erase.Within e.erase := by
  induction h with
  | refl => exact .refl
  | part hd _ ih =>
    refine .part ?_ ih
    rw [parts_erase]
    exact List.mem_map_of_mem hd

end Checked.Expr

/-! ### Statements -/

/-- **A statement and a checked statement share an outline.** -/
def Stmt.SharesOutline (x : Stmt) (y : Checked.Stmt) : Prop := y.erase = x.outline

theorem forall₂_sharesOutline {xs : List Stmt} {ys : List Checked.Stmt}
    (h : eraseStmts ys = stmtsOutline xs) : List.Forall₂ Stmt.SharesOutline xs ys := by
  rw [eraseStmts_eq_map, stmtsOutline_eq_map] at h
  exact forall₂_of_map_eq h

/-- A block below a statement and a block below a checked statement share an outline. -/
def Body.SharesOutline (b : Body) (c : Ambient × Block Checked.Stmt) : Prop :=
  List.Forall₂ Stmt.SharesOutline b.block.body c.2.body

theorem Body.sharesOutline_of_erase {b : Body} {c : Ambient × Block Checked.Stmt}
    (h : eraseBlock c.2 = blockOutline b.block) : b.SharesOutline c := by
  obtain ⟨around, names, body, span⟩ := b
  obtain ⟨a, body', span'⟩ := c
  exact forall₂_sharesOutline (congrArg Block.body h)

theorem Checked.body_eraseFunction (f : Function Checked.Stmt) :
    (eraseFunction f).body = eraseBlock f.body := by
  cases f
  rfl

theorem Checked.body_eraseClass (k : Class Checked.Stmt) :
    (eraseClass k).body = eraseBlock k.body ∧ (eraseClass k).methods = eraseMethods k.methods := by
  cases k
  exact ⟨rfl, rfl⟩

theorem body_functionOutline (decl : FnDecl Stmt) :
    (functionOutline decl).body = blockOutline decl.body := by
  cases decl
  rfl

theorem body_classOutline (decl : ClassDecl Stmt) :
    (classOutline decl).body = blockOutline decl.body ∧
      (classOutline decl).methods = methodsOutline decl.methods := by
  cases decl
  exact ⟨rfl, rfl⟩

theorem Body.sharesOutline_function {decl : FnDecl Stmt} {f : Function Checked.Stmt}
    (h : eraseFunction f = functionOutline decl) (around : Path) (a : Ambient) :
    (decl.toBody around).SharesOutline (a, f.body) := by
  have hbody := congrArg Outline.Function.body h
  rw [body_eraseFunction, body_functionOutline] at hbody
  exact sharesOutline_of_erase hbody

theorem Body.sharesOutline_class {decl : ClassDecl Stmt} {k : Class Checked.Stmt}
    (h : eraseClass k = classOutline decl) (a : Ambient) :
    List.Forall₂ SharesOutline (Stmt.bodies (.classDecl decl)) (Stmt.blocks a (.classDecl k)) := by
  obtain ⟨hbody, hmethods⟩ := body_eraseClass k
  obtain ⟨hbody', hmethods'⟩ := body_classOutline decl
  rw [h] at hbody hmethods
  rw [hbody] at hbody'
  rw [hmethods, eraseMethods_eq_map, methodsOutline_eq_map] at hmethods'
  refine .cons (sharesOutline_of_erase hbody') ?_
  rw [List.forall₂_map_left_iff, List.forall₂_map_right_iff]
  exact (forall₂_of_map_eq hmethods').imp fun m f hf => sharesOutline_function hf _ _

/-- **The blocks below statements that share an outline** share their outlines. -/
theorem Stmt.SharesOutline.bodies {x : Stmt} {y : Checked.Stmt} (h : x.SharesOutline y)
    (a : Ambient) : List.Forall₂ Body.SharesOutline x.bodies (y.blocks a) := by
  have hone {b : Body} {c : Ambient × Block Checked.Stmt}
      (hbc : eraseBlock c.2 = blockOutline b.block) : List.Forall₂ Body.SharesOutline [b] [c] :=
    .cons (Body.sharesOutline_of_erase hbc) .nil
  rw [SharesOutline] at h
  cases x with
  | function decl =>
    cases y with
    | function f =>
      exact .cons (Body.sharesOutline_function (Outline.Stmt.function.inj h) _ _) .nil
    | _ => cases h
  | classDecl decl =>
    cases y with
    | classDecl k => exact Body.sharesOutline_class (Outline.Stmt.classDecl.inj h) a
    | _ => cases h
  | ifElse branches alternate span =>
    cases y with
    | ifElse branches' alternate' span' =>
      obtain ⟨hbranches, halternate, -⟩ := Outline.Stmt.ifElse.inj h
      rw [eraseBranches_eq_map, branchesOutline_eq_map] at hbranches
      refine List.rel_append ?_ ?_
      · rw [List.forall₂_map_left_iff, List.forall₂_map_right_iff]
        exact (forall₂_of_map_eq hbranches).imp fun b c hbc =>
          Body.sharesOutline_of_erase (congrArg Branch.body hbc)
      · cases alternate with
        | none =>
          cases alternate' with
          | none => exact .nil
          | some c => cases halternate
        | some b =>
          cases alternate' with
          | none => cases halternate
          | some c => exact hone (Option.some.inj halternate)
    | _ => cases h
  | whileLoop test body span =>
    cases y with
    | whileLoop test' body' span' => exact hone (Outline.Stmt.whileLoop.inj h).2.1
    | _ => cases h
  | forLoop name start stop body span =>
    cases y with
    | forLoop entity start' stop' body' span' => exact hone (Outline.Stmt.forLoop.inj h).2.2.2.1
    | _ => cases h
  | forEach name typeExpr iterable body span =>
    cases y with
    | forEach entity iterable' body' span' => exact hone (Outline.Stmt.forEach.inj h).2.2.1
    | _ => cases h
  | var | field | assign | print | expr | breakLoop | ret =>
    cases y with
    | var | field | assign | print | expr | breakLoop | ret => exact .nil
    | _ => cases h

/-! ### Programs -/

section

variable {p : Program} {t : Checked.Program} (h : t.erase = p.outline)

include h

/-- **Every statement of a program** has its counterpart in the checked program. -/
theorem Program.exists_checked_stmt {path : Path} {x : Stmt} (hx : p.HasStmt path x) :
    ∃ a y, t.HasStmt a y ∧ x.SharesOutline y := by
  induction hx with
  | top hx =>
    have hbody := forall₂_sharesOutline (congrArg Outline.Program.body h)
    obtain ⟨y, hy, hxy⟩ := exists_mem_of_forall₂ hbody hx
    exact ⟨.top, y, .top hy, hxy⟩
  | inner _ hb hx ih =>
    obtain ⟨a, y, hy, hxy⟩ := ih
    obtain ⟨c, hc, hbc⟩ := exists_mem_of_forall₂ (hxy.bodies a) hb
    obtain ⟨y', hy', hxy'⟩ := exists_mem_of_forall₂ hbc hx
    exact ⟨c.1, y', .inner hy hc hy', hxy'⟩

/-- **Every statement of a checked program** has its counterpart in the program. -/
theorem Program.exists_written_stmt {a : Ambient} {y : Checked.Stmt} (hy : t.HasStmt a y) :
    ∃ path x, p.HasStmt path x ∧ x.SharesOutline y := by
  induction hy with
  | top hy =>
    have hbody := forall₂_sharesOutline (congrArg Outline.Program.body h)
    obtain ⟨x, hx, hxy⟩ := exists_mem_of_forall₂ hbody.flip hy
    exact ⟨[], x, .top hx, hxy⟩
  | @inner a _ _ _ _ hc hy ih =>
    obtain ⟨path, x, hx, hxy⟩ := ih
    obtain ⟨b, hb, hbc⟩ := exists_mem_of_forall₂ (hxy.bodies a).flip hc
    obtain ⟨x', hx', hxy'⟩ := exists_mem_of_forall₂ (List.Forall₂.flip hbc) hy
    exact ⟨_, x', .inner hx hb hx', hxy'⟩

end

end Shipshape
