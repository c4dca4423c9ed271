import Shipshape.Proofs.Induction
import Shipshape.Proofs.Respelling.Tree
import Shipshape.Tree.Equal

/-!
# What equality of trees compares

Equality goes through two trees at once and compares doubles as numbers. Here it is said what it
finds: the trees are the same once the signs of zeros are dropped, and there is no NaN in them.

* `Shipshape.Respelling.unsigned` – drops the sign of every zero, and keeps all else;
* `Shipshape.Expr.doubles`, `Shipshape.Stmt.doubles`, `Shipshape.Program.doubles` – the doubles
  that are written in a tree, from left to right;
* `Shipshape.AllNumbers` – there is no NaN among some doubles;
* `Shipshape.Decides` – what a comparison of two nodes decides, put together from what is decided
  of their parts;
* `Shipshape.TypeExpr.equal_iff`, `Shipshape.Expr.equal_iff`, `Shipshape.Stmt.equal_iff`,
  `Shipshape.Program.equal_iff` – what equality means, sort by sort.

There is nothing to drop in a type expression, so equality is identity there.
-/

namespace Shipshape

/-! ### Signs of zeros -/

/-- The literal without the sign of a zero. -/
def Literal.unsigned : Literal → Literal
  | .double value => .double value.canonical
  | value => value

/-- **The respelling that drops the sign of every zero**, and keeps all else. -/
def Respelling.unsigned : Respelling where
  name := id
  position := id
  literal := Literal.unsigned
  name_injective := Function.injective_id
  name_builtIn := Respelling.blank.name_builtIn
  literal_ty value := by cases value <;> rfl

@[simp] theorem Respelling.unsigned_name (name : String) : Respelling.unsigned.name name = name :=
  rfl

@[simp] theorem Respelling.unsigned_literal (value : Literal) :
    Respelling.unsigned.literal value = value.unsigned := rfl

@[simp] theorem Span.respell_unsigned (span : Span) : span.respell .unsigned = span := rfl

@[simp] theorem TypeExpr.respell_unsigned : TypeExpr.respell .unsigned = id := by
  have hlist {as : List TypeExpr} (h : ∀ a ∈ as, a.respell .unsigned = a) :
      respellTypeExprs .unsigned as = as := by
    induction as with
    | nil => rw [respellTypeExprs]
    | cons a as ih =>
      obtain ⟨ha, has⟩ := List.forall_mem_cons.mp h
      rw [respellTypeExprs, ha, ih has]
  funext a
  rw [id_eq]
  induction a with
  | name => simp [respell]
  | array element ih => rw [respell, ih]
  | map key value ihkey ihvalue => rw [respell, ihkey, ihvalue]
  | function params result ihparams ihresult => rw [respell, hlist ihparams, ihresult]

@[simp] theorem Param.respell_unsigned : Param.respell .unsigned = id := by
  funext p
  simp [Param.respell]

/-! ### Doubles -/

/-- **There is no NaN among the doubles.** -/
def AllNumbers (ds : List Double) : Prop := ∀ d ∈ ds, d.isNaN = false

@[simp] theorem allNumbers_nil : AllNumbers [] := List.forall_mem_nil _

@[simp] theorem allNumbers_append {ds es : List Double} :
    AllNumbers (ds ++ es) ↔ AllNumbers ds ∧ AllNumbers es := List.forall_mem_append

/-- The double that a literal is, if it is one. -/
def Literal.doubles : Literal → List Double
  | .double value => [value]
  | .int _ | .string _ | .bool _ => []

mutual

/-- **The doubles in an expression.** -/
def Expr.doubles : Expr → List Double
  | .literal value _ => value.doubles
  | .symbol _ _ | .self _ => []
  | .binary _ left right _ => left.doubles ++ right.doubles
  | .unary _ operand _ => operand.doubles
  | .conditional test consequent alternate _ =>
    test.doubles ++ (consequent.doubles ++ alternate.doubles)
  | .call callee args _ => callee.doubles ++ exprsDoubles args
  | .subscript whole index _ => whole.doubles ++ index.doubles
  | .array elements _ => exprsDoubles elements
  | .map entries _ => entriesDoubles entries
  | .member object _ _ => object.doubles
  | .methodCall object _ args _ => object.doubles ++ exprsDoubles args
  | .construct _ args _ => exprsDoubles args

/-- The doubles in expressions. -/
def exprsDoubles : List Expr → List Double
  | [] => []
  | e :: es => e.doubles ++ exprsDoubles es

/-- The doubles in the entries of a map. -/
def entriesDoubles : List (Expr × Expr) → List Double
  | [] => []
  | (k, v) :: rest => k.doubles ++ (v.doubles ++ entriesDoubles rest)

end

/-- The doubles in an expression that may be absent. -/
def optionDoubles (e : Option Expr) : List Double := (e.map Expr.doubles).getD []

mutual

/-- **The doubles in a statement.** -/
def Stmt.doubles : Stmt → List Double
  | .var _ _ value _ | .field _ _ value _ | .print value _ | .expr value _ => value.doubles
  | .function decl => functionDoubles decl
  | .classDecl decl => classDoubles decl
  | .assign target value _ => target.doubles ++ value.doubles
  | .ifElse branches alternate _ => branchesDoubles branches ++ alternateDoubles alternate
  | .whileLoop test body _ => test.doubles ++ blockDoubles body
  | .forLoop _ start stop body _ => start.doubles ++ (stop.doubles ++ blockDoubles body)
  | .forEach _ _ iterable body _ => iterable.doubles ++ blockDoubles body
  | .breakLoop _ => []
  | .ret value _ => optionDoubles value

/-- The doubles in a function. -/
def functionDoubles : FnDecl Stmt → List Double
  | ⟨_, _, _, body, _⟩ => blockDoubles body

/-- The doubles in a class. -/
def classDoubles : ClassDecl Stmt → List Double
  | ⟨_, _, body, _, methods, _⟩ => blockDoubles body ++ methodsDoubles methods

/-- The doubles in the methods of a class. -/
def methodsDoubles : List (FnDecl Stmt) → List Double
  | [] => []
  | f :: fs => functionDoubles f ++ methodsDoubles fs

/-- The doubles in the branches of a choice. -/
def branchesDoubles : List (Branch Expr Stmt) → List Double
  | [] => []
  | ⟨test, body⟩ :: rest => test.doubles ++ (blockDoubles body ++ branchesDoubles rest)

/-- The doubles in the alternate of a choice. -/
def alternateDoubles : Option (Block Stmt) → List Double
  | none => []
  | some body => blockDoubles body

/-- The doubles in a block. -/
def blockDoubles : Block Stmt → List Double
  | ⟨body, _⟩ => stmtsDoubles body

/-- The doubles in statements. -/
def stmtsDoubles : List Stmt → List Double
  | [] => []
  | x :: xs => x.doubles ++ stmtsDoubles xs

end

/-- **The doubles in a program.** -/
def Program.doubles (p : Program) : List Double := stmtsDoubles p.body

/-! ### Type expressions -/

theorem TypeExpr.equalList_iff {as : List TypeExpr}
    (has : ∀ a ∈ as, ∀ b, a.equal b = true ↔ a = b) (bs : List TypeExpr) :
    equalList as bs = true ↔ as = bs := by
  induction as generalizing bs with
  | nil => cases bs <;> simp [equalList]
  | cons a as ih =>
    obtain ⟨ha, has⟩ := List.forall_mem_cons.mp has
    cases bs with
    | nil => simp [equalList]
    | cons b bs => simp [equalList, ha, ih has]

/-- **Type expressions are equal if they are the same.** -/
@[simp] theorem TypeExpr.equal_iff (a b : TypeExpr) : a.equal b = true ↔ a = b := by
  induction a generalizing b with
  | name => cases b <;> simp [equal]
  | array element ih => cases b <;> simp [equal, ih]
  | map key value ihkey ihvalue => cases b <;> simp [equal, ihkey, ihvalue]
  | function params result ihparams ihresult =>
    cases b <;> simp [equal, equalList_iff ihparams, ihresult]

@[simp] theorem TypeExpr.equalOption_iff (a b : Option TypeExpr) :
    equalOption a b = true ↔ a = b := by
  cases a <;> cases b <;> simp [equalOption]

@[simp] theorem Param.equal_iff (p q : Param) : p.equal q = true ↔ p = q := by
  cases p
  cases q
  simp [Param.equal, and_assoc]

@[simp] theorem Param.equalList_iff (ps qs : List Param) : equalList ps qs = true ↔ ps = qs := by
  induction ps generalizing qs with
  | nil => cases qs <;> simp [equalList]
  | cons p ps ih => cases qs <;> simp [equalList, ih]

/-! ### Comparisons

A comparison of two nodes goes through their parts in order, and holds if it holds of each. What it
decides is put together in the same order. -/

/-- **What a comparison decides**: it succeeds when `p` holds and there is no NaN among the doubles
of either side. -/
def Decides (c : Bool) (p : Prop) (ds es : List Double) : Prop :=
  c = true ↔ p ∧ AllNumbers ds ∧ AllNumbers es

namespace Decides

variable {c c' : Bool} {p q : Prop} {ds ds' ds'' es es' es'' : List Double}

/-- Parts without doubles. -/
theorem of_iff (h : c = true ↔ p) : Decides c p [] [] := by
  rw [Decides, h]
  simp

theorem beq {α : Type} [BEq α] [LawfulBEq α] (a b : α) : Decides (a == b) (a = b) [] [] :=
  of_iff beq_iff_eq

/-- What is decided may be said in another way. -/
theorem congr (h : Decides c p ds es) (hpq : p ↔ q) : Decides c q ds es := by
  rw [Decides, ← hpq]
  exact h

/-- One part after another. -/
theorem and (h : Decides c p ds es) (h' : Decides c' q ds' es') :
    Decides (c && c') (p ∧ q) (ds ++ ds') (es ++ es') := by
  have hc : c = true ↔ p ∧ AllNumbers ds ∧ AllNumbers es := h
  have hc' : c' = true ↔ q ∧ AllNumbers ds' ∧ AllNumbers es' := h'
  calc (c && c') = true
    _ ↔ (p ∧ AllNumbers ds ∧ AllNumbers es) ∧ q ∧ AllNumbers ds' ∧ AllNumbers es' := by
      rw [Bool.and_eq_true, hc, hc']
    _ ↔ (p ∧ q) ∧ (AllNumbers ds ∧ AllNumbers es) ∧ AllNumbers ds' ∧ AllNumbers es' :=
      and_and_and_comm
    _ ↔ (p ∧ q) ∧ AllNumbers (ds ++ ds') ∧ AllNumbers (es ++ es') := by
      rw [allNumbers_append, allNumbers_append, @and_and_and_comm (AllNumbers ds)]

/-- A part without doubles comes last. -/
theorem and_iff (h : Decides c p ds es) (h' : c' = true ↔ q) : Decides (c && c') (p ∧ q) ds es := by
  have hand := h.and (of_iff h')
  rwa [List.append_nil, List.append_nil] at hand

theorem and_beq {α : Type} [BEq α] [LawfulBEq α] (h : Decides c p ds es) (a b : α) :
    Decides (c && a == b) (p ∧ a = b) ds es :=
  h.and_iff beq_iff_eq

theorem assoc (h : Decides c p (ds ++ ds' ++ ds'') (es ++ es' ++ es'')) :
    Decides c p (ds ++ (ds' ++ ds'')) (es ++ (es' ++ es'')) := by
  rwa [List.append_assoc, List.append_assoc] at h

end Decides

/-! ### Expressions -/

/-- Literals are equal if they are the same but for the sign of a zero, and neither is a NaN. -/
theorem Literal.equal_iff (a b : Literal) :
    a.equal b = true ↔
      a.unsigned = b.unsigned ∧ AllNumbers a.doubles ∧ AllNumbers b.doubles := by
  cases a <;> cases b <;>
    simp [equal, unsigned, doubles, AllNumbers, Double.equal_iff, and_left_comm, and_comm]

namespace Expr

/-- **The expressions are the same but for signs of zeros**, and there is no NaN in them. -/
def Same (x y : Expr) : Prop :=
  x.respell .unsigned = y.respell .unsigned ∧ AllNumbers x.doubles ∧ AllNumbers y.doubles

theorem equalList_iff {xs : List Expr} (hxs : ∀ x ∈ xs, ∀ y, x.equal y = true ↔ x.Same y)
    (ys : List Expr) :
    equalList xs ys = true ↔ respellExprs .unsigned xs = respellExprs .unsigned ys ∧
      AllNumbers (exprsDoubles xs) ∧ AllNumbers (exprsDoubles ys) := by
  induction xs generalizing ys with
  | nil => cases ys <;> simp [equalList, respellExprs, exprsDoubles]
  | cons x xs ih =>
    obtain ⟨hx, hxs⟩ := List.forall_mem_cons.mp hxs
    cases ys with
    | nil => simp [equalList, respellExprs]
    | cons y ys =>
      have hparts : Decides (x.equal y && equalList xs ys) _ _ _ :=
        Decides.and (hx y) (ih hxs ys)
      exact hparts.congr (by simp [respellExprs])

theorem equalEntries_iff {xs : List (Expr × Expr)}
    (hxs : ∀ p ∈ xs, (∀ y, p.1.equal y = true ↔ p.1.Same y) ∧ ∀ y, p.2.equal y = true ↔ p.2.Same y)
    (ys : List (Expr × Expr)) :
    equalEntries xs ys = true ↔ respellEntries .unsigned xs = respellEntries .unsigned ys ∧
      AllNumbers (entriesDoubles xs) ∧ AllNumbers (entriesDoubles ys) := by
  induction xs generalizing ys with
  | nil => cases ys <;> simp [equalEntries, respellEntries, entriesDoubles]
  | cons x xs ih =>
    obtain ⟨⟨hk, hv⟩, hrest⟩ := List.forall_mem_cons.mp hxs
    cases ys with
    | nil => simp [equalEntries, respellEntries]
    | cons y ys =>
      have hparts : Decides (x.1.equal y.1 && x.2.equal y.2 && equalEntries xs ys) _ _ _ :=
        ((Decides.and (hk y.1) (hv y.2)).and (ih hrest ys)).assoc
      exact hparts.congr (by simp [respellEntries])

/-- **What equality of expressions means.** -/
theorem equal_iff (x y : Expr) : x.equal y = true ↔ x.Same y := by
  induction x generalizing y with
  | symbol | self => cases y <;> simp [equal, Same, respell, doubles]
  | literal value span =>
    cases y with
    | literal value' span' =>
      have hparts := Decides.and_beq (value.equal_iff value') span span'
      exact hparts.congr (by simp [respell])
    | _ => simp [equal, Same, respell]
  | binary op left right span ihleft ihright =>
    cases y with
    | binary op' left' right' span' =>
      have hparts := (((Decides.beq op op').and (ihleft left')).and (ihright right')).and_beq
        span span'
      exact hparts.congr (by simp [respell, and_assoc])
    | _ => simp [equal, Same, respell]
  | unary op operand span ih =>
    cases y with
    | unary op' operand' span' =>
      have hparts := ((Decides.beq op op').and (ih operand')).and_beq span span'
      exact hparts.congr (by simp [respell, and_assoc])
    | _ => simp [equal, Same, respell]
  | conditional test consequent alternate span ihtest ihthen ihelse =>
    cases y with
    | conditional test' consequent' alternate' span' =>
      have harms := ((Decides.and (ihtest test') (ihthen consequent')).and
        (ihelse alternate')).assoc
      have hparts := harms.and_beq span span'
      exact hparts.congr (by simp [respell, and_assoc])
    | _ => simp [equal, Same, respell]
  | call callee args span ihcallee ihargs =>
    cases y with
    | call callee' args' span' =>
      have hparts := (Decides.and (ihcallee callee') (equalList_iff ihargs args')).and_beq
        span span'
      exact hparts.congr (by simp [respell, and_assoc])
    | _ => simp [equal, Same, respell]
  | subscript whole index span ihwhole ihindex =>
    cases y with
    | subscript whole' index' span' =>
      have hparts := (Decides.and (ihwhole whole') (ihindex index')).and_beq span span'
      exact hparts.congr (by simp [respell, and_assoc])
    | _ => simp [equal, Same, respell]
  | array elements span ih =>
    cases y with
    | array elements' span' =>
      have hparts := Decides.and_beq (equalList_iff ih elements') span span'
      exact hparts.congr (by simp [respell])
    | _ => simp [equal, Same, respell]
  | map entries span ih =>
    cases y with
    | map entries' span' =>
      have hparts := Decides.and_beq (equalEntries_iff ih entries') span span'
      exact hparts.congr (by simp [respell])
    | _ => simp [equal, Same, respell]
  | member object name span ih =>
    cases y with
    | member object' name' span' =>
      have hobject := Decides.and_beq (ih object') name name'
      have hparts := hobject.and_beq span span'
      exact hparts.congr (by simp [respell, and_assoc])
    | _ => simp [equal, Same, respell]
  | methodCall object name args span ihobject ihargs =>
    cases y with
    | methodCall object' name' args' span' =>
      have hobject := Decides.and_beq (ihobject object') name name'
      have hparts := (hobject.and (equalList_iff ihargs args')).and_beq span span'
      exact hparts.congr (by simp [respell, and_assoc])
    | _ => simp [equal, Same, respell]
  | construct className args span ihargs =>
    cases y with
    | construct className' args' span' =>
      have hparts := ((Decides.beq className className').and (equalList_iff ihargs args')).and_beq
        span span'
      exact hparts.congr (by simp [respell, and_assoc])
    | _ => simp [equal, Same, respell]

theorem equalOption_iff (x y : Option Expr) :
    equalOption x y = true ↔ x.map (respell .unsigned) = y.map (respell .unsigned) ∧
      AllNumbers (optionDoubles x) ∧ AllNumbers (optionDoubles y) := by
  cases x <;> cases y <;> simp [equalOption, optionDoubles, equal_iff, Same]

end Expr

/-! ### Statements -/

namespace Stmt

/-- **The statements are the same but for signs of zeros**, and there is no NaN in them. -/
def Same (x y : Stmt) : Prop :=
  x.respell .unsigned = y.respell .unsigned ∧ AllNumbers x.doubles ∧ AllNumbers y.doubles

theorem equalList_iff {xs : List Stmt} (hxs : ∀ x ∈ xs, ∀ y, x.equal y = true ↔ x.Same y)
    (ys : List Stmt) :
    equalList xs ys = true ↔ respellStmts .unsigned xs = respellStmts .unsigned ys ∧
      AllNumbers (stmtsDoubles xs) ∧ AllNumbers (stmtsDoubles ys) := by
  induction xs generalizing ys with
  | nil => cases ys <;> simp [equalList, respellStmts, stmtsDoubles]
  | cons x xs ih =>
    obtain ⟨hx, hxs⟩ := List.forall_mem_cons.mp hxs
    cases ys with
    | nil => simp [equalList, respellStmts]
    | cons y ys =>
      have hparts : Decides (x.equal y && equalList xs ys) _ _ _ :=
        Decides.and (hx y) (ih hxs ys)
      exact hparts.congr (by simp [respellStmts])

theorem equalBlock_iff {a : Block Stmt} (ha : ∀ x ∈ a.body, ∀ y, x.equal y = true ↔ x.Same y)
    (b : Block Stmt) :
    equalBlock a b = true ↔ respellBlock .unsigned a = respellBlock .unsigned b ∧
      AllNumbers (blockDoubles a) ∧ AllNumbers (blockDoubles b) := by
  obtain ⟨xs, span⟩ := a
  obtain ⟨ys, span'⟩ := b
  have hparts := Decides.and_beq (equalList_iff ha ys) span span'
  exact hparts.congr (by simp [respellBlock])

theorem equalFunction_iff {f : FnDecl Stmt}
    (hf : ∀ x ∈ f.body.body, ∀ y, x.equal y = true ↔ x.Same y) (g : FnDecl Stmt) :
    equalFunction f g = true ↔ respellFunction .unsigned f = respellFunction .unsigned g ∧
      AllNumbers (functionDoubles f) ∧ AllNumbers (functionDoubles g) := by
  obtain ⟨name, params, result, body, span⟩ := f
  obtain ⟨name', params', result', body', span'⟩ := g
  have hhead := ((Decides.beq name name').and_iff (Param.equalList_iff params params')).and_iff
    (TypeExpr.equalOption_iff result result')
  have hparts := (hhead.and (equalBlock_iff hf body')).and_beq span span'
  exact hparts.congr (by simp [respellFunction, and_assoc])

theorem equalMethods_iff {fs : List (FnDecl Stmt)}
    (hfs : ∀ f ∈ fs, ∀ x ∈ f.body.body, ∀ y, x.equal y = true ↔ x.Same y)
    (gs : List (FnDecl Stmt)) :
    equalMethods fs gs = true ↔ respellMethods .unsigned fs = respellMethods .unsigned gs ∧
      AllNumbers (methodsDoubles fs) ∧ AllNumbers (methodsDoubles gs) := by
  induction fs generalizing gs with
  | nil => cases gs <;> simp [equalMethods, respellMethods, methodsDoubles]
  | cons f fs ih =>
    obtain ⟨hf, hfs⟩ := List.forall_mem_cons.mp hfs
    cases gs with
    | nil => simp [equalMethods, respellMethods]
    | cons g gs =>
      have hparts : Decides (equalFunction f g && equalMethods fs gs) _ _ _ :=
        Decides.and (equalFunction_iff hf g) (ih hfs gs)
      exact hparts.congr (by simp [respellMethods])

theorem equalClass_iff {c : ClassDecl Stmt}
    (hbody : ∀ x ∈ c.body.body, ∀ y, x.equal y = true ↔ x.Same y)
    (hmethods : ∀ f ∈ c.methods, ∀ x ∈ f.body.body, ∀ y, x.equal y = true ↔ x.Same y)
    (d : ClassDecl Stmt) :
    equalClass c d = true ↔ respellClass .unsigned c = respellClass .unsigned d ∧
      AllNumbers (classDoubles c) ∧ AllNumbers (classDoubles d) := by
  obtain ⟨name, params, body, ctorSpan, methods, span⟩ := c
  obtain ⟨name', params', body', ctorSpan', methods', span'⟩ := d
  have hhead := (Decides.beq name name').and_iff (Param.equalList_iff params params')
  have hctor := (hhead.and (equalBlock_iff hbody body')).and_beq ctorSpan ctorSpan'
  have hparts := (hctor.and (equalMethods_iff hmethods methods')).and_beq span span'
  exact hparts.congr (by simp [respellClass, and_assoc])

theorem equalBranches_iff {bs : List (Branch Expr Stmt)}
    (hbs : ∀ b ∈ bs, ∀ x ∈ b.body.body, ∀ y, x.equal y = true ↔ x.Same y)
    (cs : List (Branch Expr Stmt)) :
    equalBranches bs cs = true ↔ respellBranches .unsigned bs = respellBranches .unsigned cs ∧
      AllNumbers (branchesDoubles bs) ∧ AllNumbers (branchesDoubles cs) := by
  induction bs generalizing cs with
  | nil => cases cs <;> simp [equalBranches, respellBranches, branchesDoubles]
  | cons b bs ih =>
    obtain ⟨hb, hbs⟩ := List.forall_mem_cons.mp hbs
    cases cs with
    | nil => simp [equalBranches, respellBranches]
    | cons c cs =>
      have hbranch := Decides.and (b.test.equal_iff c.test) (equalBlock_iff hb c.body)
      have hparts := (hbranch.and (ih hbs cs)).assoc
      exact hparts.congr (by simp [respellBranches, and_assoc])

theorem equalAlternate_iff {a : Option (Block Stmt)}
    (ha : ∀ b ∈ a, ∀ x ∈ b.body, ∀ y, x.equal y = true ↔ x.Same y) (b : Option (Block Stmt)) :
    equalAlternate a b = true ↔ respellAlternate .unsigned a = respellAlternate .unsigned b ∧
      AllNumbers (alternateDoubles a) ∧ AllNumbers (alternateDoubles b) := by
  cases a with
  | none => cases b <;> simp [equalAlternate, respellAlternate, alternateDoubles]
  | some a =>
    cases b with
    | none => simp [equalAlternate, respellAlternate]
    | some b => simp [equalAlternate, respellAlternate, alternateDoubles, equalBlock_iff (ha a rfl)]

/-- **What equality of statements means.** -/
theorem equal_iff (x y : Stmt) : x.equal y = true ↔ x.Same y := by
  induction x generalizing y with
  | breakLoop => cases y <;> simp [equal, Same, respell, doubles]
  | function decl ih =>
    cases y with
    | function => simp [equal, Same, respell, doubles, equalFunction_iff ih]
    | _ => simp [equal, Same, respell]
  | classDecl decl ihbody ihmethods =>
    cases y with
    | classDecl => simp [equal, Same, respell, doubles, equalClass_iff ihbody ihmethods]
    | _ => simp [equal, Same, respell]
  | var name typeExpr value span =>
    cases y with
    | var name' typeExpr' value' span' =>
      have hhead := (Decides.beq name name').and_iff (TypeExpr.equalOption_iff typeExpr typeExpr')
      have hparts := (hhead.and (value.equal_iff value')).and_beq span span'
      exact hparts.congr (by simp [respell, and_assoc])
    | _ => simp [equal, Same, respell]
  | field typeExpr name value span =>
    cases y with
    | field typeExpr' name' value' span' =>
      have hhead := (Decides.of_iff (typeExpr.equal_iff typeExpr')).and_beq name name'
      have hparts := (hhead.and (value.equal_iff value')).and_beq span span'
      exact hparts.congr (by simp [respell, and_assoc])
    | _ => simp [equal, Same, respell]
  | assign target value span =>
    cases y with
    | assign target' value' span' =>
      have hparts := (Decides.and (target.equal_iff target') (value.equal_iff value')).and_beq
        span span'
      exact hparts.congr (by simp [respell, and_assoc])
    | _ => simp [equal, Same, respell]
  | print value span =>
    cases y with
    | print value' span' =>
      have hparts := Decides.and_beq (value.equal_iff value') span span'
      exact hparts.congr (by simp [respell])
    | _ => simp [equal, Same, respell]
  | expr value span =>
    cases y with
    | expr value' span' =>
      have hparts := Decides.and_beq (value.equal_iff value') span span'
      exact hparts.congr (by simp [respell])
    | _ => simp [equal, Same, respell]
  | ifElse branches alternate span ihbranches ihalternate =>
    cases y with
    | ifElse branches' alternate' span' =>
      have hparts := (Decides.and (equalBranches_iff ihbranches branches')
        (equalAlternate_iff ihalternate alternate')).and_beq span span'
      exact hparts.congr (by simp [respell, and_assoc])
    | _ => simp [equal, Same, respell]
  | whileLoop test body span ih =>
    cases y with
    | whileLoop test' body' span' =>
      have hparts := (Decides.and (test.equal_iff test') (equalBlock_iff ih body')).and_beq
        span span'
      exact hparts.congr (by simp [respell, and_assoc])
    | _ => simp [equal, Same, respell]
  | forLoop name start stop body span ih =>
    cases y with
    | forLoop name' start' stop' body' span' =>
      have hbounds := ((Decides.beq name name').and (start.equal_iff start')).and
        (stop.equal_iff stop')
      have hparts := (hbounds.and (equalBlock_iff ih body')).assoc.and_beq span span'
      exact hparts.congr (by simp [respell, and_assoc])
    | _ => simp [equal, Same, respell]
  | forEach name typeExpr iterable body span ih =>
    cases y with
    | forEach name' typeExpr' iterable' body' span' =>
      have hhead := (Decides.beq name name').and_iff (TypeExpr.equalOption_iff typeExpr typeExpr')
      have hparts := ((hhead.and (iterable.equal_iff iterable')).and
        (equalBlock_iff ih body')).and_beq span span'
      exact hparts.congr (by simp [respell, and_assoc])
    | _ => simp [equal, Same, respell]
  | ret value span =>
    cases y with
    | ret value' span' =>
      have hparts := Decides.and_beq (Expr.equalOption_iff value value') span span'
      exact hparts.congr (by simp [respell])
    | _ => simp [equal, Same, respell]

end Stmt

/-! ### Programs -/

/-- **Programs are equal if they are the same but for signs of zeros**, and there is no NaN in
them. -/
theorem Program.equal_iff (p q : Program) :
    p.equal q = true ↔
      p.respell .unsigned = q.respell .unsigned ∧ AllNumbers p.doubles ∧ AllNumbers q.doubles := by
  have hbody : ∀ x ∈ p.body, ∀ y, x.equal y = true ↔ x.Same y := fun x _ => x.equal_iff
  have hparts := Decides.and_beq (Stmt.equalList_iff hbody q.body) p.span q.span
  exact hparts.congr (by simp [Program.respell])

end Shipshape
