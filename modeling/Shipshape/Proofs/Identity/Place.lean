import Shipshape.Proofs.Checked.Declaration
import Shipshape.Proofs.Induction
import Shipshape.Proofs.Tree.Declared

/-!
# Places in a checked tree

What can be seen from each statement of a checked tree, read off the tree alone.

* `Shipshape.Checked.Place` – a statement and the entities that are seen from it, the
  nearest first;
* `Shipshape.Checked.Program.places` – all statements of a program, at any depth
  (`Shipshape.Checked.Program.exists_place`);
* `Shipshape.Checked.Program.entities`, `Shipshape.Checked.Program.classDecls` – what is
  declared in a program, at any depth;
* `Shipshape.Checked.Program.values` – those of the entities that are values: variables,
  fields, functions, methods, parameters and the variables of loops;
* `Shipshape.Checked.Program.seen_declared` – what is seen from a place is declared in the
  program.

A statement is seen from what comes after it in its block, and from whatever lies in
that. A parameter or the variable of a loop is seen in the body that it belongs to, a
function from its own body too, and a method from its own body and from the methods after
it. What a block declares is seen nowhere outside it.

Facts about all places of a tree are proved from its blocks up
(`Shipshape.Checked.Stmt.ind_blocks`), with the blocks of a statement and what is seen in
them in one list (`Shipshape.Checked.Stmt.regions`).
-/

namespace Shipshape.Checked

/-- **A statement in a tree**, with what is seen from it. -/
structure Place where
  /-- The entities that are seen, the nearest first. -/
  seen : List Entity
  /-- The statement. -/
  stmt : Stmt

/-! ### All places -/

mutual

/-- The places inside a statement, from which `seen` is seen. -/
def Stmt.inner (seen : List Entity) : Stmt → List Place
  | .function ⟨entity, params, _, body, _⟩ => blockPlaces (params.reverse ++ entity :: seen) body
  | .classDecl ⟨_, _, _, params, body, _, methods, _⟩ =>
    blockPlaces (params.reverse ++ seen) body ++ methodsPlaces seen methods
  | .ifElse branches alternate _ => branchPlaces seen branches ++ alternatePlaces seen alternate
  | .whileLoop _ body _ => blockPlaces seen body
  | .forLoop entity _ _ body _ | .forEach entity _ body _ => blockPlaces (entity :: seen) body
  | .var _ _ _ _ | .field _ _ _ _ | .assign _ _ _ | .print _ _ | .expr _ | .breakLoop _
  | .ret _ _ => []

/-- The places of a block. -/
def blockPlaces (seen : List Entity) : Block Stmt → List Place
  | ⟨body, _⟩ => stmtsPlaces seen body

/-- The places of statements in a row, each seen from those after it. -/
def stmtsPlaces (seen : List Entity) : List Stmt → List Place
  | [] => []
  | x :: xs => ⟨seen, x⟩ :: (x.inner seen ++ stmtsPlaces (x.declared?.toList ++ seen) xs)

/-- The places of methods, each method seen from its own body and from those after it. -/
def methodsPlaces (seen : List Entity) : List (Function Stmt) → List Place
  | [] => []
  | ⟨entity, params, _, body, _⟩ :: rest =>
    blockPlaces (params.reverse ++ entity :: seen) body ++ methodsPlaces (entity :: seen) rest

/-- The places of the branches of a choice. -/
def branchPlaces (seen : List Entity) : List (Branch Expr Stmt) → List Place
  | [] => []
  | ⟨_, body⟩ :: rest => blockPlaces seen body ++ branchPlaces seen rest

/-- The places of the alternate of a choice. -/
def alternatePlaces (seen : List Entity) : Option (Block Stmt) → List Place
  | none => []
  | some body => blockPlaces seen body

end

theorem methodsPlaces_cons (seen : List Entity) (f : Function Stmt) (fs : List (Function Stmt)) :
    methodsPlaces seen (f :: fs) =
      methodsPlaces seen [f] ++ methodsPlaces (f.entity :: seen) fs := by
  rw [methodsPlaces.eq_def, methodsPlaces, methodsPlaces, List.append_nil]

/-- **All statements of a program**, at any depth, with what is seen from each. -/
def Program.places (t : Program) : List Place := stmtsPlaces [] t.body

/-! ### What is declared -/

namespace Stmt

/-- The entities of a statement that are values: all that it declares but the name and
the constructor of a class. -/
def values : Stmt → List Entity
  | .var entity _ _ _ | .field entity _ _ _ | .forLoop entity _ _ _ _ | .forEach entity _ _ _ =>
    [entity]
  | .function f => f.entity :: f.params
  | .classDecl c => c.params ++ c.methods.flatMap fun m => m.entity :: m.params
  | .assign _ _ _ | .print _ _ | .expr _ | .ifElse _ _ _ | .whileLoop _ _ _ | .breakLoop _
  | .ret _ _ => []

/-- The class that a statement declares. -/
def classRef? : Stmt → Option ClassRef
  | .classDecl c => some c.cls
  | .var _ _ _ _ | .function _ | .field _ _ _ _ | .assign _ _ _ | .print _ _ | .expr _
  | .ifElse _ _ _ | .whileLoop _ _ _ | .forLoop _ _ _ _ _ | .forEach _ _ _ _ | .breakLoop _
  | .ret _ _ => none

theorem mem_entities_of_declared? {x : Stmt} {e : Entity} (h : x.declared? = some e) :
    e ∈ x.entities := by
  cases x with
  | var | field | function | classDecl => exact Option.some.inj h ▸ List.mem_cons_self
  | assign | print | expr | ifElse | whileLoop | forLoop | forEach | breakLoop | ret => cases h

theorem values_sublist (x : Stmt) : x.values.Sublist x.entities := by
  cases x with
  | classDecl c => exact ((List.Sublist.refl _).cons _).cons _
  | _ => exact List.Sublist.refl _

end Stmt

namespace Place

/-- The entities that are declared at some places. -/
def entities (ps : List Place) : List Entity := ps.flatMap fun p => p.stmt.entities

/-- The classes that are declared at some places. -/
def classDecls (ps : List Place) : List ClassRef := ps.flatMap fun p => p.stmt.classRef?.toList

theorem entities_append (ps qs : List Place) : entities (ps ++ qs) = entities ps ++ entities qs :=
  List.flatMap_append

theorem classDecls_append (ps qs : List Place) :
    classDecls (ps ++ qs) = classDecls ps ++ classDecls qs :=
  List.flatMap_append

end Place

namespace Program

/-- **The entities of all declarations** of a program. -/
def entities (t : Program) : List Entity := Place.entities t.places

/-- **The classes of all class declarations** of a program. -/
def classDecls (t : Program) : List ClassRef := Place.classDecls t.places

/-- The entities of all declarations of values. -/
def values (t : Program) : List Entity := t.places.flatMap fun p => p.stmt.values

theorem values_sublist (t : Program) : t.values.Sublist t.entities := by
  rw [values, entities, Place.entities]
  induction t.places with
  | nil => exact .slnil
  | cons p ps ih => exact p.stmt.values_sublist.append ih

end Program

/-! ### Regions -/

namespace Stmt

/-- The bodies of methods, each with what is seen in it. -/
def methodRegions (seen : List Entity) : List (Function Stmt) → List (List Entity × Block Stmt)
  | [] => []
  | m :: ms => (m.params.reverse ++ m.entity :: seen, m.body) :: methodRegions (m.entity :: seen) ms

/-- **The blocks directly below a statement**, each with what is seen in it. -/
def regions (seen : List Entity) : Stmt → List (List Entity × Block Stmt)
  | .function f => [(f.params.reverse ++ f.entity :: seen, f.body)]
  | .classDecl c => (c.params.reverse ++ seen, c.body) :: methodRegions seen c.methods
  | .ifElse branches alternate _ =>
    (branches.map fun b => (seen, b.body)) ++ alternate.toList.map fun b => (seen, b)
  | .whileLoop _ body _ => [(seen, body)]
  | .forLoop entity _ _ body _ | .forEach entity _ body _ => [(entity :: seen, body)]
  | .var _ _ _ _ | .field _ _ _ _ | .assign _ _ _ | .print _ _ | .expr _ | .breakLoop _
  | .ret _ _ => []

theorem methodsPlaces_eq (seen : List Entity) (ms : List (Function Stmt)) :
    methodsPlaces seen ms = (methodRegions seen ms).flatMap fun r => blockPlaces r.1 r.2 := by
  induction ms generalizing seen with
  | nil => rfl
  | cons m ms ih =>
    obtain ⟨entity, params, result, body, span⟩ := m
    rw [methodsPlaces, methodRegions, List.flatMap_cons, ih]

theorem branchPlaces_eq (seen : List Entity) (bs : List (Branch Expr Stmt)) :
    branchPlaces seen bs = bs.flatMap fun b => blockPlaces seen b.body := by
  induction bs with
  | nil => rfl
  | cons b bs ih =>
    obtain ⟨test, body⟩ := b
    rw [branchPlaces, List.flatMap_cons, ih]

/-- The places inside a statement are those of its regions. -/
theorem inner_eq (seen : List Entity) (x : Stmt) :
    x.inner seen = (x.regions seen).flatMap fun r => blockPlaces r.1 r.2 := by
  cases x with
  | function f =>
    rw [inner.eq_def, regions, List.flatMap_singleton]
  | classDecl c =>
    rw [inner.eq_def, regions, List.flatMap_cons, ← methodsPlaces_eq]
  | ifElse branches alternate span =>
    rw [inner, regions, List.flatMap_append, List.flatMap_map, branchPlaces_eq]
    cases alternate with
    | none => rfl
    | some body => rw [alternatePlaces, Option.toList_some, List.map_singleton,
        List.flatMap_singleton]
  | whileLoop test body span => rw [inner, regions, List.flatMap_singleton]
  | forLoop entity start stop body span => rw [inner, regions, List.flatMap_singleton]
  | forEach entity iterable body span => rw [inner, regions, List.flatMap_singleton]
  | var | field | assign | print | expr | breakLoop | ret => rw [inner]; rfl

/-- The places of a region lie inside the statement. -/
theorem blockPlaces_subset {seen : List Entity} {x : Stmt} {r : List Entity × Block Stmt}
    (hr : r ∈ x.regions seen) : blockPlaces r.1 r.2 ⊆ x.inner seen := by
  intro p hp
  rw [inner_eq]
  exact List.mem_flatMap.mpr ⟨r, hr, hp⟩

theorem bodies_methodRegions (seen : List Entity) (ms : List (Function Stmt)) :
    (methodRegions seen ms).map Prod.snd = ms.map Function.body := by
  induction ms generalizing seen with
  | nil => rfl
  | cons m ms ih => rw [methodRegions, List.map_cons, ih, List.map_cons]

/-- The regions of a statement are its blocks. -/
theorem regions_eq_blocks (seen : List Entity) (a : Ambient) (x : Stmt) :
    (x.regions seen).map Prod.snd = (x.blocks a).map Prod.snd := by
  cases x with
  | classDecl c =>
    simp only [regions, blocks, List.map_cons, List.map_map, bodies_methodRegions]
    rfl
  | ifElse branches alternate span =>
    simp only [regions, blocks, List.map_append, List.map_map]
    rfl
  | _ => rfl

/-- What a method sees beyond the class are methods and its parameters. -/
theorem mem_of_methodRegions {seen : List Entity} {ms : List (Function Stmt)}
    {r : List Entity × Block Stmt} (hr : r ∈ methodRegions seen ms) :
    ∀ e ∈ r.1, e ∈ seen ∨ e ∈ ms.flatMap fun m => m.entity :: m.params := by
  induction ms generalizing seen with
  | nil => cases hr
  | cons m ms ih =>
    intro e he
    rw [List.flatMap_cons]
    rcases List.mem_cons.mp hr with rfl | hr
    · simp only [List.mem_append, List.mem_reverse, List.mem_cons] at he ⊢
      tauto
    · have := ih hr e he
      simp only [List.mem_append, List.mem_cons] at this ⊢
      tauto

/-- **What is seen in a region beyond the statement** are values that the statement
declares. -/
theorem mem_of_regions {seen : List Entity} {x : Stmt} {r : List Entity × Block Stmt}
    (hr : r ∈ x.regions seen) : ∀ e ∈ r.1, e ∈ seen ∨ e ∈ x.values := by
  intro e he
  cases x with
  | function f =>
    obtain rfl := List.mem_singleton.mp hr
    simp only [List.mem_append, List.mem_reverse, List.mem_cons] at he
    simp only [values, List.mem_cons]
    tauto
  | classDecl c =>
    rcases List.mem_cons.mp hr with rfl | hr
    · simp only [List.mem_append, List.mem_reverse] at he
      simp only [values, List.mem_append]
      tauto
    · have := mem_of_methodRegions hr e he
      simp only [values, List.mem_append]
      tauto
  | ifElse branches alternate span =>
    rcases List.mem_append.mp hr with hr | hr
    · obtain ⟨b, -, rfl⟩ := List.mem_map.mp hr
      exact .inl he
    · obtain ⟨b, -, rfl⟩ := List.mem_map.mp hr
      exact .inl he
  | whileLoop test body span =>
    obtain rfl := List.mem_singleton.mp hr
    exact .inl he
  | forLoop entity | forEach entity =>
    obtain rfl := List.mem_singleton.mp hr
    rcases List.mem_cons.mp he with rfl | he
    · exact .inr List.mem_cons_self
    · exact .inl he
  | var | field | assign | print | expr | breakLoop | ret => cases hr

/-- Induction over checked statements, from the blocks of a statement to the
statement. -/
theorem ind_blocks {motive : Stmt → Prop}
    (h : ∀ x : Stmt, (∀ a, ∀ b ∈ x.blocks a, ∀ y ∈ b.2.body, motive y) → motive x) (x : Stmt) :
    motive x := by
  induction x with
  | function f ih => exact h _ fun a b hb => List.mem_singleton.mp hb ▸ ih
  | classDecl c ihb ihm =>
    refine h _ fun a b hb => ?_
    rcases List.mem_cons.mp hb with rfl | hb
    · exact ihb
    · obtain ⟨m, hm, rfl⟩ := List.mem_map.mp hb
      exact ihm m hm
  | ifElse branches alternate span ihb iha =>
    refine h _ fun a b hb => ?_
    rcases List.mem_append.mp hb with hb | hb
    · obtain ⟨c, hc, rfl⟩ := List.mem_map.mp hb
      exact ihb c hc
    · obtain ⟨c, hc, rfl⟩ := List.mem_map.mp hb
      exact iha c (Option.mem_toList.mp hc)
  | whileLoop _ _ _ ih | forLoop _ _ _ _ _ ih | forEach _ _ _ _ ih =>
    exact h _ fun a b hb => List.mem_singleton.mp hb ▸ ih
  | var | field | assign | print | expr | breakLoop | ret => exact h _ fun a b hb => nomatch hb

end Stmt

/-! ### What is seen is declared -/

/-- The entities that may be seen because of a statement: the values that it declares,
and the name of a class. -/
def Stmt.Names (x : Stmt) (e : Entity) : Prop := e ∈ x.values ∨ x.declared? = some e

/-- What is seen from the places inside a statement was seen from the statement, or is
declared by it or at one of these places. -/
def Stmt.SeesDeclared (x : Stmt) : Prop :=
  ∀ seen, ∀ p ∈ x.inner seen, ∀ e ∈ p.seen,
    e ∈ seen ∨ e ∈ x.values ∨ ∃ q ∈ x.inner seen, q.stmt.Names e

theorem stmtsPlaces_seen {xs : List Stmt} (hxs : ∀ x ∈ xs, x.SeesDeclared) {seen : List Entity}
    {p : Place} (hp : p ∈ stmtsPlaces seen xs) {e : Entity} (he : e ∈ p.seen) :
    e ∈ seen ∨ ∃ q ∈ stmtsPlaces seen xs, q.stmt.Names e := by
  induction xs generalizing seen with
  | nil => cases hp
  | cons x xs ih =>
    obtain ⟨hx, hxs⟩ := List.forall_mem_cons.mp hxs
    rw [stmtsPlaces] at hp ⊢
    have hhere : x.Names e → ∃ q ∈ (⟨seen, x⟩ : Place) ::
        (x.inner seen ++ stmtsPlaces (x.declared?.toList ++ seen) xs), q.stmt.Names e :=
      fun hname => ⟨_, List.mem_cons_self, hname⟩
    rcases List.mem_cons.mp hp with rfl | hp
    · exact .inl he
    rcases List.mem_append.mp hp with hp | hp
    · -- The place lies inside the first statement.
      rcases hx seen p hp e he with hseen | hvalue | ⟨q, hq, hname⟩
      · exact .inl hseen
      · exact .inr (hhere (.inl hvalue))
      · exact .inr ⟨q, List.mem_cons_of_mem _ (List.mem_append_left _ hq), hname⟩
    · -- The place comes after it, and may see what it declares.
      rcases ih hxs hp with hseen | ⟨q, hq, hname⟩
      · rcases List.mem_append.mp hseen with hdecl | hseen
        · exact .inr (hhere (.inr (Option.mem_toList.mp hdecl)))
        · exact .inl hseen
      · exact .inr ⟨q, List.mem_cons_of_mem _ (List.mem_append_right _ hq), hname⟩

theorem Stmt.seesDeclared (x : Stmt) : x.SeesDeclared := by
  induction x using Stmt.ind_blocks with | h x ih =>
  intro seen p hp e he
  rw [inner_eq] at hp
  obtain ⟨r, hr, hp⟩ := List.mem_flatMap.mp hp
  obtain ⟨b, hb, hbr⟩ : ∃ b ∈ x.blocks .top, b.2 = r.2 :=
    List.mem_map.mp (x.regions_eq_blocks seen .top ▸ List.mem_map_of_mem hr)
  have hbody : ∀ y ∈ r.2.body, y.SeesDeclared := hbr ▸ ih .top b hb
  have hplaces : blockPlaces r.1 r.2 = stmtsPlaces r.1 r.2.body := by rw [blockPlaces.eq_def]
  rw [hplaces] at hp
  rcases stmtsPlaces_seen hbody hp he with hseen | ⟨q, hq, hname⟩
  · exact (mem_of_regions hr e hseen).imp_right .inl
  · exact .inr (.inr ⟨q, blockPlaces_subset hr (hplaces ▸ hq), hname⟩)

/-- **What is seen from a place of a program is declared in the program.** -/
theorem Program.seen_declared (t : Program) {p : Place} (hp : p ∈ t.places) {e : Entity}
    (he : e ∈ p.seen) : ∃ q ∈ t.places, q.stmt.Names e := by
  rcases stmtsPlaces_seen (fun x _ => x.seesDeclared) hp he with hnone | hq
  · cases hnone
  · exact hq

/-! ### Every statement stands at a place -/

theorem exists_place_of_mem {xs : List Stmt} {x : Stmt} (hx : x ∈ xs) (seen : List Entity) :
    ∃ inside, ⟨inside, x⟩ ∈ stmtsPlaces seen xs ∧ x.inner inside ⊆ stmtsPlaces seen xs := by
  induction xs generalizing seen with
  | nil => cases hx
  | cons y ys ih =>
    rw [stmtsPlaces]
    rcases List.mem_cons.mp hx with rfl | hx
    · refine ⟨seen, List.mem_cons_self, ?_⟩
      exact fun p hp => List.mem_cons_of_mem _ (List.mem_append_left _ hp)
    · obtain ⟨inside, hmem, hsub⟩ := ih hx (y.declared?.toList ++ seen)
      refine ⟨inside, List.mem_cons_of_mem _ (List.mem_append_right _ hmem), ?_⟩
      exact fun p hp => List.mem_cons_of_mem _ (List.mem_append_right _ (hsub hp))

/-- What stands at one of some places, together with all places inside, has each of its
statements at one of them. -/
theorem Stmt.throughout_places {ps : List Place} (x : Stmt) (a : Ambient) {seen : List Entity}
    (hx : ⟨seen, x⟩ ∈ ps) (hinner : x.inner seen ⊆ ps) :
    x.Throughout (fun _ y => ∃ p ∈ ps, p.stmt = y) a := by
  induction x using Stmt.ind_blocks generalizing a seen with | h x ih =>
  refine .intro ⟨_, hx, rfl⟩ fun b hb y hy => ?_
  obtain ⟨r, hr, hbr⟩ : ∃ r ∈ x.regions seen, r.2 = b.2 :=
    List.mem_map.mp (x.regions_eq_blocks seen a ▸ List.mem_map_of_mem hb)
  obtain ⟨inside, hmem, hsub⟩ := exists_place_of_mem (hbr ▸ hy : y ∈ r.2.body) r.1
  have hplaces : stmtsPlaces r.1 r.2.body ⊆ ps := by
    have hsubset := blockPlaces_subset hr
    rw [blockPlaces.eq_def] at hsubset
    exact fun p hp => hinner (hsubset hp)
  exact ih a b hb y hy b.1 (hplaces hmem) fun p hp => hplaces (hsub hp)

/-- **Every statement that a program has stands at a place.** -/
theorem Program.exists_place (t : Program) {a : Ambient} {x : Stmt} (hx : t.HasStmt a x) :
    ∃ p ∈ t.places, p.stmt = x := by
  refine Program.of_hasStmt (P := fun _ y => ∃ p ∈ t.places, p.stmt = y) (fun y hy => ?_) hx
  obtain ⟨inside, hmem, hsub⟩ := exists_place_of_mem hy []
  exact y.throughout_places .top hmem hsub

end Shipshape.Checked
