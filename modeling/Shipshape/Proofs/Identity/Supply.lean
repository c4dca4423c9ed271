import Mathlib.Data.List.Perm.Basic
import Shipshape.Proofs.Identity.Place
import Shipshape.Proofs.Identity.Resolve

/-!
# The supply of identities

Between two points of a check, the numbers that were given out are those of the
declarations in what was checked.

* `Shipshape.Lexical.Store.Makes` – between two stores exactly some entities and some
  classes were made, each once;
* `Shipshape.Checked.Place.Holds` – what is known about one place of a result;
* `Shipshape.Lexical.Builds` – between two stores some places were built: what they
  declare is what was made, and all of them hold;
* `Shipshape.Lexical.Lex.bind_eq_ok_iff` and the lemmas after it – how a computation
  that threads a store is taken apart.

Numbers are compared as lists up to order, since a class is given its own number before
its members are checked and the entity of its name after them.
-/

namespace Shipshape

namespace Lexical

/-! ### What is made between two stores -/

/-- **Exactly the entities `es` and the classes `cs` were made** between two stores: their
numbers, with those that were given out before, are those given out after. What is known
about classes mentions no others. -/
structure Store.Makes (σ : Store) (es : List Entity) (cs : List ClassRef) (τ : Store) : Prop where
  /-- The numbers of the entities. -/
  entities : (List.range τ.nextEntity).Perm (List.range σ.nextEntity ++ es.map Entity.id)
  /-- The classes. -/
  classes : τ.classes.refs.Perm (σ.classes.refs ++ cs)
  /-- The classes that are mentioned. -/
  closed : τ.classes.Closed

/-- The store after an entity was made. -/
def Store.fresh (σ : Store) : Store := { σ with nextEntity := σ.nextEntity + 1 }

namespace Store

variable {σ ρ τ : Store} {es fs : List Entity} {cs ds : List ClassRef}

theorem Makes.refl (hσ : σ.classes.Closed) : σ.Makes [] [] σ :=
  ⟨by simp, by simp, hσ⟩

/-- What is made first and what is made then. -/
theorem Makes.trans (h : σ.Makes es cs ρ) (h' : ρ.Makes fs ds τ) :
    σ.Makes (es ++ fs) (cs ++ ds) τ := by
  refine ⟨?_, ?_, h'.closed⟩
  · rw [List.map_append, ← List.append_assoc]
    exact h'.entities.trans (h.entities.append_right _)
  · rw [← List.append_assoc]
    exact h'.classes.trans (h.classes.append_right _)

theorem Makes.perm (h : σ.Makes es cs τ) (hperm : es.Perm fs) : σ.Makes fs cs τ :=
  ⟨h.entities.trans ((hperm.map Entity.id).append_left _), h.classes, h.closed⟩

/-- Classes are never forgotten. -/
theorem Makes.subset (h : σ.Makes es cs τ) : σ.classes.refs ⊆ τ.classes.refs :=
  fun _ hc => h.classes.mem_iff.mpr (List.mem_append_left _ hc)

theorem makes_fresh (hσ : σ.classes.Closed) (binding : Binding) :
    σ.Makes [⟨σ.nextEntity, binding⟩] [] σ.fresh :=
  ⟨by simp [fresh, List.range_succ], by simp [fresh], hσ⟩

/-- One more entity is made at the end. -/
theorem Makes.entity (h : σ.Makes es cs τ) (binding : Binding) :
    σ.Makes (es ++ [⟨τ.nextEntity, binding⟩]) cs τ.fresh := by
  have hlast := h.trans (makes_fresh h.closed binding)
  rwa [List.append_nil] at hlast

theorem makes_add (hσ : σ.classes.Closed) (name : String) :
    σ.Makes [] [(σ.classes.add name).2] { σ with classes := (σ.classes.add name).1 } :=
  ⟨by simp, by simp [ClassTable.refs_add], hσ.add name⟩

/-- More information about a class makes nothing. -/
theorem makes_set (hσ : σ.classes.Closed) {cls : ClassRef} {c : ClassInfo}
    (hname : c.name = (σ.classes.info cls).name) (hc : c.classes ⊆ σ.classes.refs) :
    σ.Makes [] [] { σ with classes := σ.classes.set cls c } :=
  ⟨by simp, by simp [ClassTable.refs_set hname], hσ.set hname hc⟩

/-- New members make nothing. -/
theorem makes_gain (hσ : σ.classes.Closed) (cls : ClassRef) {fields : List (String × Ty)}
    {methods : List (String × Signature)} (hfields : ∀ f ∈ fields, f.2.classes ⊆ σ.classes.refs)
    (hmethods : ∀ m ∈ methods, m.2.toTy.classes ⊆ σ.classes.refs) :
    σ.Makes [] []
      { σ with classes := σ.classes.set cls ((σ.classes.info cls).gain fields methods) } := by
  obtain ⟨hctor, holdFields, holdMethods⟩ := ClassInfo.classes_subset_iff.mp (hσ.info cls)
  refine makes_set hσ rfl (ClassInfo.classes_subset_iff.mpr ⟨hctor, ?_, ?_⟩)
  · exact List.forall_mem_append.mpr ⟨holdFields, hfields⟩
  · exact List.forall_mem_append.mpr ⟨holdMethods, List.forall_mem_map.mpr hmethods⟩

theorem makes_setCtor (hσ : σ.classes.Closed) (cls : ClassRef) {signature : Signature}
    (hsig : signature.toTy.classes ⊆ σ.classes.refs) :
    σ.Makes [] [] { σ with classes := σ.classes.setCtor cls signature } := by
  obtain ⟨-, hfields, hmethods⟩ := ClassInfo.classes_subset_iff.mp (hσ.info cls)
  exact makes_set hσ rfl (ClassInfo.classes_subset_iff.mpr ⟨hsig, hfields, hmethods⟩)

end Store

/-! ### Taking a computation apart -/

namespace Lex

variable {α β : Type} {σ τ : Store} {f : α → Lex β} {b : β}

theorem bind_eq_ok_iff {m : Lex α} :
    (m >>= f) σ = .ok b τ ↔ ∃ a ρ, m σ = .ok a ρ ∧ f a ρ = .ok b τ := by
  simp only [Bind.bind, EStateM.bind]
  cases m σ with
  | ok a ρ => simp
  | error d ρ => simp

theorem ofRule_bind_eq_ok_iff {x : Except Diagnostic α} :
    (ofRule x >>= f) σ = .ok b τ ↔ ∃ a, x = .ok a ∧ f a σ = .ok b τ := by
  rw [bind_eq_ok_iff]
  cases x with
  | ok a => simp [ofRule]
  | error d => simp [ofRule]

theorem reading_bind_eq_ok_iff {g : ClassTable → Except Diagnostic α} :
    (reading g >>= f) σ = .ok b τ ↔ ∃ a, g σ.classes = .ok a ∧ f a σ = .ok b τ := by
  rw [← ofRule_bind_eq_ok_iff]
  rfl

theorem newEntity_bind {f : Entity → Lex β} (binding : Binding) :
    (newEntity binding >>= f) σ = f ⟨σ.nextEntity, binding⟩ σ.fresh := rfl

theorem newClass_bind {f : ClassRef → Lex β} (name : String) :
    (newClass name >>= f) σ =
      f (σ.classes.add name).2 { σ with classes := (σ.classes.add name).1 } := rfl

theorem setCtor_bind {f : Unit → Lex β} (cls : ClassRef) (signature : Signature) :
    (setCtor cls signature >>= f) σ =
      f () { σ with classes := σ.classes.setCtor cls signature } := rfl

/-- A field that was added made nothing. -/
theorem addField_makes {cls : ClassRef} {name : String} {ty : Ty} {span : Span} {u : Unit}
    (h : addField cls name ty span σ = .ok u τ) (hσ : σ.classes.Closed)
    (hty : ty.classes ⊆ σ.classes.refs) : σ.Makes [] [] τ := by
  rw [addField] at h
  split at h
  · next classes hadd =>
    cases h
    obtain ⟨-, rfl⟩ := ClassTable.addField?_eq_some hadd
    exact Store.makes_gain hσ cls (List.forall_mem_singleton.mpr hty) fun _ hm => nomatch hm
  · cases h

/-- A method that was added made nothing. -/
theorem addMethod_makes {owner : Option ClassRef} {name : String} {signature : Signature}
    {span : Span} {u : Unit} (h : addMethod owner name signature span σ = .ok u τ)
    (hσ : σ.classes.Closed) (hsig : signature.toTy.classes ⊆ σ.classes.refs) :
    σ.Makes [] [] τ := by
  rw [addMethod.eq_def] at h
  split at h
  · cases h
    exact .refl hσ
  · next cls =>
    split at h
    · next classes hadd =>
      cases h
      obtain ⟨-, rfl⟩ := ClassTable.addMethod?_eq_some hadd
      exact Store.makes_gain hσ cls (fun _ hf => nomatch hf) (List.forall_mem_singleton.mpr hsig)
    · cases h

end Lex

theorem Frame.declare_eq_ok {frame : Frame} {name : String} {entity : Entity} {span : Span}
    {binding : String × Entity} (h : frame.declare name entity span = .ok binding) :
    binding = (name, entity) := by
  rw [Frame.declare] at h
  split at h
  · cases h
  · exact (Except.ok.inj h).symm

theorem Frame.extend_empty (a : Ambient) (names : List (String × Entity)) :
    (Frame.empty a).extend names = ⟨names, a⟩ := by
  simp [Frame.extend, Frame.empty]

/-- Parameters are entities of their own, and the frame that has them lists them from the
last to the first. -/
theorem params_make {frame frame' : Frame} {parameters : List Param} {tys : List Ty}
    {es : List Entity} {σ τ : Store} (hσ : σ.classes.Closed)
    (htys : ∀ ty ∈ tys, ty.classes ⊆ σ.classes.refs)
    (h : params frame parameters tys σ = .ok (frame', es) τ) :
    σ.Makes es [] τ ∧ (∀ e ∈ es, e.classes ⊆ σ.classes.refs) ∧
      frame' = frame.extend (es.reverse.map Entity.named) := by
  fun_induction params frame parameters tys generalizing σ frame' es with
  | case1 frame param rest ty tys ih =>
    obtain ⟨hty, htys⟩ := List.forall_mem_cons.mp htys
    rw [Lex.newEntity_bind] at h
    obtain ⟨binding, hbinding, h⟩ := Lex.ofRule_bind_eq_ok_iff.mp h
    obtain rfl := Frame.declare_eq_ok hbinding
    obtain ⟨⟨frame₂, es₂⟩, ρ, hrest, h⟩ := Lex.bind_eq_ok_iff.mp h
    cases h
    have hfirst := Store.makes_fresh hσ (.param param.name ty)
    obtain ⟨hmakes, hes, rfl⟩ := ih _ hfirst.closed htys hrest
    refine ⟨hfirst.trans hmakes, List.forall_mem_cons.mpr ⟨hty, hes⟩, ?_⟩
    simp [Frame.extend, Entity.named, Entity.name]
  | case2 frame parameters tys =>
    cases h
    exact ⟨.refl hσ, fun _ he => (by cases he), rfl⟩

end Lexical

/-! ### Places that were built -/

/-- **What is known about one place of a result**: the names in its expressions stand for
the nearest entities that have them, all classes that are mentioned are there, and what it
declares is a value unless it is a type. -/
structure Checked.Place.Holds (refs : List ClassRef) (p : Checked.Place) : Prop where
  /-- The expressions. -/
  exprs : ∀ e ∈ p.stmt.exprs, e.Throughout (Checked.Expr.Refers p.seen refs)
  /-- The classes that are mentioned. -/
  classes : p.stmt.classes ⊆ refs
  /-- What is declared in the block around. -/
  declared : ∀ e ∈ p.stmt.declared?, e ∈ p.stmt.values ∨ e.valueType? = none

theorem Checked.Place.Holds.mono {refs more : List ClassRef} {p : Checked.Place}
    (h : p.Holds refs) (hsub : refs ⊆ more) : p.Holds more :=
  ⟨fun e he => (h.exprs e he).mono fun _ hd => hd.mono hsub,
    List.Subset.trans h.classes hsub, h.declared⟩

namespace Lexical

open Checked (Place)

/-- **Some places were built between two stores.** -/
structure Builds (σ : Store) (ps : List Place) (τ : Store) : Prop where
  /-- What the places declare was made. -/
  makes : σ.Makes (Place.entities ps) (Place.classDecls ps) τ
  /-- What is known about the places. -/
  holds : ∀ p ∈ ps, p.Holds τ.classes.refs

namespace Builds

variable {σ ρ τ : Store} {ps qs : List Place} {seen : List Entity} {x : Checked.Stmt}

theorem nil (hσ : σ.classes.Closed) : Builds σ [] σ :=
  ⟨.refl hσ, fun _ hp => nomatch hp⟩

/-- The places that were built first and those that were built then. -/
theorem append (h : Builds σ ps ρ) (h' : Builds ρ qs τ) : Builds σ (ps ++ qs) τ := by
  refine ⟨?_, List.forall_mem_append.mpr ⟨fun p hp => ?_, h'.holds⟩⟩
  · rw [Place.entities_append, Place.classDecls_append]
    exact h.makes.trans h'.makes
  · exact (h.holds p hp).mono h'.makes.subset

/-- A statement whose entities were made first, and then what lies inside it. -/
theorem stmt (hx : σ.Makes x.entities x.classRef?.toList ρ) (h : Builds ρ (x.inner seen) τ)
    (hholds : Place.Holds τ.classes.refs ⟨seen, x⟩) : Builds σ (⟨seen, x⟩ :: x.inner seen) τ :=
  ⟨hx.trans h.makes, List.forall_mem_cons.mpr ⟨hholds, h.holds⟩⟩

/-- A statement with nothing inside it. -/
theorem leaf (hx : σ.Makes x.entities [] τ) (hclass : x.classRef? = none)
    (hinner : x.inner seen = []) (hholds : Place.Holds τ.classes.refs ⟨seen, x⟩) :
    Builds σ (⟨seen, x⟩ :: x.inner seen) τ := by
  refine stmt (ρ := τ) (by rw [hclass]; exact hx) ?_ hholds
  rw [hinner]
  exact .nil hx.closed

end Builds

end Lexical

end Shipshape
