import Shipshape.Proofs.Checked.Declaration
import Shipshape.Proofs.Settled

/-!
# The classes that a checked tree mentions

* `Shipshape.Ty.classes`, `Shipshape.Entity.classes`, `Shipshape.ClassInfo.classes` – the
  classes in a type, in what an entity stands for, and in the members of a class;
* `Shipshape.Checked.Expr.classes`, `Shipshape.Checked.Stmt.classes` – those that one
  node of a tree mentions, the nodes below it left out;
* `Shipshape.Checked.Program.Mentions` – a program mentions a class, at any node or in
  what is known about its classes;
* `Shipshape.ClassTable.refs` – the references to all classes of a table;
* `Shipshape.ClassTable.Closed` – what is known about the classes of a table mentions no
  others.

A reference is one to a class of the table only if the number and the name are right.
-/

namespace Shipshape

theorem flatMap_subset_iff {α β : Type} {l : List α} {f : α → List β} {r : List β} :
    l.flatMap f ⊆ r ↔ ∀ a ∈ l, f a ⊆ r := by
  refine ⟨fun h a ha b hb => h (List.mem_flatMap.mpr ⟨a, ha, hb⟩), fun h b hb => ?_⟩
  obtain ⟨a, ha, hb⟩ := List.mem_flatMap.mp hb
  exact h a ha hb

/-! ### Types -/

namespace Ty

mutual

/-- **The classes in a type**, at any depth. -/
def classes : Ty → List ClassRef
  | .scalar _ => []
  | .array element => element.classes
  | .map key value => key.classes ++ value.classes
  | .function params result => listClasses params ++ result.classes
  | .object cls => [cls]

/-- The classes in some types. -/
def listClasses : List Ty → List ClassRef
  | [] => []
  | t :: ts => t.classes ++ listClasses ts

end

variable {refs : List ClassRef}

theorem listClasses_subset_iff {ts : List Ty} :
    listClasses ts ⊆ refs ↔ ∀ t ∈ ts, t.classes ⊆ refs := by
  induction ts with
  | nil => simp [listClasses]
  | cons t ts ih => rw [listClasses, List.append_subset, ih, List.forall_mem_cons]

theorem classes_function_subset_iff {params : List Ty} {result : Ty} :
    (function params result).classes ⊆ refs ↔
      (∀ p ∈ params, p.classes ⊆ refs) ∧ result.classes ⊆ refs := by
  rw [classes, List.append_subset, listClasses_subset_iff]

/-- **The type that two types share mentions no other classes.** -/
theorem classes_subset_of_common {a b c : Ty} (h : a.common b = some c) (ha : a.classes ⊆ refs)
    (hb : b.classes ⊆ refs) : c.classes ⊆ refs := by
  fun_induction common a b generalizing c with
  | case1 b => exact Option.some.inj h ▸ hb
  | case2 a => exact Option.some.inj h ▸ ha
  | case3 a b => exact Option.some.inj h ▸ ha
  | case5 a b ih =>
    obtain ⟨d, hd, rfl⟩ := Option.map_eq_some_iff.mp h
    rw [classes] at ha hb ⊢
    exact ih hd ha hb
  | case6 k v l w key value hv hk ihk ihv =>
    obtain rfl := Option.some.inj h
    rw [classes, List.append_subset] at ha hb ⊢
    exact ⟨ihk hk ha.1 hb.1, ihv hv ha.2 hb.2⟩
  | case8 ps r qs t => exact Option.some.inj h ▸ ha
  | case10 => exact Option.some.inj h ▸ ha
  | case4 | case7 | case9 | case11 | case12 => cases h

end Ty

/-! ### Entities -/

namespace Entity

/-- The classes in what an entity stands for. -/
def classes (e : Entity) : List ClassRef :=
  match e.binding with
  | .var _ ty | .param _ ty | .field _ ty | .typeName ty => ty.classes
  | .function _ signature => signature.toTy.classes
  | .classType cls => [cls]

theorem classes_of_valueType? {e : Entity} {ty : Ty} (h : e.valueType? = some ty) :
    ty.classes = e.classes := by
  obtain ⟨id, binding⟩ := e
  cases binding <;> cases h <;> rfl

theorem classes_of_denotedType? {e : Entity} {ty : Ty} (h : e.denotedType? = some ty) :
    ty.classes = e.classes := by
  obtain ⟨id, binding⟩ := e
  cases binding with
  | classType c => cases h; rfl
  | typeName t => cases h; rfl
  | var | param | field | function => cases h

theorem classes_of_class? {e : Entity} {cls : ClassRef} (h : e.class? = some cls) :
    e.classes = [cls] := by
  obtain ⟨id, binding⟩ := e
  cases binding with
  | classType c => cases h; rfl
  | var | param | field | function | typeName => cases h

/-- The built-in types mention no class. -/
theorem classes_of_builtIn {b : String × Entity} (hb : b ∈ builtInEntities) : b.2.classes = [] := by
  obtain ⟨⟨kind, i⟩, -, rfl⟩ := List.mem_map.mp hb
  rfl

end Entity

/-! ### What is known about classes -/

/-- The classes in the members of a class. -/
def ClassInfo.classes (c : ClassInfo) : List ClassRef :=
  c.ctor.toTy.classes ++ (c.fields.flatMap fun f => f.2.classes) ++
    c.methodTypes.flatMap fun m => m.2.classes

namespace ClassInfo

variable {c : ClassInfo} {refs : List ClassRef}

theorem classes_subset_iff : c.classes ⊆ refs ↔ c.ctor.toTy.classes ⊆ refs ∧
    (∀ f ∈ c.fields, f.2.classes ⊆ refs) ∧ ∀ m ∈ c.methodTypes, m.2.classes ⊆ refs := by
  rw [classes, List.append_subset, List.append_subset, flatMap_subset_iff,
    flatMap_subset_iff, and_assoc]

theorem classes_new (name : String) : (ClassInfo.new name).classes = [] := rfl

end ClassInfo

namespace ClassTable

variable {t : ClassTable} {cls : ClassRef}

/-- **The references to all classes of a table**, in order. -/
def refs (t : ClassTable) : List ClassRef := t.infos.mapIdx fun i c => ⟨i, c.name⟩

/-- No two classes of a table have the same number. -/
theorem nodup_refs (t : ClassTable) : (t.refs.map ClassRef.id).Nodup := by
  have hids : t.refs.map ClassRef.id = List.range t.infos.length := by
    apply List.ext_getElem <;> simp [refs]
  rw [hids]
  exact List.nodup_range

/-- A new class is one more reference. -/
theorem refs_add (t : ClassTable) (name : String) :
    (t.add name).1.refs = t.refs ++ [(t.add name).2] := by
  simp [add, refs, List.mapIdx_append, ClassInfo.new]

/-- More information about a class leaves the references alone, as long as it keeps the
name. -/
theorem refs_set {c : ClassInfo} (h : c.name = (t.info cls).name) :
    (t.set cls c).refs = t.refs := by
  apply List.ext_getElem
  · simp [refs, set]
  intro i hi hi'
  have hlt : i < t.infos.length := by simpa [refs] using hi'
  by_cases heq : cls.id = i
  · subst heq
    have hinfo : t.info cls = t.infos[cls.id] := info_of_getElem? (List.getElem?_eq_getElem hlt)
    simp [refs, set, h, hinfo]
  · simp [refs, set, List.getElem_set_ne heq]

/-- **What is known about the classes of a table mentions no others.** -/
def Closed (t : ClassTable) : Prop := ∀ c ∈ t.infos, c.classes ⊆ t.refs

theorem closed_empty : empty.Closed := fun _ hc => nomatch hc

theorem Closed.info (h : t.Closed) (cls : ClassRef) : (t.info cls).classes ⊆ t.refs := by
  rw [ClassTable.info]
  cases hc : t.infos[cls.id]? with
  | none => exact List.nil_subset _
  | some c => exact h c (List.mem_of_getElem? hc)

/-- A class of which nothing is known yet may be added. -/
theorem Closed.add (h : t.Closed) (name : String) : (t.add name).1.Closed := by
  intro c hc
  rw [refs_add]
  rcases List.mem_append.mp hc with hc | hc
  · exact List.subset_append_of_subset_left _ (h c hc)
  · rw [List.mem_singleton.mp hc, ClassInfo.classes_new]
    exact List.nil_subset _

/-- What is known about a class may be replaced by something that mentions no other
classes. -/
theorem Closed.set (h : t.Closed) {c : ClassInfo} (hname : c.name = (t.info cls).name)
    (hc : c.classes ⊆ t.refs) : (t.set cls c).Closed := by
  intro d hd
  rw [refs_set hname]
  rcases List.mem_or_eq_of_mem_set hd with hd | rfl
  · exact h d hd
  · exact hc

end ClassTable

/-! ### Trees -/

namespace Checked

/-- The classes that an expression mentions, those of its parts left out. -/
def Expr.classes : Expr → List ClassRef
  | .symbol _ entity ty _ => entity.classes ++ ty.classes
  | .self cls ty _ | .construct cls _ ty _ => cls :: ty.classes
  | .call _ signature _ ty _ | .methodCall _ _ signature _ ty _ =>
    signature.toTy.classes ++ ty.classes
  | .literal _ ty _ | .binary _ _ _ ty _ | .unary _ _ ty _ | .conditional _ _ _ ty _
  | .subscript _ _ ty _ | .array _ ty _ | .map _ ty _ | .member _ _ ty _ => ty.classes

/-- The type of an expression is among what it mentions. -/
theorem Expr.ty_classes_subset (e : Expr) : e.ty.classes ⊆ e.classes := by
  cases e with
  | symbol | call | methodCall => exact List.subset_append_right _ _
  | self | construct => exact List.subset_cons_self _ _
  | _ => exact List.Subset.refl _

/-- The types that a statement carries, apart from those of its entities and of its
expressions. -/
def Stmt.types : Stmt → List Ty
  | .var _ ty _ _ | .field _ ty _ _ => [ty]
  | .function f => [f.result]
  | .classDecl c => .object c.cls :: c.methods.map Function.result
  | .assign _ _ _ | .print _ _ | .expr _ | .ifElse _ _ _ | .whileLoop _ _ _ | .forLoop _ _ _ _ _
  | .forEach _ _ _ _ | .breakLoop _ | .ret _ _ => []

/-- The classes that a statement mentions, those of its expressions and blocks left
out. -/
def Stmt.classes (x : Stmt) : List ClassRef :=
  x.entities.flatMap Entity.classes ++ x.types.flatMap Ty.classes

theorem Stmt.classes_subset_iff {x : Stmt} {refs : List ClassRef} : x.classes ⊆ refs ↔
    (∀ e ∈ x.entities, e.classes ⊆ refs) ∧ ∀ ty ∈ x.types, ty.classes ⊆ refs := by
  rw [Stmt.classes, List.append_subset, flatMap_subset_iff, flatMap_subset_iff]

/-- **A program mentions a class**: at a statement, at an expression, or in what is known
about its classes. -/
inductive Program.Mentions (t : Program) (cls : ClassRef) : Prop
  /-- A statement mentions the class. -/
  | stmt {a : Ambient} {x : Stmt} : t.HasStmt a x → cls ∈ x.classes → Mentions t cls
  /-- An expression mentions the class. -/
  | expr {a : Ambient} {e : Expr} : t.HasExpr a e → cls ∈ e.classes → Mentions t cls
  /-- A member of a class mentions the class. -/
  | member {c : ClassInfo} : c ∈ t.classes.infos → cls ∈ c.classes → Mentions t cls

end Checked

end Shipshape
