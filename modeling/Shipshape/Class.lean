import Shipshape.Text.Quoted
import Shipshape.Ty.Basic

/-!
# Classes and their members

What is known about a class, which grows while its declaration is being checked.

* `Shipshape.ClassInfo` – the constructor, the fields and the methods of a class;
* `Shipshape.ClassTable` – all classes, by their number.

Members stand in the order in which they were added. A name is given once to a field and once
to a method, and adding it again is refused. A field and a method may share a name.

Members of either kind are kept with a type, and it is only when a method is looked up that its
type has to be one of functions. So a method is refused when one of its name is found
(`Shipshape.ClassInfo.addMethod?_eq_none_iff`), and a field when one of its name is there
(`Shipshape.ClassInfo.addField?_eq_none_iff`).
-/

namespace Shipshape

/-- What is known about a class. -/
structure ClassInfo where
  /-- The name of the class. -/
  name : String
  /-- The signature of the constructor. -/
  ctor : Signature
  /-- The fields with their types, in order of declaration. -/
  fields : List (String × Ty)
  /-- The methods with their types, in order of declaration. -/
  methodTypes : List (String × Ty)
deriving Inhabited, Repr

namespace ClassInfo

/-- A class of which nothing is declared: no members, and a constructor without
parameters. -/
def new (name : String) : ClassInfo := ⟨name, ⟨[], .none⟩, [], []⟩

/-- The type of the field with a given name. -/
def field? (c : ClassInfo) (name : String) : Option Ty := c.fields.lookup name

/-- The signature of the method with a given name. The first member of that name has to be a
function; otherwise no method is found. -/
def method? (c : ClassInfo) (name : String) : Option Signature :=
  (c.methodTypes.lookup name).bind Ty.signature?

/-- The functions among the methods, with their signatures. -/
def methods (c : ClassInfo) : List (String × Signature) :=
  c.methodTypes.filterMap fun m => m.2.signature?.map (m.1, ·)

/-- The class with one more field, unless it has a field of that name. -/
def addField? (c : ClassInfo) (name : String) (ty : Ty) : Option ClassInfo :=
  match c.field? name with
  | some _ => none
  | none => some { c with fields := c.fields ++ [(name, ty)] }

/-- The class with one more method, unless a method of that name is found. -/
def addMethod? (c : ClassInfo) (name : String) (signature : Signature) : Option ClassInfo :=
  match c.method? name with
  | some _ => none
  | none => some { c with methodTypes := c.methodTypes ++ [(name, signature.toTy)] }

/-- A list of names as text: each quoted, between brackets. -/
def namesText (names : List String) : String :=
  "[" ++ ", ".intercalate (names.map Text.quote) ++ "]"

/-- The class in one line: its name and the names of its members. -/
def summary (c : ClassInfo) : String :=
  "ClassType \x7b name: " ++ Text.quote c.name ++
    ", fields: " ++ namesText (c.fields.map Prod.fst) ++
    ", methods: " ++ namesText (c.methodTypes.map Prod.fst) ++ " \x7d"

/-- Looking up a name fails exactly when no entry has it. -/
theorem lookup_eq_none_iff_notMem {α : Type} {table : List (String × α)} {name : String} :
    table.lookup name = none ↔ name ∉ table.map Prod.fst := by
  simp only [List.lookup_eq_none_iff, List.mem_map, not_exists, not_and, bne_iff_ne]
  exact ⟨fun h p hp he => h p hp he.symm, fun h p hp he => h p hp he.symm⟩

/-- What is looked up is in the table. -/
theorem mem_of_lookup_eq_some {α : Type} {table : List (String × α)} {name : String} {a : α}
    (h : table.lookup name = some a) : (name, a) ∈ table := by
  obtain ⟨before, after, rfl, _⟩ := List.lookup_eq_some_iff.mp h
  exact List.mem_append_right _ List.mem_cons_self

/-- **A method that is found** is in the table, and is a function. -/
theorem mem_of_method? {c : ClassInfo} {name : String} {signature : Signature}
    (h : c.method? name = some signature) : (name, signature.toTy) ∈ c.methodTypes := by
  obtain ⟨ty, hlookup, hty⟩ := Option.bind_eq_some_iff.mp h
  obtain rfl := Ty.eq_toTy_of_signature? hty
  exact mem_of_lookup_eq_some hlookup

/-- A method is not found if its name is not in the table. -/
theorem method?_eq_none_of_notMem {c : ClassInfo} {name : String}
    (h : name ∉ c.methodTypes.map Prod.fst) : c.method? name = none := by
  rw [method?, lookup_eq_none_iff_notMem.mpr h]
  rfl

/-- **A field is refused exactly when its name is taken by a field.** -/
theorem addField?_eq_none_iff {c : ClassInfo} {name : String} {ty : Ty} :
    c.addField? name ty = none ↔ name ∈ c.fields.map Prod.fst := by
  rw [← Decidable.not_iff_not, ← lookup_eq_none_iff_notMem, addField?, field?]
  cases c.fields.lookup name <;> simp

/-- **A method is refused exactly when one of its name is found.** -/
theorem addMethod?_eq_none_iff {c : ClassInfo} {name : String} {signature : Signature} :
    c.addMethod? name signature = none ↔ (c.method? name).isSome = true := by
  rw [addMethod?]
  cases c.method? name <;> simp

end ClassInfo

/-- All classes that were declared, by their number. -/
structure ClassTable where
  /-- The classes, in order of declaration. -/
  infos : List ClassInfo
deriving Inhabited, Repr

namespace ClassTable

/-- No classes. -/
def empty : ClassTable := ⟨[]⟩

/-- What is known about a class. Of a class that was never added nothing is known
but its name. -/
def info (t : ClassTable) (cls : ClassRef) : ClassInfo :=
  (t.infos[cls.id]?).getD (.new cls.name)

/-- The table with one more class, and the reference to it. -/
def add (t : ClassTable) (name : String) : ClassTable × ClassRef :=
  (⟨t.infos ++ [.new name]⟩, ⟨t.infos.length, name⟩)

/-- The table with new information about a class. -/
def set (t : ClassTable) (cls : ClassRef) (info : ClassInfo) : ClassTable :=
  ⟨t.infos.set cls.id info⟩

/-- The table with the constructor of a class replaced. -/
def setCtor (t : ClassTable) (cls : ClassRef) (signature : Signature) : ClassTable :=
  t.set cls { t.info cls with ctor := signature }

/-- The table with one more field of a class, unless the class has a field of that
name. -/
def addField? (t : ClassTable) (cls : ClassRef) (name : String) (ty : Ty) : Option ClassTable :=
  ((t.info cls).addField? name ty).map (t.set cls)

/-- The table with one more method of a class, unless the class has a method of
that name. -/
def addMethod? (t : ClassTable) (cls : ClassRef) (name : String) (signature : Signature) :
    Option ClassTable :=
  ((t.info cls).addMethod? name signature).map (t.set cls)

end ClassTable

end Shipshape
