import Mathlib.Data.List.Nodup
import Shipshape.Class

/-!
# How classes grow

Members are only ever added to a class, at the end, and its constructor is set
once, when the class is made.

* `Shipshape.ClassInfo.gain` – a class with some more members;
* `Shipshape.ClassInfo.Callable` – every method is a function, so that a method is found exactly
  if its name is in the table;
* `Shipshape.ClassTable.enter` – a table with one more class, whose constructor is
  known;
* `Shipshape.ClassTable.Gains` – from one table to another, one class gains given
  members and no other class gains any;
* `Shipshape.ClassTable.Extends` – from one table to another, every class gains some
  members.

What was found in a class is found in all later ones: constructors
(`Shipshape.ClassTable.Extends.ctor`), fields
(`Shipshape.ClassTable.Extends.field?`) and methods
(`Shipshape.ClassTable.Extends.method?`). Classes that are made in between never
matter to those that are there already.
-/

namespace Shipshape

namespace ClassInfo

/-- The class with some more members. -/
def gain (c : ClassInfo) (fields : List (String × Ty)) (methods : List (String × Signature)) :
    ClassInfo :=
  { c with
    fields := c.fields ++ fields
    methodTypes := c.methodTypes ++ methods.map fun m => (m.1, m.2.toTy) }

@[simp] theorem gain_nil (c : ClassInfo) : c.gain [] [] = c := by
  simp [gain]

@[simp] theorem gain_gain (c : ClassInfo) (fields more : List (String × Ty))
    (methods others : List (String × Signature)) :
    (c.gain fields methods).gain more others = c.gain (fields ++ more) (methods ++ others) := by
  simp [gain]

/-- A member that was there before is found first. -/
theorem lookup_append_of_eq_some {α : Type} {table : List (String × α)} {name : String} {a : α}
    (h : table.lookup name = some a) (more : List (String × α)) :
    (table ++ more).lookup name = some a := by
  rw [List.lookup_append, h, Option.some_or]

/-- A member whose name was free is found at the end. -/
theorem lookup_concat_of_notMem {α : Type} {table : List (String × α)} {name : String}
    (h : name ∉ table.map Prod.fst) (a : α) : (table ++ [(name, a)]).lookup name = some a := by
  rw [List.lookup_append, lookup_eq_none_iff_notMem.mpr h]
  simp

/-- No name is given to two fields or to two methods. -/
structure Distinct (c : ClassInfo) : Prop where
  /-- The names of the fields. -/
  fields : (c.fields.map Prod.fst).Nodup
  /-- The names of the methods. -/
  methods : (c.methodTypes.map Prod.fst).Nodup

/-- A field that is added has a new name and comes last. -/
theorem addField?_eq_some {c d : ClassInfo} {name : String} {ty : Ty}
    (h : c.addField? name ty = some d) :
    name ∉ c.fields.map Prod.fst ∧ d = c.gain [(name, ty)] [] := by
  have hfree : name ∉ c.fields.map Prod.fst := by
    intro hmem
    rw [addField?_eq_none_iff.mpr hmem] at h
    cases h
  refine ⟨hfree, ?_⟩
  rw [addField?, field?, lookup_eq_none_iff_notMem.mpr hfree] at h
  rw [← Option.some.inj h, gain, List.map_nil, List.append_nil]

/-- A method that is added was not found before, and comes last. -/
theorem addMethod?_eq_some {c d : ClassInfo} {name : String} {signature : Signature}
    (h : c.addMethod? name signature = some d) :
    c.method? name = none ∧ d = c.gain [] [(name, signature)] := by
  rw [addMethod?] at h
  split at h
  · cases h
  · next hfree =>
    refine ⟨hfree, ?_⟩
    rw [← Option.some.inj h, gain, List.append_nil]
    rfl

/-- **A method that was found** is found after a gain. -/
theorem method?_gain_of_eq_some {c : ClassInfo} {name : String} {signature : Signature}
    (h : c.method? name = some signature) (fields : List (String × Ty))
    (methods : List (String × Signature)) :
    (c.gain fields methods).method? name = some signature := by
  obtain ⟨ty, hlookup, hty⟩ := Option.bind_eq_some_iff.mp h
  exact Option.bind_eq_some_iff.mpr ⟨ty, lookup_append_of_eq_some hlookup _, hty⟩

/-- A method whose name was free is found. -/
theorem method?_gain_self {c : ClassInfo} {name : String}
    (h : name ∉ c.methodTypes.map Prod.fst) (signature : Signature) :
    (c.gain [] [(name, signature)]).method? name = some signature :=
  Option.bind_eq_some_iff.mpr ⟨signature.toTy, lookup_concat_of_notMem h signature.toTy, rfl⟩

theorem Distinct.addField {c : ClassInfo} (h : c.Distinct) {name : String} {ty : Ty}
    (hfree : name ∉ c.fields.map Prod.fst) : (c.gain [(name, ty)] []).Distinct := by
  constructor
  · simpa [gain] using List.nodup_append.mpr ⟨h.fields, List.nodup_singleton name,
      fun a ha b hb => by
        rintro rfl
        exact hfree (List.mem_singleton.mp hb ▸ ha)⟩
  · simpa [gain] using h.methods

theorem Distinct.addMethod {c : ClassInfo} (h : c.Distinct) {name : String} {signature : Signature}
    (hfree : name ∉ c.methodTypes.map Prod.fst) : (c.gain [] [(name, signature)]).Distinct := by
  constructor
  · simpa [gain] using h.fields
  · simpa [gain] using List.nodup_append.mpr ⟨h.methods, List.nodup_singleton name,
      fun a ha b hb => by
        rintro rfl
        exact hfree (List.mem_singleton.mp hb ▸ ha)⟩

/-! ### Methods that are functions -/

/-- Looking up a name succeeds exactly when some entry has it. -/
theorem lookup_isSome_iff {α : Type} {table : List (String × α)} {x : String} :
    (table.lookup x).isSome = true ↔ x ∈ table.map Prod.fst := by
  rw [Option.isSome_iff_ne_none, ne_eq, lookup_eq_none_iff_notMem, not_not]

/-- The functions among functions are all of them. -/
theorem filterMap_toTy (methods : List (String × Signature)) :
    (methods.map fun m => (m.1, m.2.toTy)).filterMap
      (fun m => m.2.signature?.map (m.1, ·)) = methods := by
  rw [List.filterMap_map]
  exact List.filterMap_some

/-- **Every method is a function.** -/
def Callable (c : ClassInfo) : Prop :=
  ∀ m ∈ c.methodTypes, ∃ signature : Signature, m.2 = signature.toTy

namespace Callable

variable {c : ClassInfo} {name : String}

theorem new (name : String) : (ClassInfo.new name).Callable := List.forall_mem_nil _

theorem gain (h : c.Callable) (fields : List (String × Ty)) (methods : List (String × Signature)) :
    (c.gain fields methods).Callable :=
  List.forall_mem_append.mpr ⟨h, List.forall_mem_map.mpr fun m _ => ⟨m.2, rfl⟩⟩

/-- **Then no member is passed over** when a method is looked up. -/
theorem method?_isSome_iff (h : c.Callable) :
    (c.method? name).isSome = true ↔ name ∈ c.methodTypes.map Prod.fst := by
  rw [← lookup_isSome_iff, method?]
  cases hlookup : c.methodTypes.lookup name with
  | none => rfl
  | some ty =>
    obtain ⟨signature, rfl⟩ := h _ (mem_of_lookup_eq_some hlookup)
    rfl

theorem method?_eq_none_iff (h : c.Callable) :
    c.method? name = none ↔ name ∉ c.methodTypes.map Prod.fst := by
  rw [← h.method?_isSome_iff, Bool.not_eq_true, Option.isSome_eq_false_iff,
    Option.isNone_iff_eq_none]

end Callable

end ClassInfo

namespace ClassTable

variable {t u v : ClassTable} {cls : ClassRef} {name : String}

/-- How many classes there are. -/
def size (t : ClassTable) : Nat := t.infos.length

/-- The table with one more class, whose constructor is known. -/
def enter (t : ClassTable) (name : String) (ctor : Signature) : ClassTable :=
  ⟨t.infos ++ [⟨name, ctor, [], []⟩]⟩

/-- Making a class and setting its constructor enters it. -/
theorem setCtor_add (t : ClassTable) (name : String) (ctor : Signature) :
    (t.add name).1.setCtor (t.add name).2 ctor = t.enter name ctor := by
  simp [setCtor, set, add, enter, info, ClassInfo.new]

@[simp] theorem size_enter (t : ClassTable) (name : String) (ctor : Signature) :
    (t.enter name ctor).size = t.size + 1 := by
  simp [enter, size]

/-- What is known about a class that was just entered. -/
theorem info_enter (t : ClassTable) (name : String) (ctor : Signature) :
    (t.enter name ctor).info ⟨t.size, name⟩ = ⟨name, ctor, [], []⟩ := by
  simp [enter, info, size]

theorem info_of_getElem? {c : ClassInfo} (h : t.infos[cls.id]? = some c) : t.info cls = c := by
  rw [info, h, Option.getD_some]

theorem getElem?_of_lt (h : cls.id < t.size) : t.infos[cls.id]? = some (t.info cls) := by
  rw [info, List.getElem?_eq_getElem h, Option.getD_some]

/-- Nothing is found in a class that was never added. -/
theorem info_of_size_le (h : t.size ≤ cls.id) : t.info cls = .new cls.name := by
  rw [info, List.getElem?_eq_none h, Option.getD_none]

/-! ### Gains of one class -/

/-- **From one table to another, the class `cls` gains members** and no other class
of the first table changes. Classes may have been made in between. -/
def Gains (t : ClassTable) (cls : Option ClassRef) (fields : List (String × Ty))
    (methods : List (String × Signature)) (u : ClassTable) : Prop :=
  ∀ i c, t.infos[i]? = some c →
    u.infos[i]? = some (if cls.map ClassRef.id = some i then c.gain fields methods else c)

theorem Gains.refl (t : ClassTable) (cls : Option ClassRef) : t.Gains cls [] [] t := by
  intro i c hc
  simpa using hc

theorem Gains.trans {cls : Option ClassRef} {fields more : List (String × Ty)}
    {methods others : List (String × Signature)} (h : t.Gains cls fields methods u)
    (h' : u.Gains cls more others v) : t.Gains cls (fields ++ more) (methods ++ others) v := by
  intro i c hc
  have hu := h i c hc
  have hv := h' i _ hu
  by_cases hi : cls.map ClassRef.id = some i
  · simpa [hi] using hv
  · simpa [hi] using hv

/-- What a class made since then gains is no gain for the classes before it. -/
theorem Gains.elsewhere {other : Option ClassRef} {fields : List (String × Ty)}
    {methods : List (String × Signature)} (h : t.Gains other [] [] u)
    (hcls : t.size ≤ cls.id) (h' : u.Gains (some cls) fields methods v) :
    t.Gains other [] [] v := by
  intro i c hc
  have hu := h i c hc
  have hlt : i < t.size := (List.getElem?_eq_some_iff.mp hc).1
  have hne : cls.id ≠ i := fun heq => Nat.not_le_of_lt hlt (heq ▸ hcls)
  have hv := h' i _ hu
  simpa [hne] using hv

theorem gains_enter (t : ClassTable) (cls : Option ClassRef) (name : String) (ctor : Signature) :
    t.Gains cls [] [] (t.enter name ctor) := by
  intro i c hc
  have hlt : i < t.infos.length := (List.getElem?_eq_some_iff.mp hc).1
  rw [enter, List.getElem?_append_left hlt, hc]
  simp

/-- Replacing what is known about a class by something with more members. -/
theorem gains_set (t : ClassTable) (cls : ClassRef) (fields : List (String × Ty))
    (methods : List (String × Signature)) :
    t.Gains (some cls) fields methods (t.set cls ((t.info cls).gain fields methods)) := by
  intro i c hc
  have hlt : i < t.infos.length := (List.getElem?_eq_some_iff.mp hc).1
  by_cases hi : cls.id = i
  · subst hi
    simp [set, hlt, info_of_getElem? hc]
  · simp [set, hi, hc]

theorem addField?_eq_some {ty : Ty} (h : t.addField? cls name ty = some u) :
    name ∉ (t.info cls).fields.map Prod.fst ∧
      u = t.set cls ((t.info cls).gain [(name, ty)] []) := by
  obtain ⟨c, hc, rfl⟩ := Option.map_eq_some_iff.mp h
  obtain ⟨hfree, rfl⟩ := ClassInfo.addField?_eq_some hc
  exact ⟨hfree, rfl⟩

theorem addMethod?_eq_some {signature : Signature} (h : t.addMethod? cls name signature = some u) :
    (t.info cls).method? name = none ∧
      u = t.set cls ((t.info cls).gain [] [(name, signature)]) := by
  obtain ⟨c, hc, rfl⟩ := Option.map_eq_some_iff.mp h
  obtain ⟨hfree, rfl⟩ := ClassInfo.addMethod?_eq_some hc
  exact ⟨hfree, rfl⟩

/-- A field that is added is a gain of its class. -/
theorem gains_of_addField? {ty : Ty} (h : t.addField? cls name ty = some u) :
    t.Gains (some cls) [(name, ty)] [] u := by
  obtain ⟨-, rfl⟩ := addField?_eq_some h
  exact t.gains_set cls [(name, ty)] []

/-- A method that is added is a gain of its class. -/
theorem gains_of_addMethod? {signature : Signature}
    (h : t.addMethod? cls name signature = some u) :
    t.Gains (some cls) [] [(name, signature)] u := by
  obtain ⟨-, rfl⟩ := addMethod?_eq_some h
  exact t.gains_set cls [] [(name, signature)]

/-- No other class changes. -/
theorem Gains.info_of_ne {other : ClassRef} {fields : List (String × Ty)}
    {methods : List (String × Signature)} (h : t.Gains (some other) fields methods u)
    (hcls : cls.id < t.size) (hne : other.id ≠ cls.id) : u.info cls = t.info cls := by
  have hu := h _ _ (getElem?_of_lt hcls)
  rw [Option.map_some, if_neg fun heq => hne (Option.some.inj heq)] at hu
  exact info_of_getElem? hu

/-- What the class itself looks like after its gain. -/
theorem Gains.info_self {fields : List (String × Ty)} {methods : List (String × Signature)}
    (h : t.Gains (some cls) fields methods u) (hcls : cls.id < t.size) :
    u.info cls = (t.info cls).gain fields methods := by
  have hu := h _ _ (getElem?_of_lt hcls)
  rw [Option.map_some, if_pos rfl] at hu
  exact info_of_getElem? hu

/-! ### Extension -/

/-- **From one table to another, classes only gain members**: each class of the
first is in the second, with the same constructor and with its members in front. -/
def Extends (t u : ClassTable) : Prop :=
  ∀ (i : Nat) (c : ClassInfo), t.infos[i]? = some c →
    ∃ fields methods, u.infos[i]? = some (c.gain fields methods)

theorem Extends.refl (t : ClassTable) : t.Extends t := by
  intro i c hc
  exact ⟨[], [], by rw [ClassInfo.gain_nil, hc]⟩

theorem Extends.trans (h : t.Extends u) (h' : u.Extends v) : t.Extends v := by
  intro i c hc
  obtain ⟨fields, methods, hu⟩ := h i c hc
  obtain ⟨more, others, hv⟩ := h' i _ hu
  exact ⟨fields ++ more, methods ++ others, by rw [hv, ClassInfo.gain_gain]⟩

theorem Gains.grows {cls : Option ClassRef} {fields : List (String × Ty)}
    {methods : List (String × Signature)} (h : t.Gains cls fields methods u) : t.Extends u := by
  intro i c hc
  have hu := h i c hc
  by_cases hi : cls.map ClassRef.id = some i
  · exact ⟨fields, methods, by rw [hu, if_pos hi]⟩
  · exact ⟨[], [], by rw [hu, if_neg hi, ClassInfo.gain_nil]⟩

theorem Extends.lt_size (h : t.Extends u) {i : Nat} (hi : i < t.size) : i < u.size := by
  obtain ⟨fields, methods, hu⟩ := h i _ (List.getElem?_eq_getElem hi)
  exact (List.getElem?_eq_some_iff.mp hu).1

/-- What is known later about a class that is there. -/
theorem Extends.info (h : t.Extends u) (hcls : cls.id < t.size) :
    ∃ fields methods, u.info cls = (t.info cls).gain fields methods := by
  obtain ⟨fields, methods, hu⟩ := h _ _ (getElem?_of_lt hcls)
  exact ⟨fields, methods, info_of_getElem? hu⟩

/-- **Constructors stay.** -/
theorem Extends.ctor (h : t.Extends u) (hcls : cls.id < t.size) :
    (u.info cls).ctor = (t.info cls).ctor := by
  obtain ⟨fields, methods, hu⟩ := h.info hcls
  rw [hu, ClassInfo.gain]

/-- **A field that was found is found later.** -/
theorem Extends.field? (h : t.Extends u) {ty : Ty} (hty : (t.info cls).field? name = some ty) :
    (u.info cls).field? name = some ty := by
  by_cases hcls : cls.id < t.size
  · obtain ⟨fields, methods, hu⟩ := h.info hcls
    rw [hu]
    exact ClassInfo.lookup_append_of_eq_some hty fields
  · rw [info_of_size_le (Nat.not_lt.mp hcls)] at hty
    simp [ClassInfo.field?, ClassInfo.new] at hty

/-- **A method that was found is found later.** -/
theorem Extends.method? (h : t.Extends u) {signature : Signature}
    (hsig : (t.info cls).method? name = some signature) :
    (u.info cls).method? name = some signature := by
  by_cases hcls : cls.id < t.size
  · obtain ⟨fields, methods, hu⟩ := h.info hcls
    rw [hu]
    exact ClassInfo.method?_gain_of_eq_some hsig fields methods
  · rw [info_of_size_le (Nat.not_lt.mp hcls)] at hsig
    simp [ClassInfo.method?, ClassInfo.new] at hsig

end ClassTable

end Shipshape
