import Mathlib.Data.List.Nodup
import Shipshape.Proofs.Lexical.Typed
import Shipshape.Proofs.Position.Computation

/-!
# Keeping track of what was declared

The checker knows what was declared so far by its frames and by its classes. These are
compared with the names that the program as written has declared up to the place at hand.

* `Shipshape.Program.Awaits` – what a program says about statements in a row, given the
  names that were declared before them in their region, and the fields before them in their
  class;
* `Shipshape.Lexical.Frame.Tracks`, `Shipshape.Lexical.Env.Tracks` – the frame at hand has
  just these names, and what surrounds it is what is around the place;
* `Shipshape.ClassTable.Lists`, `Shipshape.ClassTable.Gained` – the class at hand has just
  these fields, or has gained them.

A name that is taken is found in a frame or in a class. Since these have just the names of
what was declared before, the program declares the name twice.
-/

namespace Shipshape

/-! ### The program -/

theorem declaredNames_cons (x : Stmt) (xs : List Stmt) :
    declaredNames (x :: xs) = x.declared?.toList ++ declaredNames xs := by
  rw [declaredNames, List.filterMap_cons]
  cases x.declared? <;> rfl

namespace Program

variable {p : Program} {path : Path} {names fields more : List String} {name : String}

/-- Whatever occurs twice among some names is declared twice in the program. -/
def Covers (p : Program) (names : List String) : Prop :=
  ∀ name, 2 ≤ names.count name → p.Redeclares name

theorem HasRegion.covers (h : p.HasRegion names) : p.Covers names := fun _ hn => .region h hn

theorem Covers.sublist (h : p.Covers names) (hsub : more.Sublist names) : p.Covers more :=
  fun name hn => h name (Nat.le_trans hn (hsub.count_le name))

/-- A name that comes again is declared twice. -/
theorem Covers.redeclares (h : p.Covers (names ++ [name])) (hname : name ∈ names) :
    p.Redeclares name := by
  have hpos : 0 < names.count name := List.count_pos_iff.mpr hname
  refine h name ?_
  rw [List.count_append, List.count_singleton_self]
  omega

/-- **What a program says about statements in a row**: they are statements of the program;
a name that they declare is declared twice if it is among `names`, or comes again; and so is
a field that is among `fields`, if they lie in a class. -/
structure Awaits (p : Program) (path : Path) (names fields : List String) (xs : List Stmt) :
    Prop where
  /-- The statements. -/
  stmts : ∀ x ∈ xs, p.HasStmt path x
  /-- The names. -/
  names : p.Covers (names ++ declaredNames xs)
  /-- The fields. -/
  fields : path.cls? ≠ none → p.Covers (fields ++ (stmtsFieldDecls xs).map Prod.fst)

namespace Awaits

variable {x : Stmt} {xs : List Stmt}

theorem head (h : p.Awaits path names fields (x :: xs)) : p.Awaits path names fields [x] := by
  refine ⟨List.forall_mem_singleton.mpr (h.stmts x List.mem_cons_self), ?_, fun hcls => ?_⟩
  · refine h.names.sublist (List.Sublist.append_left ?_ _)
    rw [declaredNames_cons, declaredNames_cons]
    exact List.Sublist.append_left (List.nil_sublist _) _
  · refine (h.fields hcls).sublist (List.Sublist.append_left (List.Sublist.map _ ?_) _)
    rw [stmtsFieldDecls, stmtsFieldDecls, stmtsFieldDecls]
    exact List.Sublist.append_left (List.nil_sublist _) _

theorem tail (h : p.Awaits path names fields (x :: xs)) :
    p.Awaits path (names ++ x.declared?.toList) (fields ++ x.fieldDecls.map Prod.fst) xs := by
  refine ⟨fun y hy => h.stmts y (List.mem_cons_of_mem _ hy), ?_, fun hcls => ?_⟩
  · have hnames := h.names
    rwa [declaredNames_cons, ← List.append_assoc] at hnames
  · have hfields := h.fields hcls
    rwa [stmtsFieldDecls, List.map_append, ← List.append_assoc] at hfields

/-- The statement itself. -/
theorem hasStmt (h : p.Awaits path names fields [x]) : p.HasStmt path x :=
  h.stmts x List.mem_cons_self

/-- The name that the statement declares. -/
theorem covers_declared (h : p.Awaits path names fields [x]) (hx : x.declared? = some name) :
    p.Covers (names ++ [name]) := by
  have hnames := h.names
  rwa [declaredNames_cons, hx] at hnames

/-- The fields that the statement declares. -/
theorem covers_fields (h : p.Awaits path names fields [x]) (hcls : path.cls? ≠ none) :
    p.Covers (fields ++ x.fieldDecls.map Prod.fst) := by
  have hfields := h.fields hcls
  rwa [stmtsFieldDecls, stmtsFieldDecls, List.append_nil] at hfields

end Awaits

/-- **A block below a statement** is a region of its own. The fields in it are those of the
class at hand, after the ones declared before. -/
theorem HasStmt.awaits {x : Stmt} (h : p.HasStmt path x) {b : Body} (hb : b ∈ x.bodies)
    (hfields : (b.around ++ path).cls? ≠ none →
      p.Covers (fields ++ (blockFieldDecls b.block).map Prod.fst)) :
    p.Awaits (b.around ++ path) b.names fields b.block.body := by
  refine ⟨fun y hy => .inner h hb hy, (HasRegion.body h hb).covers, fun hcls => ?_⟩
  have hcovers := hfields hcls
  rwa [blockFieldDecls.eq_def] at hcovers

/-- The block of a statement that has only one, and is no class. -/
theorem Awaits.body {x : Stmt} (h : p.Awaits path names fields [x]) {b : Body} (hb : b ∈ x.bodies)
    (hfields : x.fieldDecls = blockFieldDecls b.block)
    (hcls : (b.around ++ path).cls? = path.cls?) :
    p.Awaits (b.around ++ path) b.names fields b.block.body := by
  refine h.hasStmt.awaits hb fun hinner => ?_
  rw [← hfields]
  exact h.covers_fields (hcls ▸ hinner)

end Program

/-! ### Names and what they stand for -/

/-- **A name is right for an entity**: if the entity denotes a type, then the name may stand
for that type. -/
def Entity.Spelled (name : String) (e : Entity) : Prop :=
  ∀ ty, e.denotedType? = some ty → ∀ span, (TypeExpr.name name span).Writes ty

theorem Entity.Spelled.of_value {name : String} {e : Entity} (h : e.denotedType? = none) :
    e.Spelled name := by
  intro ty hty
  rw [h] at hty
  cases hty

theorem Entity.spelled_classType {e : Entity} {cls : ClassRef} (h : e.binding = .classType cls) :
    e.Spelled cls.name := by
  intro ty hty span
  rw [denotedType?, h] at hty
  obtain rfl := Option.some.inj hty
  exact .object cls span

theorem builtInEntities_spelled : ∀ b ∈ builtInEntities, b.2.Spelled b.1 := by
  intro b hb ty hty span
  obtain ⟨⟨kind, i⟩, -, rfl⟩ := List.mem_map.mp hb
  obtain rfl := Option.some.inj hty
  exact .scalar kind span

namespace Lexical

variable {p : Program} {path : Path} {names more : List String}

/-- **A frame has just the given names**, each once. -/
structure Frame.Tracks (frame : Frame) (names : List String) : Prop where
  /-- The names. -/
  mem : ∀ n, n ∈ names ↔ n ∈ frame.names.map Prod.fst
  /-- None is given twice. -/
  nodup : names.Nodup
  /-- Each is right for its entity. -/
  spelled : ∀ b ∈ frame.names, b.2.Spelled b.1

namespace Frame.Tracks

variable {frame : Frame}

theorem empty (a : Ambient) : (Frame.empty a).Tracks [] :=
  ⟨fun _ => Iff.rfl, List.nodup_nil, fun _ hb => nomatch hb⟩

theorem extend (h : frame.Tracks names) {b : String × Entity} (hfree : b.1 ∉ names)
    (hb : b.2.Spelled b.1) : (frame.extend [b]).Tracks (names ++ [b.1]) := by
  refine ⟨fun n => ?_, ?_, List.forall_mem_cons.mpr ⟨hb, h.spelled⟩⟩
  · simp only [Frame.extend, List.mem_append, List.mem_singleton, List.map_append, List.map_cons,
      List.map_nil, h.mem n]
    exact or_comm
  · rw [← List.concat_eq_append]
    exact h.nodup.concat hfree

/-- **A name is declared unless it is among those declared before**, and then the program
declares it twice. -/
theorem declare_verdict (h : frame.Tracks names) {name : String} (entity : Entity) (span : Span)
    (hcovers : p.Covers (names ++ [name])) :
    Verdict (frame.declare name entity span) (fun b => b = (name, entity) ∧ name ∉ names)
      p.Explains := by
  have hlookup : frame.lookup name = none ↔ name ∉ names := by
    rw [h.mem name]
    exact ClassInfo.lookup_eq_none_iff_notMem
  rw [Frame.declare]
  split
  · next found hfound =>
    have hmem : name ∈ names := by
      by_contra hfree
      rw [hlookup.mpr hfree] at hfound
      cases hfound
    exact .fail (hcovers.redeclares hmem)
  · next hnone => exact .pure ⟨rfl, hlookup.mp hnone⟩

end Frame.Tracks

/-- **An environment has what is around a place**, and just the given names in the frame at
hand. -/
structure Env.Tracks (env : Env) (path : Path) (names : List String) : Prop where
  /-- What is around the place. -/
  around : path.Matches env.ambient
  /-- The frame at hand. -/
  frame : env.frame.Tracks names
  /-- The frames further out. -/
  outer : ∀ frame ∈ env.outer, ∀ b ∈ frame.names, b.2.Spelled b.1

namespace Env.Tracks

variable {env : Env}

theorem root (limit : Nat) : (Env.root limit).Tracks [] Program.builtInNames := by
  refine ⟨.top, ⟨fun _ => Iff.rfl, by decide, builtInEntities_spelled⟩, ?_⟩
  exact fun _ hframe => nomatch hframe

theorem deeper (h : env.Tracks path names) (n : Nat) :
    ({ env with level := n } : Env).Tracks path names :=
  ⟨h.around, h.frame, h.outer⟩

/-- The place after a declaration. -/
theorem extend (h : env.Tracks path names) {b : String × Entity} (hfree : b.1 ∉ names)
    (hb : b.2.Spelled b.1) : (env.extend [b]).Tracks path (names ++ [b.1]) :=
  ⟨h.around, h.frame.extend hfree hb, h.outer⟩

/-- A region inside the place. -/
theorem push (h : env.Tracks path names) {frame : Frame} {inner : Path}
    (haround : inner.Matches frame.ambient) (hframe : frame.Tracks more) :
    (env.push frame).Tracks inner more :=
  ⟨haround, hframe, List.forall_mem_cons.mpr ⟨h.frame.spelled, h.outer⟩⟩

theorem resolve_spelled (h : env.Tracks path names) {name : String} {span : Span} {entity : Entity}
    (hres : env.resolve name span = .ok entity) : entity.Spelled name := by
  rw [Env.resolve] at hres
  split at hres
  · next found hfound =>
    obtain rfl := Except.ok.inj hres
    obtain ⟨frame, hframe, hlookup⟩ := List.exists_of_findSome?_eq_some hfound
    have hmem := ClassInfo.mem_of_lookup_eq_some hlookup
    rcases List.mem_cons.mp hframe with rfl | hframe
    · exact h.frame.spelled _ hmem
    · exact h.outer frame hframe _ hmem
  · cases hres

theorem convertList_writes {as : List TypeExpr} {tys : List Ty}
    (has : ∀ a ∈ as, ∀ ty, env.convert a = .ok ty → a.Writes ty)
    (h : env.convertList as = .ok tys) : ∀ q ∈ as.zip tys, q.1.Writes q.2 := by
  induction as generalizing tys with
  | nil => exact fun _ hq => nomatch hq
  | cons a as ih =>
    obtain ⟨ha, has⟩ := List.forall_mem_cons.mp has
    rw [Env.convertList] at h
    obtain ⟨ty, hty, h⟩ := bind_eq_ok_iff.mp h
    obtain ⟨rest, hrest, h⟩ := bind_eq_ok_iff.mp h
    obtain rfl := Except.ok.inj h
    exact List.forall_mem_cons.mpr ⟨ha ty hty, ih has hrest⟩

/-- **A type that is written stands for the type that comes out.** -/
theorem convert_writes (h : env.Tracks path names) {a : TypeExpr} {ty : Ty}
    (hty : env.convert a = .ok ty) : a.Writes ty := by
  induction a generalizing ty with
  | name name span =>
    rw [Env.convert] at hty
    obtain ⟨entity, hres, hty⟩ := bind_eq_ok_iff.mp hty
    exact h.resolve_spelled hres ty (require_eq_ok_iff.mp hty) span
  | array element ih =>
    rw [Env.convert] at hty
    obtain ⟨el, hel, hty⟩ := bind_eq_ok_iff.mp hty
    obtain rfl := Except.ok.inj hty
    exact .array (ih hel)
  | map key value ihk ihv =>
    rw [Env.convert] at hty
    obtain ⟨k, hk, hty⟩ := bind_eq_ok_iff.mp hty
    obtain ⟨v, hv, hty⟩ := bind_eq_ok_iff.mp hty
    obtain rfl := Except.ok.inj hty
    exact .map (ihk hk) (ihv hv)
  | function params result ihps ihr =>
    rw [Env.convert] at hty
    obtain ⟨ps, hps, hty⟩ := bind_eq_ok_iff.mp hty
    obtain ⟨r, hr, hty⟩ := bind_eq_ok_iff.mp hty
    obtain rfl := Except.ok.inj hty
    refine .function (length_convertList hps).symm ?_ (ihr hr)
    exact convertList_writes (fun a ha ty hty => ihps a ha hty) hps

/-- The result of a function is what it declares to return. -/
theorem convertResult_returns (h : env.Tracks path names) (decl : FnDecl Stmt) {ty : Ty}
    (hty : env.convertResult decl.result = .ok ty) : (Construct.function decl).Returns ty := by
  rw [Construct.Returns, Construct.result?]
  cases hresult : decl.result with
  | none =>
    rw [hresult] at hty
    exact (Except.ok.inj hty).symm
  | some typeExpr =>
    rw [hresult] at hty
    exact h.convert_writes hty

end Env.Tracks

/-- **Parameters are declared** one after the other, unless two have the same name. -/
theorem params_ends {frame : Frame} {σ : Store} {parameters : List Param} {tys : List Ty}
    (hlen : tys.length = parameters.length) (h : frame.Tracks names)
    (hcovers : p.Covers (names ++ paramNames parameters)) :
    Ends (params frame parameters tys) σ (fun r c => c = σ.classes ∧ r.1.ambient = frame.ambient ∧
      r.1.Tracks (names ++ paramNames parameters)) p.Explains := by
  induction parameters generalizing frame σ names tys with
  | nil =>
    obtain rfl := List.length_eq_zero_iff.mp hlen
    rw [params.eq_def]
    refine .pure ⟨rfl, rfl, ?_⟩
    rw [show paramNames [] = [] from rfl, List.append_nil]
    exact h
  | cons param rest ih =>
    cases tys with
    | nil => cases hlen
    | cons ty tys =>
      have hnames : names ++ paramNames (param :: rest) =
          (names ++ [param.name]) ++ paramNames rest :=
        (List.append_assoc names [param.name] (paramNames rest)).symm
      rw [hnames] at hcovers
      rw [params]
      refine .newEntity fun entity τ hentity hτ => ?_
      refine .ofRule (h.declare_verdict entity param.span
        (hcovers.sublist (List.sublist_append_left _ _))) fun b hb => ?_
      obtain ⟨rfl, hfree⟩ := hb
      have hvalue : entity.denotedType? = none := by rw [Entity.denotedType?, hentity]
      have hframe := h.extend (b := (param.name, entity)) hfree (.of_value hvalue)
      refine .bind (ih (Nat.succ.inj hlen) hframe hcovers) fun r υ hr => ?_
      obtain ⟨hclasses, hambient, htracks⟩ := hr
      rw [← hnames] at htracks
      exact .pure ⟨hclasses.trans hτ, hambient, htracks⟩

end Lexical

/-! ### Members -/

namespace ClassTable

variable {c d e : ClassTable} {cls : Option ClassRef} {fields more : List String}
  {methods others : List String}

/-- **The class at hand, if there is one, has just the given fields**, each once. -/
def Lists (c : ClassTable) (cls : Option ClassRef) (fields : List String) : Prop :=
  ∀ r, cls = some r → r.id < c.size ∧ (c.info r).fields.map Prod.fst = fields ∧ fields.Nodup

/-- **The class at hand gains fields and methods** of the given names, and no other class
does. -/
def Gained (c : ClassTable) (cls : Option ClassRef) (fields methods : List String)
    (d : ClassTable) : Prop :=
  ∃ fs ms, fs.map Prod.fst = fields ∧ ms.map Prod.fst = methods ∧ c.Gains cls fs ms d

theorem Gained.refl (c : ClassTable) (cls : Option ClassRef) : c.Gained cls [] [] c :=
  ⟨[], [], rfl, rfl, .refl c cls⟩

theorem Gained.trans (h : c.Gained cls fields methods d) (h' : d.Gained cls more others e) :
    c.Gained cls (fields ++ more) (methods ++ others) e := by
  obtain ⟨fs, ms, rfl, rfl, hgains⟩ := h
  obtain ⟨fs', ms', rfl, rfl, hgains'⟩ := h'
  exact ⟨fs ++ fs', ms ++ ms', List.map_append, List.map_append, hgains.trans hgains'⟩

/-- What a class made since then gains is no gain for the classes before it. -/
theorem Gained.elsewhere {r : ClassRef} (h : c.Gained cls [] [] d) (hr : c.size ≤ r.id)
    (h' : d.Gained (some r) fields methods e) : c.Gained cls [] [] e := by
  obtain ⟨fs, ms, hfs, hms, hgains⟩ := h
  obtain rfl := List.map_eq_nil_iff.mp hfs
  obtain rfl := List.map_eq_nil_iff.mp hms
  obtain ⟨_, _, -, -, hgains'⟩ := h'
  exact ⟨[], [], rfl, rfl, hgains.elsewhere hr hgains'⟩

theorem Lists.gained (h : c.Lists cls fields) (hg : c.Gained cls more methods d)
    (hnodup : cls ≠ none → (fields ++ more).Nodup) : d.Lists cls (fields ++ more) := by
  rintro r rfl
  obtain ⟨hlt, rfl, -⟩ := h r rfl
  obtain ⟨fs, ms, rfl, -, hgains⟩ := hg
  refine ⟨hgains.grows.lt_size hlt, ?_, hnodup (by simp)⟩
  rw [hgains.info_self hlt, ClassInfo.gain, List.map_append]

/-- The methods of the class after a gain. -/
theorem Gained.methods_eq {r : ClassRef} (h : c.Gained (some r) fields methods d)
    (hr : r.id < c.size) :
    (d.info r).methodTypes.map Prod.fst = (c.info r).methodTypes.map Prod.fst ++ methods := by
  obtain ⟨fs, ms, -, rfl, hgains⟩ := h
  rw [hgains.info_self hr, ClassInfo.gain, List.map_append, List.map_map]
  rfl

end ClassTable

namespace Lexical.Ends

variable {β : Type} {p : Program} {σ : Store} {Q : β → ClassTable → Prop}
  {names fields : List String} {name : String}

/-- **A field is added** unless it is among those declared before. -/
theorem addField {cls : ClassRef} {ty : Ty} {span : Span} {f : Unit → Lex β}
    (hlists : σ.classes.Lists (some cls) fields) (hcovers : p.Covers (fields ++ [name]))
    (hf : ∀ τ, σ.classes.Gained (some cls) [name] [] τ.classes →
      τ.classes.Lists (some cls) (fields ++ [name]) → Ends (f ()) τ Q p.Explains) :
    Ends (Lex.addField cls name ty span >>= f) σ Q p.Explains := by
  obtain ⟨-, hfields, hnodup⟩ := hlists cls rfl
  refine bind (P := fun _ c => σ.classes.Gained (some cls) [name] [] c ∧
    c.Lists (some cls) (fields ++ [name])) ?_ fun _ τ hτ => hf τ hτ.1 hτ.2
  refine ⟨fun _ τ hτ => ?_, fun d τ hτ => ?_⟩
  · rw [Lex.addField] at hτ
    split at hτ
    · next classes hadd =>
      cases hτ
      have hfree := (ClassTable.addField?_eq_some hadd).1
      have hgained : σ.classes.Gained (some cls) [name] [] classes :=
        ⟨[(name, ty)], [], rfl, rfl, ClassTable.gains_of_addField? hadd⟩
      refine ⟨hgained, hlists.gained hgained fun _ => ?_⟩
      rw [← List.concat_eq_append]
      exact hnodup.concat (hfields ▸ hfree)
    · cases hτ
  · rw [Lex.addField] at hτ
    split at hτ
    · cases hτ
    · next hadd =>
      cases hτ
      have hmem := ClassInfo.addField?_eq_none_iff.mp (Option.map_eq_none_iff.mp hadd)
      rw [hfields] at hmem
      exact hcovers.redeclares hmem

/-- **A method is added** to the class that it belongs to, if it belongs to one, unless its
name is among those declared before. -/
theorem addMethod {owner cls : Option ClassRef} {signature : Signature} {span : Span}
    {f : Unit → Lex β} (howner : ∀ r ∈ owner, cls = some r)
    (hmethods : ∀ r ∈ owner, ∀ n ∈ (σ.classes.info r).methodTypes.map Prod.fst, n ∈ names)
    (hcovers : p.Covers (names ++ [name]))
    (hf : ∀ τ, σ.classes.Gained cls [] (owner.toList.map fun _ => name) τ.classes →
      Ends (f ()) τ Q p.Explains) :
    Ends (Lex.addMethod owner name signature span >>= f) σ Q p.Explains := by
  refine bind (P := fun _ c => σ.classes.Gained cls [] (owner.toList.map fun _ => name) c) ?_
    fun _ τ hτ => hf τ hτ
  cases owner with
  | none =>
    refine ⟨fun _ τ hτ => ?_, fun d τ hτ => (nomatch hτ)⟩
    cases hτ
    exact .refl ..
  | some r =>
    obtain rfl := howner r rfl
    refine ⟨fun _ τ hτ => ?_, fun d τ hτ => ?_⟩
    · rw [Lex.addMethod] at hτ
      split at hτ
      · next classes hadd =>
        cases hτ
        exact ⟨[], [(name, signature)], rfl, rfl, ClassTable.gains_of_addMethod? hadd⟩
      · cases hτ
    · rw [Lex.addMethod] at hτ
      split at hτ
      · cases hτ
      · next hadd =>
        cases hτ
        have hfound := ClassInfo.addMethod?_eq_none_iff.mp (Option.map_eq_none_iff.mp hadd)
        obtain ⟨found, hfound⟩ := Option.isSome_iff_exists.mp hfound
        exact hcovers.redeclares
          (hmethods r rfl _ (List.mem_map_of_mem (ClassInfo.mem_of_method? hfound)))

end Lexical.Ends

end Shipshape
