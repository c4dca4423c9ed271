import Shipshape.Proofs.Frame.Effect
import Shipshape.Proofs.Scope.Bounds

/-!
# What type expressions denote

A type expression denotes a type if all of its names do, and otherwise is refused for the first
name that does not.

* `Shipshape.TypeExpr.occurrences` – the names in a type expression with their spans, in the order
  in which they are written;
* `Shipshape.TypeExpr.replace` – the type with the same structure, in which names are replaced;
* `Shipshape.Arena.NamesType`, `Shipshape.Arena.Offends` – a name stands for a type in a scope, or
  it does not, for one of two reasons;
* `Shipshape.Arena.FirstOffence` – the diagnostic about the first name that stands for no type;
* `Shipshape.Check.Denotes` – what it means that a computation goes through some names in order;
* `Shipshape.convert_denotes`, `Shipshape.convertSignature_denotes` – so does the conversion of a
  type expression, and of all that a function declaration writes;
* `Shipshape.convert_resolves` – the outcome of both.

A function declaration goes through its result before its parameters. It does so before it opens a
scope, and before it declares anything. So its signature is made of what the names stand for
around it.
-/

namespace Shipshape

/-! ### Names as they are written -/

namespace TypeExpr

mutual

/-- **The names in a type expression**, with their spans, as they are written from left to
right. -/
def occurrences : TypeExpr → List (String × Span)
  | .name n span => [(n, span)]
  | .array element => element.occurrences
  | .map key value => key.occurrences ++ value.occurrences
  | .function params result => occurrencesList params ++ result.occurrences

/-- The names in type expressions. -/
def occurrencesList : List TypeExpr → List (String × Span)
  | [] => []
  | a :: as => a.occurrences ++ occurrencesList as

end

mutual

/-- **The type with the structure of a type expression** in which every name is replaced. -/
def replace (meaning : String → Ty) : TypeExpr → Ty
  | .name n _ => meaning n
  | .array element => .array (element.replace meaning)
  | .map key value => .map (key.replace meaning) (value.replace meaning)
  | .function params result => .function (replaceList meaning params) (result.replace meaning)

/-- The types with the structure of type expressions. -/
def replaceList (meaning : String → Ty) : List TypeExpr → List Ty
  | [] => []
  | a :: as => a.replace meaning :: replaceList meaning as

end

end TypeExpr

namespace FnDecl

variable {σ : Type}

/-- **The names in the signature that a function writes**: those of the result come first. -/
def occurrences (decl : FnDecl σ) : List (String × Span) :=
  (decl.result.map TypeExpr.occurrences).getD [] ++
    TypeExpr.occurrencesList (decl.params.map Param.typeExpr)

/-- The signature that a function writes, in which every name is replaced. -/
def replace (meaning : String → Ty) (decl : FnDecl σ) : Signature where
  params := TypeExpr.replaceList meaning (decl.params.map Param.typeExpr)
  result := (decl.result.map (TypeExpr.replace meaning)).getD .none

end FnDecl

/-! ### Names in a scope -/

namespace Arena

variable {a : Arena} {id : ScopeId} {name : String}

/-- **The name stands for a type** in the scope: it resolves to a class or to a type. -/
inductive NamesType (a : Arena) (id : ScopeId) (name : String) : Ty → Prop
  /-- A class stands for the type of its objects. -/
  | cls {number : Nat} {cls : ClassRef} (h : a.find id name = .ok (some ⟨number, .classType cls⟩)) :
    NamesType a id name (.object cls)
  /-- A type stands for itself. -/
  | type {number : Nat} {ty : Ty} (h : a.find id name = .ok (some ⟨number, .typeName ty⟩)) :
    NamesType a id name ty

/-- **The name stands for no type** in the scope: it does not resolve, or it resolves to something
else. -/
inductive Offends (a : Arena) (id : ScopeId) (name : String) : Cause → Prop
  /-- The name does not resolve. -/
  | undeclared (h : a.find id name = .ok none) : Offends a id name (.undeclaredIdentifier name)
  /-- The name resolves to something else. -/
  | notAType {entity : Entity} (h : a.find id name = .ok (some entity))
    (hno : ∀ ty, ¬a.NamesType id name ty) : Offends a id name (.notAType name)

/-- **The first name that stands for no type**: all names before it stand for types, and the
diagnostic says what is wrong with it, at its span. -/
def FirstOffence (a : Arena) (id : ScopeId) (names : List (String × Span)) (d : Diagnostic) :
    Prop :=
  ∃ before name span after cause, names = before ++ (name, span) :: after ∧
    (∀ o ∈ before, ∃ ty, a.NamesType id o.1 ty) ∧ a.Offends id name cause ∧
    d = .located cause span

theorem namesType_iff {ty : Ty} : a.NamesType id name ty ↔
    ∃ entity, a.find id name = .ok (some entity) ∧ entity.denotedType? = some ty := by
  constructor
  · rintro (h | h)
    · exact ⟨_, h, rfl⟩
    · exact ⟨_, h, rfl⟩
  · rintro ⟨⟨number, binding⟩, h, hty⟩
    cases binding with
    | classType cls => exact Option.some.inj hty ▸ .cls h
    | typeName => exact Option.some.inj hty ▸ .type h
    | var | param | field | function => cases hty

/-- A name stands for one type only. -/
theorem NamesType.unique {ty ty' : Ty} (h : a.NamesType id name ty)
    (h' : a.NamesType id name ty') : ty = ty' := by
  obtain ⟨entity, hfind, hty⟩ := namesType_iff.mp h
  obtain ⟨entity', hfind', hty'⟩ := namesType_iff.mp h'
  obtain rfl : entity = entity' := Option.some.inj (Except.ok.inj (hfind.symm.trans hfind'))
  exact Option.some.inj (hty.symm.trans hty')

/-- A name stands for a type, or there is something wrong with it. -/
theorem Live.namesType_or_offends (h : a.Live id) (name : String) :
    (∃ ty, a.NamesType id name ty) ∨ ∃ cause, a.Offends id name cause := by
  by_cases hno : ∀ ty, ¬a.NamesType id name ty
  · obtain ⟨found, hfound⟩ := h.exists_findFrom name
    have hfind : a.find id name = .ok found := hfound a.size h.lt_size
    cases found with
    | none => exact .inr ⟨_, .undeclared hfind⟩
    | some entity => exact .inr ⟨_, .notAType hfind hno⟩
  · push Not at hno
    exact .inl hno

theorem Offends.not_namesType {cause : Cause} (h : a.Offends id name cause) (ty : Ty) :
    ¬a.NamesType id name ty := by
  intro hty
  cases h with
  | undeclared h =>
    obtain ⟨entity, hfind, -⟩ := namesType_iff.mp hty
    cases h.symm.trans hfind
  | notAType _ hno => exact hno ty hty

/-- All names stand for types, or there is a first one that does not. -/
theorem Live.all_or_firstOffence (h : a.Live id) (names : List (String × Span)) :
    (∀ o ∈ names, ∃ ty, a.NamesType id o.1 ty) ∨ ∃ d, a.FirstOffence id names d := by
  induction names with
  | nil => exact .inl (List.forall_mem_nil _)
  | cons o names ih =>
    obtain ⟨name, span⟩ := o
    rcases h.namesType_or_offends name with hty | ⟨cause, hcause⟩
    · rcases ih with hall | ⟨d, before, other, at', after, cause, rfl, hbefore, hoffends, rfl⟩
      · exact .inl (List.forall_mem_cons.mpr ⟨hty, hall⟩)
      · exact .inr ⟨_, (name, span) :: before, other, at', after, cause, rfl,
          List.forall_mem_cons.mpr ⟨hty, hbefore⟩, hoffends, rfl⟩
    · exact .inr ⟨_, [], name, span, names, cause, rfl, List.forall_mem_nil _, hcause, rfl⟩

theorem FirstOffence.not_all {names : List (String × Span)} {d : Diagnostic}
    (h : a.FirstOffence id names d) : ¬∀ o ∈ names, ∃ ty, a.NamesType id o.1 ty := by
  obtain ⟨before, name, span, after, cause, rfl, -, hoffends, -⟩ := h
  intro hall
  obtain ⟨ty, hty⟩ := hall (name, span) (List.mem_append_right _ List.mem_cons_self)
  exact hoffends.not_namesType ty hty

/-- A name that is alone is the first offence if it is one. -/
theorem FirstOffence.of_singleton {span : Span} {d : Diagnostic}
    (h : a.FirstOffence id [(name, span)] d) :
    ∃ cause, a.Offends id name cause ∧ d = .located cause span := by
  obtain ⟨before, other, at', after, cause, heq, -, hoffends, rfl⟩ := h
  cases before with
  | nil =>
    obtain ⟨rfl, rfl⟩ := Prod.mk.inj (List.cons.inj heq).1
    exact ⟨cause, hoffends, rfl⟩
  | cons => simp at heq

/-- The first offence among more names is among the first of them, or all of these stand for
types. -/
theorem FirstOffence.of_append {names more : List (String × Span)} {d : Diagnostic}
    (h : a.FirstOffence id (names ++ more) d) :
    a.FirstOffence id names d ∨
      (∀ o ∈ names, ∃ ty, a.NamesType id o.1 ty) ∧ a.FirstOffence id more d := by
  obtain ⟨before, name, span, after, cause, heq, hbefore, hoffends, rfl⟩ := h
  rcases List.append_eq_append_iff.mp heq with ⟨rest, rfl, rfl⟩ | ⟨rest, rfl, hrest⟩
  · obtain ⟨hnames, hbefore⟩ := List.forall_mem_append.mp hbefore
    exact .inr ⟨hnames, rest, name, span, after, cause, rfl, hbefore, hoffends, rfl⟩
  · cases rest with
    | nil =>
      rw [List.append_nil]
      exact .inr ⟨hbefore, [], name, span, after, cause, hrest.symm, List.forall_mem_nil _,
        hoffends, rfl⟩
    | cons o rest =>
      obtain ⟨rfl, -⟩ := List.cons.inj hrest
      exact .inl ⟨before, name, span, rest, cause, rfl, hbefore, hoffends, rfl⟩

end Arena

/-! ### Going through names in order -/

namespace Check

variable {α β : Type} {s : State} {id : ScopeId}

/-- **A computation that goes through names in order**: it gives a value if all of them stand for
types, and otherwise refuses the first one that does not. It never changes the state. -/
structure Denotes (m : Check α) (s : State) (id : ScopeId) (names : List (String × Span)) (a : α) :
    Prop where
  /-- All names stand for types. -/
  ok : (∀ o ∈ names, ∃ ty, s.arena.NamesType id o.1 ty) → m s = .ok a s
  /-- There is a first name that does not. -/
  refused : ∀ d, s.arena.FirstOffence id names d → m s = .error (.refused d) s

namespace Denotes

theorem pure (a : α) : Denotes (pure a) s id [] a where
  ok _ := rfl
  refused _ h := absurd (List.forall_mem_nil _) h.not_all

/-- One computation after another goes through the names of both. -/
theorem bind {m : Check α} {f : α → Check β} {names more : List (String × Span)} {a : α} {b : β}
    (hm : Denotes m s id names a) (hf : Denotes (f a) s id more b) :
    Denotes (m >>= f) s id (names ++ more) b where
  ok h := by
    obtain ⟨hnames, hmore⟩ := List.forall_mem_append.mp h
    rw [bind_eq_of_left (hm.ok hnames), hf.ok hmore]
  refused d h := by
    rcases h.of_append with h | ⟨hnames, h⟩
    · exact bind_eq_error_of_left (hm.refused d h) f
    · rw [bind_eq_of_left (hm.ok hnames), hf.refused d h]

/-- What follows may make something of the value. -/
theorem map {m : Check α} {names : List (String × Span)} {a : α} (hm : Denotes m s id names a)
    (f : α → β) : Denotes (m >>= fun a => Pure.pure (f a)) s id names (f a) := by
  have hbind := bind (f := fun a => Pure.pure (f a)) hm (pure (f a))
  rwa [List.append_nil] at hbind

end Denotes

end Check

open Check (Denotes)

section Conversion

variable {s : State} {id : ScopeId} {meaning : String → Ty}
  (hmeaning : ∀ name ty, s.arena.NamesType id name ty → meaning name = ty)

theorem convertList_denotes {as : List TypeExpr}
    (h : ∀ a ∈ as, Denotes (convert id a) s id a.occurrences (a.replace meaning)) :
    Denotes (convertList id as) s id (TypeExpr.occurrencesList as)
      (TypeExpr.replaceList meaning as) := by
  induction as with
  | nil => exact .pure []
  | cons a as ih =>
    obtain ⟨ha, has⟩ := List.forall_mem_cons.mp h
    rw [convertList, TypeExpr.occurrencesList, TypeExpr.replaceList]
    exact .bind ha (.map (ih has) _)

include hmeaning

theorem convert_name_denotes (name : String) (span : Span) :
    Denotes (convert id (.name name span)) s id [(name, span)] (meaning name) := by
  have hresolve {entity : Entity} (hfind : s.arena.find id name = .ok (some entity)) :
      convert id (.name name span) s =
        Check.require entity.denotedType? (.notAType name) span s := by
    rw [convert]
    refine Check.bind_eq_of_left ?_ _
    rw [Check.resolve, Arena.resolve, hfind]
  constructor
  · intro h
    obtain ⟨ty, hty⟩ := h _ List.mem_cons_self
    obtain ⟨entity, hfind, hdenoted⟩ := Arena.namesType_iff.mp hty
    rw [hmeaning name ty hty, hresolve hfind, hdenoted]
    rfl
  · intro d h
    obtain ⟨cause, hoffends, rfl⟩ := h.of_singleton
    cases hoffends with
    | undeclared hfind =>
      rw [convert]
      refine Check.bind_eq_error_of_left ?_ _
      rw [Check.resolve, Arena.resolve, hfind]
    | @notAType entity hfind hno =>
      have hnone : entity.denotedType? = none := Option.eq_none_iff_forall_ne_some.mpr
        fun ty hty => hno ty (Arena.namesType_iff.mpr ⟨entity, hfind, hty⟩)
      rw [hresolve hfind, hnone]
      rfl

/-- **A type expression is converted name by name**, as it is written. -/
theorem convert_denotes (a : TypeExpr) :
    Denotes (convert id a) s id a.occurrences (a.replace meaning) := by
  induction a with
  | name name span => exact convert_name_denotes hmeaning name span
  | array element ih =>
    rw [convert, TypeExpr.occurrences, TypeExpr.replace]
    exact .map ih _
  | map key value ihkey ihvalue =>
    rw [convert, TypeExpr.occurrences, TypeExpr.replace]
    exact .bind ihkey (.map ihvalue _)
  | function params result ihparams ihresult =>
    rw [convert, TypeExpr.occurrences, TypeExpr.replace]
    exact .bind (convertList_denotes ihparams) (.map ihresult _)

theorem convertResult_denotes (result : Option TypeExpr) :
    Denotes (convertResult id result) s id ((result.map TypeExpr.occurrences).getD [])
      ((result.map (TypeExpr.replace meaning)).getD .none) := by
  cases result with
  | none => exact .pure _
  | some a => exact convert_denotes hmeaning a

end Conversion

/-! ### Function declarations -/

/-- The signature that a function writes: first the result is converted, then the parameters
are. -/
def convertSignature (id : ScopeId) (decl : FnDecl Stmt) : Check Signature := do
  let result ← convertResult id decl.result
  let tys ← convertParams id decl.params
  return ⟨tys, result⟩

/-- The part of a function that follows its signature. -/
def checkFunctionWith (owner : Option ClassRef) (id : ScopeId) (decl : FnDecl Stmt)
    (signature : Signature) : Check (Checked.Function Checked.Stmt) := do
  let entity ← Check.newEntity (.function decl.name signature)
  Check.withChild id { inLoop := some false, function := some entity } fun inner => do
    let params ← declareParams inner decl.params signature.params
    declareMethod owner decl.name signature decl.span
    Check.declare id decl.name entity decl.span
    let body ← checkBlock inner decl.body
    return ⟨entity, params, signature.result, body, decl.span⟩

/-- A function is checked by its signature first. -/
theorem checkFunction_eq_signature (owner : Option ClassRef) (id : ScopeId) (decl : FnDecl Stmt) :
    checkFunction owner id decl = convertSignature id decl >>= checkFunctionWith owner id decl := by
  obtain ⟨name, params, result, body, span⟩ := decl
  rw [checkFunction, convertSignature]
  simp only [bind_assoc, pure_bind]
  rfl

/-- **The signature of a function is converted name by name**, those of the result first. -/
theorem convertSignature_denotes {s : State} {id : ScopeId} {meaning : String → Ty}
    (hmeaning : ∀ name ty, s.arena.NamesType id name ty → meaning name = ty) (decl : FnDecl Stmt) :
    Denotes (convertSignature id decl) s id decl.occurrences (decl.replace meaning) :=
  .bind (convertResult_denotes hmeaning decl.result)
    (.map (convertList_denotes fun a _ => convert_denotes hmeaning a) _)

/-- A function gets the signature that it is checked with. -/
theorem checkFunctionWith_signature {s t : State} {owner : Option ClassRef} {id : ScopeId}
    {decl : FnDecl Stmt} {signature : Signature} {f : Checked.Function Checked.Stmt}
    (h : checkFunctionWith owner id decl signature s = .ok f t) :
    f.entity.binding = .function decl.name signature ∧ f.result = signature.result := by
  have hentity : Check.Answers (Check.newEntity (.function decl.name signature)) (fun _ => True)
      (·.binding = .function decl.name signature) := by
    refine ⟨?_, fun _ => trivial⟩
    rintro s _ _ ⟨⟩
    rfl
  have hany {α : Type} (m : Check α) : m.Only fun _ => True :=
    ⟨fun _ => trivial, fun _ => trivial⟩
  have hanswers : Check.Answers (checkFunctionWith owner id decl signature) (fun _ => True)
      fun f => f.entity.binding = .function decl.name signature ∧ f.result = signature.result := by
    refine .bind hentity fun entity hbinding => .withChild fun inner => ?_
    refine .next (hany _) fun params => .next (hany _) fun _ => .next (hany _) fun _ => ?_
    exact .next (hany _) fun body => .pure ⟨hbinding, rfl⟩
  exact hanswers.ok h

/-! ### Outcomes -/

/-- Every name that stands for a type has a meaning. -/
theorem Arena.exists_meaning (a : Arena) (id : ScopeId) :
    ∃ meaning : String → Ty, ∀ name ty, a.NamesType id name ty → meaning name = ty := by
  classical
  refine ⟨fun name => if h : ∃ ty, a.NamesType id name ty then h.choose else .none, ?_⟩
  intro name ty hty
  have h : ∃ ty, a.NamesType id name ty := ⟨ty, hty⟩
  exact (dif_pos h).trans (h.choose_spec.unique hty)

/-- **Types are read by resolving names, from left to right.** Take a state whose scopes are
well-formed, and one of its scopes. A type expression is converted exactly if all of its names
resolve to a class or a type from there; then the type has the structure of the expression, with
each name replaced by what it stands for. Otherwise the first name that does not is refused, at
its span: as undeclared if it does not resolve, and as no type if it resolves to something else.

A function declaration goes through the names of its result first, and then through those of its
parameters, as they resolve around the declaration. It is refused for the first that stands for no
type, and otherwise is checked with the signature in which each name is replaced by what it stands
for there. Its name and the names of its parameters have no part in this. -/
theorem convert_resolves {s : State} {id : ScopeId} (hs : s.arena.WellFormed)
    (hid : id < s.arena.size) :
    ∃ meaning : String → Ty, (∀ name ty, s.arena.NamesType id name ty → meaning name = ty) ∧
      (∀ a : TypeExpr,
        (∀ ty t, convert id a s = .ok ty t ↔
          (∀ o ∈ a.occurrences, ∃ ty, s.arena.NamesType id o.1 ty) ∧ ty = a.replace meaning ∧
            t = s) ∧
        ∀ e t, convert id a s = .error e t ↔
          ∃ d, s.arena.FirstOffence id a.occurrences d ∧ e = .refused d ∧ t = s) ∧
      ∀ owner decl,
        (∀ d, s.arena.FirstOffence id decl.occurrences d →
          checkFunction owner id decl s = .error (.refused d) s) ∧
        ((∀ o ∈ decl.occurrences, ∃ ty, s.arena.NamesType id o.1 ty) →
          checkFunction owner id decl s =
            checkFunctionWith owner id decl (decl.replace meaning) s) ∧
        ∀ f t, checkFunction owner id decl s = .ok f t →
          (∀ o ∈ decl.occurrences, ∃ ty, s.arena.NamesType id o.1 ty) ∧
          f.entity.binding = .function decl.name (decl.replace meaning) ∧
          f.result = (decl.replace meaning).result := by
  have hlive : s.arena.Live id := ⟨hs, hid⟩
  obtain ⟨meaning, hmeaning⟩ := s.arena.exists_meaning id
  refine ⟨meaning, hmeaning, fun a => ?_, fun owner decl => ?_⟩
  · have hdenotes := convert_denotes hmeaning a
    refine ⟨fun ty t => ⟨fun h => ?_, ?_⟩, fun e t => ⟨fun h => ?_, ?_⟩⟩
    · rcases hlive.all_or_firstOffence a.occurrences with hall | ⟨d, hd⟩
      · cases (hdenotes.ok hall).symm.trans h
        exact ⟨hall, rfl, rfl⟩
      · cases (hdenotes.refused d hd).symm.trans h
    · rintro ⟨hall, rfl, rfl⟩
      exact hdenotes.ok hall
    · rcases hlive.all_or_firstOffence a.occurrences with hall | ⟨d, hd⟩
      · cases (hdenotes.ok hall).symm.trans h
      · cases (hdenotes.refused d hd).symm.trans h
        exact ⟨d, hd, rfl, rfl⟩
    · rintro ⟨d, hd, rfl, rfl⟩
      exact hdenotes.refused d hd
  · have hdenotes := convertSignature_denotes hmeaning decl
    have hrefused (d : Diagnostic) (hd : s.arena.FirstOffence id decl.occurrences d) :
        checkFunction owner id decl s = .error (.refused d) s := by
      rw [checkFunction_eq_signature]
      exact Check.bind_eq_error_of_left (hdenotes.refused d hd) _
    have hgoes (hall : ∀ o ∈ decl.occurrences, ∃ ty, s.arena.NamesType id o.1 ty) :
        checkFunction owner id decl s =
          checkFunctionWith owner id decl (decl.replace meaning) s := by
      rw [checkFunction_eq_signature]
      exact Check.bind_eq_of_left (hdenotes.ok hall) _
    refine ⟨hrefused, hgoes, fun f t hrun => ?_⟩
    rcases hlive.all_or_firstOffence decl.occurrences with hall | ⟨d, hd⟩
    · exact ⟨hall, checkFunctionWith_signature ((hgoes hall).symm.trans hrun)⟩
    · cases (hrefused d hd).symm.trans hrun

/-- The harbour with a variable called `shanty` in the class, which hides the built-in type. -/
def songHarbour : State :=
  { harbour with arena := harbour.arena.extend 1 [("shanty", ⟨9, .var "shanty" .int⟩)] }

theorem songHarbour_wellFormed : songHarbour.arena.WellFormed :=
  harbour_wellFormed.extend 1 _

/-- A function called `int`, with a parameter called `int`, from arrays of `int` to `int`. -/
def intFunction : FnDecl Stmt :=
  ⟨"int", [⟨"int", .array (.named "int"), .null⟩], some (.named "int"), ⟨[], .null⟩, .null⟩

/-- A function with a type that is hidden in its parameter, and one that is not declared in its
result. -/
def songFunction : FnDecl Stmt :=
  ⟨"sing", [⟨"song", .name "shanty" ⟨⟨14, "log"⟩, ⟨19, "log"⟩⟩, .null⟩],
    some (.name "Choir" ⟨⟨24, "log"⟩, ⟨28, "log"⟩⟩), ⟨[], .null⟩, .null⟩

/-- In the class, a function called `int` still has the built-in type in its signature. The hidden
type is no type there. And a result that is not declared is refused before a parameter that is no
type. -/
theorem songHarbour_resolves :
    songHarbour.arena.WellFormed ∧ 1 < songHarbour.arena.size ∧
    (∃ f t, checkFunction none 1 intFunction songHarbour = .ok f t ∧
      f.entity.binding = .function "int" ⟨[.array .int], .int⟩) ∧
    convert 1 (.map (.named "int") (.name "shanty" ⟨⟨14, "log"⟩, ⟨19, "log"⟩⟩)) songHarbour =
      .error (.refused ⟨.notAType "shanty", some ⟨14, "log"⟩⟩) songHarbour ∧
    checkFunction none 1 songFunction songHarbour =
      .error (.refused ⟨.undeclaredIdentifier "Choir", some ⟨24, "log"⟩⟩) songHarbour := by
  obtain ⟨meaning, hmeaning, hconvert, hfunction⟩ :=
    @convert_resolves songHarbour 1 songHarbour_wellFormed (by decide)
  have hfound : songHarbour.arena.find 1 "int" = .ok (some ⟨0, .typeName .int⟩) := rfl
  have hint : songHarbour.arena.NamesType 1 "int" .int := .type hfound
  have hshanty : songHarbour.arena.find 1 "shanty" = .ok (some ⟨9, .var "shanty" .int⟩) := rfl
  have hchoir : songHarbour.arena.find 1 "Choir" = .ok none := rfl
  refine ⟨songHarbour_wellFormed, by decide, ?_, ?_, ?_⟩
  · have haccepted : (match checkFunction none 1 intFunction songHarbour with
        | .ok _ _ => true
        | .error _ _ => false) = true := by decide +kernel
    split at haccepted
    · next f t hrun =>
      obtain ⟨-, hbinding, -⟩ := (hfunction none intFunction).2.2 f t hrun
      refine ⟨f, t, hrun, hbinding.trans ?_⟩
      rw [show intFunction.replace meaning = ⟨[.array (meaning "int")], meaning "int"⟩ from rfl,
        hmeaning _ _ hint]
      rfl
    · cases haccepted
  · refine ((hconvert _).2 _ _).mpr ⟨_, ⟨[("int", .null)], "shanty", _, [], _, rfl, ?_,
      .notAType hshanty fun ty hty => ?_, rfl⟩, rfl, rfl⟩
    · exact List.forall_mem_singleton.mpr ⟨_, hint⟩
    · obtain ⟨entity, hfind, hdenoted⟩ := Arena.namesType_iff.mp hty
      cases hshanty.symm.trans hfind
      cases hdenoted
  · exact (hfunction none songFunction).1 _
      ⟨[], "Choir", _, _, _, rfl, List.forall_mem_nil _, .undeclared hchoir, rfl⟩

end Shipshape
