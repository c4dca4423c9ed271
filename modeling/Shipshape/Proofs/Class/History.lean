import Shipshape.Check.Monad
import Shipshape.Proofs.Class.Growth

/-!
# The history of a class

A class is made without members, and then grows by calls: a field is added, a method is added, or
the constructor is set. The calls may come in any order, with any names and types.

* `Shipshape.MemberCall` – such a call;
* `Shipshape.MemberCall.Free`, `Shipshape.MemberCall.apply` – when a call is accepted, and what
  it makes of a class;
* `Shipshape.MemberCall.run_of_free`, `Shipshape.MemberCall.run_of_not_free` – one call: it is
  accepted and changes one class in one respect, or it is refused and changes nothing;
* `Shipshape.ClassInfo.Made` – what many calls make of a class, given which of them were accepted;
* `Shipshape.MemberCall.Free.callable`, `Shipshape.MemberCall.Free.distinct` – one call keeps every
  method a function, and no name given twice;
* `Shipshape.MemberCall.runAll_makes` – many calls, by induction;
* `Shipshape.classHistory_write_once` – the members of a class are tables that are written once,
  in order, whatever the calls.

## Two invariants

That no name is given twice is an invariant of the history and not of the type: it rests on every
call looking the name up in the table it is about to write to. For a method this is not enough by
itself. A look-up passes over a member that is not a function, so a method could be added beside
such a member of its name. But no call ever adds one, and this is the other invariant
(`Shipshape.ClassInfo.Callable`), on which the first rests.
-/

namespace Shipshape

/-- A call that changes what is known about a class. -/
inductive MemberCall where
  /-- Adds a field. -/
  | addField (name : String) (ty : Ty)
  /-- Adds a method. -/
  | addMethod (name : String) (signature : Signature)
  /-- Sets the constructor. -/
  | setCtor (signature : Signature)
deriving Inhabited, Repr

namespace ClassTable

variable {t : ClassTable} {cls : ClassRef}

theorem set_info (h : cls.id < t.size) : t.set cls (t.info cls) = t := by
  have hlt : cls.id < t.infos.length := h
  simp [set, info, hlt]

@[simp] theorem size_set (t : ClassTable) (cls : ClassRef) (c : ClassInfo) :
    (t.set cls c).size = t.size := by
  simp [set, size]

@[simp] theorem set_set (t : ClassTable) (cls : ClassRef) (c d : ClassInfo) :
    (t.set cls c).set cls d = t.set cls d := by
  simp [set]

theorem info_set_self (h : cls.id < t.size) (c : ClassInfo) : (t.set cls c).info cls = c := by
  have hlt : cls.id < t.infos.length := h
  simp [set, info, hlt]

theorem info_set_of_ne {other : ClassRef} (h : cls.id ≠ other.id) (c : ClassInfo) :
    (t.set cls c).info other = t.info other := by
  simp [set, info, h]

end ClassTable

/-! ### One call -/

namespace MemberCall

/-- Makes the call on a class, and says whether it was accepted. A constructor can always be
set. -/
def run (cls : ClassRef) : MemberCall → Check Bool
  | .addField name ty => Check.addField cls name ty
  | .addMethod name signature => Check.addMethod cls name signature
  | .setCtor signature => do
    Check.setCtor cls signature
    return true

/-- **The call is accepted**: the name is not in the list that the call adds to. -/
def Free (c : ClassInfo) : MemberCall → Prop
  | .addField name _ => name ∉ c.fields.map Prod.fst
  | .addMethod name _ => name ∉ c.methodTypes.map Prod.fst
  | .setCtor _ => True

/-- **The class after a call** that is accepted: one list has one more entry at its end, or there
is another constructor. -/
def apply (c : ClassInfo) : MemberCall → ClassInfo
  | .addField name ty => { c with fields := c.fields ++ [(name, ty)] }
  | .addMethod name signature =>
    { c with methodTypes := c.methodTypes ++ [(name, signature.toTy)] }
  | .setCtor signature => { c with ctor := signature }

variable {s : State} {cls : ClassRef} {call : MemberCall}

/-- **A call whose name is free is accepted**, and changes what is known about one class. -/
theorem run_of_free (h : call.Free (s.classes.info cls)) :
    call.run cls s =
      .ok true { s with classes := s.classes.set cls (call.apply (s.classes.info cls)) } := by
  cases call with
  | addField name ty =>
    have hfree : (s.classes.info cls).field? name = none :=
      ClassInfo.lookup_eq_none_iff_notMem.mpr h
    simp only [run, Check.addField, ClassTable.addField?, ClassInfo.addField?, hfree,
      Option.map_some, apply]
  | addMethod name signature =>
    have hfree : (s.classes.info cls).method? name = none :=
      ClassInfo.method?_eq_none_of_notMem h
    simp only [run, Check.addMethod, ClassTable.addMethod?, ClassInfo.addMethod?, hfree,
      Option.map_some, apply]
  | setCtor signature => rfl

/-- **A call whose name is taken is refused**, and changes nothing. For a method this needs that
what has its name is a function. -/
theorem run_of_not_free (hc : (s.classes.info cls).Callable)
    (h : ¬call.Free (s.classes.info cls)) : call.run cls s = .ok false s := by
  cases call with
  | addField name ty =>
    have htaken : (s.classes.info cls).addField? name ty = none :=
      ClassInfo.addField?_eq_none_iff.mpr (not_not.mp h)
    simp only [run, Check.addField, ClassTable.addField?, htaken, Option.map_none]
  | addMethod name signature =>
    have hmem : name ∈ (s.classes.info cls).methodTypes.map Prod.fst := not_not.mp h
    have htaken : (s.classes.info cls).addMethod? name signature = none :=
      ClassInfo.addMethod?_eq_none_iff.mpr (hc.method?_isSome_iff.mpr hmem)
    simp only [run, Check.addMethod, ClassTable.addMethod?, htaken, Option.map_none]
  | setCtor signature => exact absurd trivial h

-- Where it is not, the call is accepted and the name is given twice.
example :
    (⟨"Raft", ⟨[], .none⟩, [], [("drift", .int)]⟩ : ClassInfo).addMethod? "drift" ⟨[], .none⟩ =
      some ⟨"Raft", ⟨[], .none⟩, [], [("drift", .int), ("drift", .function [] .none)]⟩ :=
  rfl

/-- No name is given twice by a call that is accepted. -/
theorem Free.distinct {c : ClassInfo} (h : call.Free c) (hc : c.Distinct) :
    (call.apply c).Distinct := by
  cases call with
  | addField name ty => simpa [apply, ClassInfo.gain] using hc.addField h
  | addMethod name signature => simpa [apply, ClassInfo.gain] using hc.addMethod h
  | setCtor signature => exact ⟨hc.fields, hc.methods⟩

/-- Every method is a function after a call that is accepted. -/
theorem Free.callable {c : ClassInfo} (h : call.Free c) (hc : c.Callable) :
    (call.apply c).Callable := by
  cases call with
  | addField name ty => exact hc
  | addMethod name signature =>
    exact List.forall_mem_append.mpr ⟨hc, List.forall_mem_singleton.mpr ⟨signature, rfl⟩⟩
  | setCtor signature => exact hc

/-! ### Many calls -/

/-- Makes calls on a class one after another, and hands back the answers. -/
def runAll (cls : ClassRef) : List MemberCall → Check (List Bool)
  | [] => return []
  | call :: calls => do
    let answer ← call.run cls
    let answers ← runAll cls calls
    return answer :: answers

/-- The calls that were accepted, in order. -/
def accepted (calls : List MemberCall) (answers : List Bool) : List MemberCall :=
  (calls.zip answers).filterMap fun p => if p.2 then some p.1 else none

/-- The field that a call adds, if it adds one. -/
def field? : MemberCall → Option (String × Ty)
  | .addField name ty => some (name, ty)
  | .addMethod _ _ | .setCtor _ => none

/-- The method that a call adds, if it adds one. -/
def method? : MemberCall → Option (String × Signature)
  | .addMethod name signature => some (name, signature)
  | .addField _ _ | .setCtor _ => none

/-- The constructor that a call sets, if it sets one. -/
def ctor? : MemberCall → Option Signature
  | .setCtor signature => some signature
  | .addField _ _ | .addMethod _ _ => none

end MemberCall

/-- **What calls make of a class**, given their answers: each list has the entries that were
accepted, in the order of the calls, and the constructor is the last one that was set. -/
structure ClassInfo.Made (c : ClassInfo) (calls : List MemberCall) (answers : List Bool)
    (d : ClassInfo) : Prop where
  /-- Every call is answered. -/
  length : answers.length = calls.length
  /-- The name stays. -/
  name : d.name = c.name
  /-- The fields. -/
  fields : d.fields = c.fields ++ (MemberCall.accepted calls answers).filterMap MemberCall.field?
  /-- The methods. -/
  methods : d.methodTypes = c.methodTypes ++
    ((MemberCall.accepted calls answers).filterMap MemberCall.method?).map
      fun m => (m.1, m.2.toTy)
  /-- The constructor. -/
  ctor : d.ctor =
    ((MemberCall.accepted calls answers).filterMap MemberCall.ctor?).getLast?.getD c.ctor

namespace ClassInfo.Made

variable {c d : ClassInfo} {calls : List MemberCall} {answers : List Bool}

theorem nil (c : ClassInfo) : c.Made [] [] c where
  length := rfl
  name := rfl
  fields := (List.append_nil _).symm
  methods := (List.append_nil _).symm
  ctor := rfl

/-- A call that is refused makes nothing of a class. -/
theorem refused (h : c.Made calls answers d) (call : MemberCall) :
    c.Made (call :: calls) (false :: answers) d where
  length := congrArg (· + 1) h.length
  name := h.name
  fields := h.fields
  methods := h.methods
  ctor := h.ctor

/-- A call that is accepted comes before the calls that follow it. -/
theorem accepted {call : MemberCall} (h : (call.apply c).Made calls answers d) :
    c.Made (call :: calls) (true :: answers) d := by
  have hcons : MemberCall.accepted (call :: calls) (true :: answers) =
      call :: MemberCall.accepted calls answers := rfl
  refine ⟨congrArg (· + 1) h.length, ?_, ?_, ?_, ?_⟩
  · cases call <;> exact h.name
  · rw [hcons, h.fields]
    cases call <;> simp [MemberCall.apply, MemberCall.field?, List.filterMap_cons]
  · rw [hcons, h.methods]
    cases call <;> simp [MemberCall.apply, MemberCall.method?, List.filterMap_cons]
  · rw [hcons, h.ctor]
    cases call <;>
      simp [MemberCall.apply, MemberCall.ctor?, List.filterMap_cons, List.getLast?_cons]

/-- **What was found in a class is found after all calls**: fields. -/
theorem field? (h : c.Made calls answers d) {x : String} {ty : Ty} (hx : c.field? x = some ty) :
    d.field? x = some ty := by
  rw [ClassInfo.field?, h.fields]
  exact lookup_append_of_eq_some hx _

/-- **What was found in a class is found after all calls**: methods. -/
theorem method? (h : c.Made calls answers d) {x : String} {signature : Signature}
    (hx : c.method? x = some signature) : d.method? x = some signature := by
  obtain ⟨ty, hlookup, hty⟩ := Option.bind_eq_some_iff.mp hx
  rw [ClassInfo.method?, h.methods, lookup_append_of_eq_some hlookup]
  exact hty

end ClassInfo.Made

namespace MemberCall

/-- **Calls one after another** change nothing but what is known about the class, and make of it
what `Shipshape.ClassInfo.Made` says. If every method was a function, then every method is one; and
if no name was given twice before, then none is. -/
theorem runAll_makes {s : State} {cls : ClassRef} (hcls : cls.id < s.classes.size)
    (hcallable : (s.classes.info cls).Callable) (calls : List MemberCall) :
    ∃ answers d, runAll cls calls s = .ok answers { s with classes := s.classes.set cls d } ∧
      (s.classes.info cls).Made calls answers d ∧ d.Callable ∧
      ((s.classes.info cls).Distinct → d.Distinct) := by
  induction calls generalizing s with
  | nil =>
    refine ⟨[], s.classes.info cls, ?_, .nil _, hcallable, fun h => h⟩
    rw [ClassTable.set_info hcls]
    rfl
  | cons call calls ih =>
    by_cases hfree : call.Free (s.classes.info cls)
    · -- The calls that follow find the class as this one has left it.
      set c := call.apply (s.classes.info cls) with hc
      have hinfo : (s.classes.set cls c).info cls = c := ClassTable.info_set_self hcls c
      obtain ⟨answers, d, hrun, hmade, hd, hdistinct⟩ :=
        ih (s := { s with classes := s.classes.set cls c }) (by rwa [ClassTable.size_set])
          (hinfo.symm ▸ hfree.callable hcallable)
      rw [hinfo] at hmade hdistinct
      rw [ClassTable.set_set] at hrun
      refine ⟨true :: answers, d, ?_, hmade.accepted, hd, fun h => hdistinct (hfree.distinct h)⟩
      rw [runAll]
      simp only [Bind.bind, EStateM.bind, run_of_free hfree, ← hc, hrun]
      rfl
    · obtain ⟨answers, d, hrun, hmade, hd, hdistinct⟩ := ih hcls hcallable
      refine ⟨false :: answers, d, ?_, hmade.refused call, hd, hdistinct⟩
      rw [runAll]
      simp only [Bind.bind, EStateM.bind, run_of_not_free hcallable hfree, hrun]
      rfl

end MemberCall

/-! ### From the beginning -/

/-- **The history of a class**: it is made, and then calls are made on it. What comes back is the
class and the answers. -/
def classHistory (name : String) (calls : List MemberCall) : Check (ClassRef × List Bool) := do
  let cls ← Check.newClass name
  let answers ← MemberCall.runAll cls calls
  return (cls, answers)

/-- A class that is made is there, and has no members. -/
theorem ClassTable.info_add (t : ClassTable) (name : String) :
    (t.add name).2.id < (t.add name).1.size ∧
      (t.add name).1.info (t.add name).2 = .new name := by
  simp [add, size, info]

/-- **The members of a class are tables that are written once, in order.** Take a class after any
calls, in any order and with any names and types.

The fields are those that were accepted, in order, and so are the methods; no name is given to two
fields or to two methods. A look-up succeeds for exactly the names in the list: whatever has the
name of a method is a function, so none is passed over. The next call is accepted exactly if its
name is not in the list that it adds to, and then adds one entry to this list, or replaces the
constructor, and does nothing else, to this class or to another one; otherwise it changes nothing.
And after all later calls a look-up that succeeded finds the same. -/
theorem classHistory_write_once (s : State) (name : String) (calls : List MemberCall) :
    ∃ cls answers t c, classHistory name calls s = .ok (cls, answers) t ∧
      t.classes.info cls = c ∧
      (ClassInfo.new name).Made calls answers c ∧
      c.Distinct ∧
      (∀ x, (c.field? x).isSome = true ↔ x ∈ c.fields.map Prod.fst) ∧
      (∀ x, (c.method? x).isSome = true ↔ x ∈ c.methodTypes.map Prod.fst) ∧
      (∀ x ty, (x, ty) ∈ c.methodTypes → ∃ signature : Signature, ty = signature.toTy) ∧
      c.methods = (MemberCall.accepted calls answers).filterMap MemberCall.method? ∧
      (∀ call : MemberCall, call.Free c → ∃ u, call.run cls t = .ok true u ∧
        u.classes.info cls = call.apply c ∧
        ∀ other : ClassRef, other.id ≠ cls.id → u.classes.info other = t.classes.info other) ∧
      (∀ call : MemberCall, ¬call.Free c → call.run cls t = .ok false t) ∧
      ∀ later, ∃ more u, MemberCall.runAll cls later t = .ok more u ∧
        (∀ x ty, c.field? x = some ty → (u.classes.info cls).field? x = some ty) ∧
        ∀ x signature, c.method? x = some signature →
          (u.classes.info cls).method? x = some signature := by
  obtain ⟨hlt, hnew⟩ := s.classes.info_add name
  set cls := (s.classes.add name).2
  set start : State := { s with classes := (s.classes.add name).1 }
  replace hnew : start.classes.info cls = .new name := hnew
  obtain ⟨answers, c, hrun, hmade, hcallable, hdistinct⟩ :=
    MemberCall.runAll_makes (s := start) hlt (hnew ▸ .new name) calls
  set t : State := { start with classes := start.classes.set cls c }
  have hinfo : t.classes.info cls = c := ClassTable.info_set_self hlt c
  have hthere : cls.id < t.classes.size := by rwa [ClassTable.size_set]
  have hhistory : classHistory name calls s = .ok (cls, answers) t := by
    show (MemberCall.runAll cls calls >>= fun answers => pure (cls, answers)) start = _
    simp only [Bind.bind, EStateM.bind, hrun]
    rfl
  rw [hnew] at hmade hdistinct
  have hmethods : c.methods = (MemberCall.accepted calls answers).filterMap MemberCall.method? := by
    rw [ClassInfo.methods, hmade.methods]
    exact ClassInfo.filterMap_toTy _
  refine ⟨cls, answers, t, c, hhistory, hinfo, hmade, hdistinct ⟨List.nodup_nil, List.nodup_nil⟩,
    fun _ => ClassInfo.lookup_isSome_iff, fun _ => hcallable.method?_isSome_iff,
    fun x ty => hcallable (x, ty), hmethods, fun call hfree => ?_, fun call hfree => ?_,
    fun later => ?_⟩
  · refine ⟨_, MemberCall.run_of_free (hinfo ▸ hfree), ?_, fun other hother => ?_⟩
    · rw [hinfo]
      exact ClassTable.info_set_self hthere _
    · exact ClassTable.info_set_of_ne hother.symm _
  · exact MemberCall.run_of_not_free (hinfo ▸ hcallable) (hinfo ▸ hfree)
  · obtain ⟨more, d, hlater, hmore, -⟩ := MemberCall.runAll_makes hthere (hinfo ▸ hcallable) later
    rw [hinfo] at hmore
    refine ⟨more, _, hlater, fun x ty hx => ?_, fun x signature hx => ?_⟩
    · rw [ClassTable.info_set_self hthere]
      exact hmore.field? hx
    · rw [ClassTable.info_set_self hthere]
      exact hmore.method? hx

/-- A field, a method of the same name, the field once more, and a constructor. -/
def sloopCalls : List MemberCall :=
  [.addField "mast" .int, .addMethod "mast" ⟨[], .int⟩, .addField "mast" .string,
    .setCtor ⟨[.int], .none⟩]

/-- A field and a method of the sloop share a name; the field keeps its first type; another field
is accepted, and another method of the name is refused. -/
theorem sloopCalls_write_once :
    ∃ cls t c, classHistory "Sloop" sloopCalls (.initial defaultLimit) =
        .ok (cls, [true, true, false, true]) t ∧
      t.classes.info cls = c ∧
      c = ⟨"Sloop", ⟨[.int], .none⟩, [("mast", .int)], [("mast", .function [] .int)]⟩ ∧
      (MemberCall.addField "boom" .bool).Free c ∧
      (∃ u, (MemberCall.addField "boom" .bool).run cls t = .ok true u ∧
        u.classes.info cls = (MemberCall.addField "boom" .bool).apply c) ∧
      ¬(MemberCall.addMethod "mast" ⟨[], .bool⟩).Free c ∧
      (MemberCall.addMethod "mast" ⟨[], .bool⟩).run cls t = .ok false t := by
  obtain ⟨cls, answers, t, c, hrun, hinfo, hmade, -, -, -, -, -, hfree, htaken, -⟩ :=
    classHistory_write_once (.initial defaultLimit) "Sloop" sloopCalls
  have hanswers : answers = [true, true, false, true] := by
    have hmap : (match classHistory "Sloop" sloopCalls (.initial defaultLimit) with
      | .ok r _ => r.2
      | .error _ _ => []) = [true, true, false, true] := by decide +kernel
    rw [hrun] at hmap
    exact hmap
  subst hanswers
  obtain rfl : c = ⟨"Sloop", ⟨[.int], .none⟩, [("mast", .int)], [("mast", .function [] .int)]⟩ := by
    obtain ⟨className, ctor, fields, methods⟩ := c
    rw [ClassInfo.mk.injEq]
    exact ⟨hmade.name, hmade.ctor, hmade.fields, hmade.methods⟩
  have hboom : "boom" ∉ ["mast"] := by decide
  have hmast : ¬"mast" ∉ ["mast"] := by decide
  obtain ⟨u, hu, hadded, -⟩ := hfree (.addField "boom" .bool) hboom
  exact ⟨cls, t, _, hrun, hinfo, rfl, hboom, ⟨u, hu, hadded⟩, hmast,
    htaken (.addMethod "mast" ⟨[], .bool⟩) hmast⟩

end Shipshape
