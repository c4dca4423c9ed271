import Mathlib.Logic.Equiv.Basic
import Shipshape.Proofs.Lexical.Simulation
import Shipshape.Proofs.Respelling.Stmt

/-!
# A check does not see the spelling

* `Shipshape.checkProgram_echoes` – a program and the program respelled are both accepted, with
  checked programs that are respelled alike, or both refused, with diagnostics that say the same;
* `Shipshape.checkProgram_renaming` – so a check commutes with every renaming that keeps
  different names apart and the built-in names in place;
* `Shipshape.checkProgram_blank` – and two programs that differ only in spans and in the values
  of constants are accepted with checked programs that differ only there, or refused for the
  same reason.

The last follows from the first, since two such programs are the same once they are blanked, and
blanking keeps names. What keeps names changes neither a type nor what is known about a class
(`Shipshape.Ty.respell_of_name_eq`, `Shipshape.ClassTable.respell_of_name_eq`). The numbers of
entities and classes need no care: the two runs give them out in the same order.
-/

namespace Shipshape

/-! ### Programs -/

/-- A check of a program goes through its statements by lexical scoping. -/
theorem checkProgram_eq_run (limit : Nat) (p : Program) :
    checkProgram limit p =
      match Lexical.stmts (.root limit) p.body ⟨.empty, builtInEntities.length⟩ with
      | .ok body σ => .ok ⟨body, p.span, σ.classes⟩
      | .error d _ => .error (.refused d) := by
  rw [checkProgram]
  rcases (checkStmts_initial_agree limit p.body).cases with
    ⟨ys, s, zs, σ, hcheck, hlexical, rfl, names, rfl⟩ | ⟨d, s, σ, hcheck, hlexical⟩
  · rw [hcheck, hlexical]
    rfl
  · rw [hcheck, hlexical]

/-- **A check says the same about a respelled program.** -/
theorem checkProgram_echoes (f : Respelling) (limit : Nat) (p : Program) :
    (∃ t, checkProgram limit p = .ok t ∧ checkProgram limit (p.respell f) = .ok (t.respell f)) ∨
      ∃ d d', d.Respells f d' ∧ checkProgram limit p = .error (.refused d) ∧
        checkProgram limit (p.respell f) = .error (.refused d') := by
  have hbody : ∀ x ∈ p.body, Lexical.StmtEchoes f x := fun x _ => Lexical.stmt_echoes x
  have hrun := Lexical.stmts_echoes hbody (.root limit) ⟨.empty, builtInEntities.length⟩
  rw [Lexical.Env.respell_root] at hrun
  rw [checkProgram_eq_run, checkProgram_eq_run]
  -- Nothing is known about classes at the start, so there is nothing to respell.
  change Lexical.RunEchoes f _ _ (Lexical.stmts (.root limit) (p.respell f).body
    ⟨.empty, builtInEntities.length⟩) at hrun
  generalize Lexical.stmts _ p.body _ = run at hrun ⊢
  generalize Lexical.stmts _ (p.respell f).body _ = run' at hrun ⊢
  cases hrun with
  | ok body σ => exact .inl ⟨_, rfl, rfl⟩
  | error hd => exact .inr ⟨_, _, hd, rfl, rfl⟩

/-! ### Names -/

/-- Reasons that say the same have one name. -/
theorem Cause.Respells.name_eq {f : Respelling} {c c' : Cause} (h : c.Respells f c') :
    c'.name = c.name := by
  cases h <;> rfl

/-- **A check commutes with renaming.** Let `r` be a map of names that keeps different names
different and the built-in names as they are. Whatever the limit, the program in which all names
are renamed is accepted exactly when the program is; then its checked form is that of the program
with all names renamed, in nodes, entities, types and members of classes; and if the program is
refused, the other is refused for a reason of the same name, with the same numbers and flags, at
the same position. -/
theorem checkProgram_renaming {r : String → String} (hinjective : Function.Injective r)
    (hbuiltIn : ∀ kind ∈ Scalar.builtIns, r kind.name = kind.name) (limit : Nat) (p : Program) :
    let f := Respelling.renaming r hinjective hbuiltIn
    ((checkProgram limit (p.respell f)).isOk = (checkProgram limit p).isOk) ∧
      (∀ t, checkProgram limit p = .ok t → checkProgram limit (p.respell f) = .ok (t.respell f)) ∧
      ∀ e, checkProgram limit p = .error e → ∃ d cause, e = .refused d ∧
        checkProgram limit (p.respell f) = .error (.refused ⟨cause, d.position⟩) ∧
        cause.name = d.cause.name ∧ d.cause.Respells f cause := by
  intro f
  rcases checkProgram_echoes f limit p with ⟨t, hp, hq⟩ | ⟨d, d', hd, hp, hq⟩
  · rw [hp, hq]
    refine ⟨rfl, fun u hu => ?_, fun _ he => nomatch he⟩
    obtain rfl := Except.ok.inj hu
    rfl
  · rw [hp, hq]
    refine ⟨rfl, fun _ hu => (nomatch hu), fun e he => ?_⟩
    obtain rfl := Except.error.inj he
    have hposition : d'.position = d.position := hd.position.trans Option.map_id'
    refine ⟨d, d'.cause, rfl, ?_, hd.cause.name_eq, hd.cause⟩
    rw [← hposition]

/-- A class with a field, an object of it, and a variable of the same name as the object in a
function. -/
def mooringProgram : Program where
  body := [
    .classDecl {
      name := "Ship"
      params := [⟨"crew", .named "int", .null⟩]
      body := ⟨[.field (.named "int") "size" (.symbol "crew" .null) .null], .null⟩
      ctorSpan := .null
      methods := [⟨"count", [], some (.named "int"),
        ⟨[.ret (some (.member (.self .null) "size" .null)) .null], .null⟩, .null⟩]
      span := .null },
    .var "ship" (some (.named "Ship")) (.construct "Ship" [.literal (.int 3) .null] .null) .null,
    .function ⟨"moor", [⟨"ship", .array (.named "Ship"), .null⟩], none,
      ⟨[.print (.methodCall (.subscript (.symbol "ship" .null) (.literal (.int 0) .null) .null)
        "count" [] .null) .null], .null⟩, .null⟩]
  span := .null

/-- A name that is not declared. -/
def castOffProgram : Program where
  body := [.print (.member (.symbol "Ship" ⟨⟨7, "quay"⟩, ⟨11, "quay"⟩⟩) "size" .null) .null]
  span := .null

/-- The renaming that swaps the names of the class and of its field. -/
def mooringSwap : Respelling :=
  .renaming (Equiv.swap "Ship" "size") (Equiv.swap "Ship" "size").injective (by decide)

/-- With the names of the class and of its field swapped, the mooring is still accepted; and what
is not declared is still not declared, at the same position. -/
theorem mooringProgram_renaming :
    (∃ t, checkProgram defaultLimit mooringProgram = .ok t ∧
      checkProgram defaultLimit (mooringProgram.respell mooringSwap) =
        .ok (t.respell mooringSwap)) ∧
    ∃ cause, checkProgram defaultLimit (castOffProgram.respell mooringSwap) =
      .error (.refused ⟨cause, some ⟨7, "quay"⟩⟩) ∧ cause.name = "UndeclaredIdentifier" := by
  constructor
  · have haccepted : (checkProgram defaultLimit mooringProgram).isOk = true := by decide +kernel
    cases h : checkProgram defaultLimit mooringProgram with
    | error e =>
      rw [h] at haccepted
      cases haccepted
    | ok t =>
      have hrenamed := checkProgram_renaming mooringSwap.name_injective mooringSwap.name_builtIn
        defaultLimit mooringProgram
      exact ⟨t, rfl, hrenamed.2.1 t h⟩
  · have hrefused : checkProgram defaultLimit castOffProgram =
        .error (.refused ⟨.undeclaredIdentifier "Ship", some ⟨7, "quay"⟩⟩) := by rfl
    have hrenamed := checkProgram_renaming mooringSwap.name_injective mooringSwap.name_builtIn
      defaultLimit castOffProgram
    obtain ⟨d, cause, hd, hq, hname, -⟩ := hrenamed.2.2 _ hrefused
    obtain rfl := Failure.refused.inj hd
    exact ⟨cause, hq, hname⟩

/-! ### Spans and constants -/

section Names

variable {f : Respelling} (hname : ∀ name, f.name name = name)

include hname

theorem ClassRef.respell_of_name_eq (c : ClassRef) : c.respell f = c := by
  rw [ClassRef.respell, hname]

/-- **What keeps names changes no type.** -/
theorem Ty.respell_of_name_eq (ty : Ty) : ty.respell f = ty := by
  induction ty with
  | scalar kind => rfl
  | array element ih => rw [respell_array, ih]
  | map key value ihk ihv => rw [respell_map, ihk, ihv]
  | function params result ihp ihr =>
    rw [respell_function, respellTys_eq_map, List.map_congr_left ihp, List.map_id', ihr]
  | object cls => rw [respell_object, cls.respell_of_name_eq hname]

theorem Signature.respell_of_name_eq (s : Signature) : s.respell f = s := by
  rw [Signature.respell, respellTys_eq_map, funext (Ty.respell_of_name_eq hname), List.map_id']

/-- **What keeps names changes no entity.** -/
theorem Entity.respell_of_name_eq (e : Entity) : e.respell f = e := by
  obtain ⟨number, binding⟩ := e
  cases binding <;>
    simp [Entity.respell, Binding.respell, hname, ClassRef.respell_of_name_eq hname,
      Ty.respell_of_name_eq hname, Signature.respell_of_name_eq hname]

theorem ClassInfo.respell_of_name_eq (c : ClassInfo) : c.respell f = c := by
  have hnames : f.name = id := funext hname
  have hty : Ty.respell f = id := funext (Ty.respell_of_name_eq hname)
  have hsignature : Signature.respell f = id := funext (Signature.respell_of_name_eq hname)
  simp [ClassInfo.respell, hnames, hty, hsignature]

/-- **What keeps names changes nothing about classes.** -/
theorem ClassTable.respell_of_name_eq (t : ClassTable) : t.respell f = t := by
  rw [ClassTable.respell, funext (ClassInfo.respell_of_name_eq hname), List.map_id']

/-- Reasons name no span and no constant. -/
theorem Cause.Respells.eq_of_name_eq {c c' : Cause} (h : c.Respells f c') : c' = c := by
  cases h <;> simp [hname, Ty.respell_of_name_eq hname, Entity.respell_of_name_eq hname]

end Names

theorem ClassTable.respell_blank (t : ClassTable) : t.respell .blank = t :=
  t.respell_of_name_eq fun _ => rfl

theorem Cause.Respells.eq_of_blank {c c' : Cause} (h : c.Respells .blank c') : c' = c :=
  h.eq_of_name_eq fun _ => rfl

/-- **Spans and the values of constants do not matter.** Take two programs that differ only in
spans, of whatever they belong to, and in the values of constants of the same kind: they are the
same once they are blanked. Whatever the limit, both are accepted, with the same classes and with
checked programs that again differ only in spans and in those values; or both are refused for the
same reason, each at a position of its own. -/
theorem checkProgram_blank {p q : Program} (hpq : p.respell .blank = q.respell .blank)
    (limit : Nat) :
    (∃ t u, checkProgram limit p = .ok t ∧ checkProgram limit q = .ok u ∧
        t.respell .blank = u.respell .blank ∧ t.classes = u.classes) ∨
      ∃ cause position position',
        checkProgram limit p = .error (.refused ⟨cause, position⟩) ∧
        checkProgram limit q = .error (.refused ⟨cause, position'⟩) := by
  have hp := checkProgram_echoes .blank limit p
  rw [hpq] at hp
  rcases hp with ⟨t, hp, hblank⟩ | ⟨⟨cause, position⟩, e, he, hp, hblank⟩
  all_goals rcases checkProgram_echoes .blank limit q with
    ⟨u, hq, hblank'⟩ | ⟨⟨cause', position'⟩, e', he', hq, hblank'⟩
  all_goals rw [hblank] at hblank'
  · have htree := Except.ok.inj hblank'
    refine .inl ⟨t, u, hp, hq, htree, ?_⟩
    rw [← t.classes.respell_blank, ← u.classes.respell_blank]
    exact congrArg Checked.Program.classes htree
  · cases hblank'
  · cases hblank'
  · obtain rfl := Failure.refused.inj (Except.error.inj hblank')
    obtain rfl : cause = cause' := he.cause.eq_of_blank.symm.trans he'.cause.eq_of_blank
    exact .inr ⟨cause, position, position', hp, hq⟩

/-- A depth with a written type, at some place of a log. -/
def soundingProgram (type : String) (depth : Double) (offset : Nat) : Program where
  body := [.var "depth" (some (.name type ⟨⟨offset, "log"⟩, ⟨offset + 3, "log"⟩⟩))
    (.literal (.double depth) ⟨⟨offset + 9, "log"⟩, ⟨offset + 12, "log"⟩⟩) .null]
  span := ⟨⟨offset, "log"⟩, ⟨offset + 12, "log"⟩⟩

/-- Soundings of one type differ only in spans and in the depth. -/
theorem soundingProgram_respell (type : String) (d d' : Double) (n n' : Nat) :
    (soundingProgram type d n).respell .blank = (soundingProgram type d' n').respell .blank := rfl

/-- A sounding of one half and one that is no number, elsewhere in the log, are accepted alike;
and they are refused alike if the type is wrong. -/
theorem soundingProgram_blank :
    (∃ t u, checkProgram defaultLimit (soundingProgram "doubloon" ⟨0x3FE0000000000000⟩ 0) = .ok t ∧
      checkProgram defaultLimit (soundingProgram "doubloon" ⟨0x7FF8000000000000⟩ 40) = .ok u ∧
      t.respell .blank = u.respell .blank ∧ t.classes = u.classes) ∧
    ∃ cause position position',
      checkProgram defaultLimit (soundingProgram "int" ⟨0x3FE0000000000000⟩ 0) =
        .error (.refused ⟨cause, position⟩) ∧
      checkProgram defaultLimit (soundingProgram "int" ⟨0x7FF8000000000000⟩ 40) =
        .error (.refused ⟨cause, position'⟩) := by
  constructor
  · have haccepted : (checkProgram defaultLimit
        (soundingProgram "doubloon" ⟨0x3FE0000000000000⟩ 0)).isOk = true := by decide +kernel
    refine (checkProgram_blank (soundingProgram_respell ..) defaultLimit).resolve_right ?_
    rintro ⟨cause, position, position', h, -⟩
    rw [h] at haccepted
    cases haccepted
  · have hrefused : (checkProgram defaultLimit
        (soundingProgram "int" ⟨0x3FE0000000000000⟩ 0)).isOk = false := by decide +kernel
    refine (checkProgram_blank (soundingProgram_respell ..) defaultLimit).resolve_left ?_
    rintro ⟨t, u, h, -⟩
    rw [h] at hrefused
    cases hrefused

end Shipshape
