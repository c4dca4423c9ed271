import Shipshape.Proofs.Equality.Tree
import Shipshape.Proofs.Respelling

/-!
# Equality of programs

Doubles are compared as numbers, so equality of programs is no equivalence: a program with a NaN
in it does not equal itself. On programs without one it is, and a check does not tell equal
programs apart.

* `Shipshape.Program.equal_symm`, `Shipshape.Program.equal_trans`,
  `Shipshape.Program.equal_self_iff` – equality is a partial equivalence, which holds of a program
  and itself unless there is a NaN in it;
* `Shipshape.checkProgram_of_respell_eq` – programs that become the same by what keeps names are
  accepted alike or refused for the same reason;
* `Shipshape.Program.equal_congruence` – equality is a partial equivalence and a congruence for
  the check.

Everything follows from what equality means (`Shipshape.Program.equal_iff`): the programs become
the same when the signs of zeros are dropped. This keeps positions as well as names, so equal
programs are refused at one position.
-/

namespace Shipshape

/-! ### A partial equivalence -/

namespace Program

variable {p q r : Program}

theorem equal_symm (h : p.equal q = true) : q.equal p = true := by
  obtain ⟨hpq, hp, hq⟩ := (equal_iff p q).mp h
  exact (equal_iff q p).mpr ⟨hpq.symm, hq, hp⟩

theorem equal_trans (hpq : p.equal q = true) (hqr : q.equal r = true) : p.equal r = true := by
  obtain ⟨hpq, hp, -⟩ := (equal_iff p q).mp hpq
  obtain ⟨hqr, -, hr⟩ := (equal_iff q r).mp hqr
  exact (equal_iff p r).mpr ⟨hpq.trans hqr, hp, hr⟩

/-- **A program equals itself unless there is a NaN in it.** -/
theorem equal_self_iff (p : Program) : p.equal p = true ↔ AllNumbers p.doubles := by
  rw [equal_iff]
  exact ⟨fun h => h.2.1, fun h => ⟨rfl, h, h⟩⟩

end Program

/-! ### A congruence -/

/-- **Programs that become the same by what keeps names** are accepted, with checked programs that
become the same, or refused for the same reason at positions that become the same. -/
theorem checkProgram_of_respell_eq {f : Respelling} (hname : ∀ name, f.name name = name)
    {p q : Program} (hpq : p.respell f = q.respell f) (limit : Nat) :
    (∃ t u, checkProgram limit p = .ok t ∧ checkProgram limit q = .ok u ∧
        t.respell f = u.respell f ∧ t.classes = u.classes) ∨
      ∃ d e, checkProgram limit p = .error (.refused d) ∧
        checkProgram limit q = .error (.refused e) ∧ d.cause = e.cause ∧
        d.position.map f.position = e.position.map f.position := by
  have hp := checkProgram_echoes f limit p
  have hq := checkProgram_echoes f limit q
  rw [hpq] at hp
  rcases hp with ⟨t, hp, hrun⟩ | ⟨d, d', hd, hp, hrun⟩
  · rcases hq with ⟨u, hq, hrun'⟩ | ⟨e, e', he, hq, hrun'⟩
    · have htree : t.respell f = u.respell f := Except.ok.inj (hrun.symm.trans hrun')
      refine .inl ⟨t, u, hp, hq, htree, ?_⟩
      calc
        t.classes = t.classes.respell f := (t.classes.respell_of_name_eq hname).symm
        _ = u.classes.respell f := congrArg Checked.Program.classes htree
        _ = u.classes := u.classes.respell_of_name_eq hname
    · cases hrun.symm.trans hrun'
  · rcases hq with ⟨u, hq, hrun'⟩ | ⟨e, e', he, hq, hrun'⟩
    · cases hrun.symm.trans hrun'
    · obtain rfl : d' = e' := Failure.refused.inj (Except.error.inj (hrun.symm.trans hrun'))
      refine .inr ⟨d, e, hp, hq, ?_, hd.position.symm.trans he.position⟩
      exact (hd.cause.eq_of_name_eq hname).symm.trans (he.cause.eq_of_name_eq hname)

/-- **A check does not tell equal programs apart.** -/
theorem Program.checkProgram_of_equal {p q : Program} (h : p.equal q = true) (limit : Nat) :
    (∃ d, checkProgram limit p = .error (.refused d) ∧
        checkProgram limit q = .error (.refused d)) ∨
      ∃ t u, checkProgram limit p = .ok t ∧ checkProgram limit q = .ok u ∧
        t.respell .unsigned = u.respell .unsigned ∧ t.classes = u.classes := by
  obtain ⟨hpq, -, -⟩ := (equal_iff p q).mp h
  rcases checkProgram_of_respell_eq (fun _ => rfl) hpq limit with
    haccepted | ⟨⟨cause, position⟩, ⟨cause', position'⟩, hp, hq, hcause, hposition⟩
  · exact .inr haccepted
  · obtain rfl : cause = cause' := hcause
    obtain rfl : position = position' := by simpa [Respelling.unsigned] using hposition
    exact .inl ⟨_, hp, hq⟩

/-- **Equality of programs is a partial equivalence and a congruence for the check.** It is
symmetric and transitive, and holds of a program and itself exactly if no double in the program
is a NaN. Two programs are equal exactly if they are the same tree once the signs of zeros are
dropped, and there is no NaN in either. Whatever the limit, equal programs are refused for the
same reason at the same position, or accepted with the same classes and with checked programs that
are the same once the signs of zeros are dropped. -/
theorem Program.equal_congruence :
    (∀ p q : Program, p.equal q = true → q.equal p = true) ∧
    (∀ p q r : Program, p.equal q = true → q.equal r = true → p.equal r = true) ∧
    (∀ p : Program, p.equal p = true ↔ AllNumbers p.doubles) ∧
    (∀ p q : Program, p.equal q = true ↔
      p.respell .unsigned = q.respell .unsigned ∧ AllNumbers p.doubles ∧ AllNumbers q.doubles) ∧
    ∀ p q : Program, p.equal q = true → ∀ limit,
      (∃ d, checkProgram limit p = .error (.refused d) ∧
          checkProgram limit q = .error (.refused d)) ∨
        ∃ t u, checkProgram limit p = .ok t ∧ checkProgram limit q = .ok u ∧
          t.respell .unsigned = u.respell .unsigned ∧ t.classes = u.classes :=
  ⟨fun _ _ => equal_symm, fun _ _ _ => equal_trans, equal_self_iff, equal_iff,
    fun _ _ => checkProgram_of_equal⟩

/-- Soundings of zero and of negative zero at one place are equal. They are accepted alike, and
refused alike if the type is wrong. A sounding that is no number does not equal itself. -/
theorem soundingProgram_equal :
    (soundingProgram "doubloon" ⟨0x8000000000000000⟩ 0).equal (soundingProgram "doubloon" ⟨0⟩ 0) =
      true ∧
    (∃ t u, checkProgram defaultLimit (soundingProgram "doubloon" ⟨0x8000000000000000⟩ 0) = .ok t ∧
      checkProgram defaultLimit (soundingProgram "doubloon" ⟨0⟩ 0) = .ok u ∧
      t.respell .unsigned = u.respell .unsigned ∧ t.classes = u.classes) ∧
    (∃ d, checkProgram defaultLimit (soundingProgram "int" ⟨0x8000000000000000⟩ 0) =
        .error (.refused d) ∧
      checkProgram defaultLimit (soundingProgram "int" ⟨0⟩ 0) = .error (.refused d)) ∧
    ¬(soundingProgram "doubloon" ⟨0x7FF8000000000000⟩ 0).equal
      (soundingProgram "doubloon" ⟨0x7FF8000000000000⟩ 0) = true := by
  obtain ⟨-, -, hself, -, hcheck⟩ := Program.equal_congruence
  have hequal (type : String) : (soundingProgram type ⟨0x8000000000000000⟩ 0).equal
      (soundingProgram type ⟨0⟩ 0) = true := by
    refine (Program.equal_iff _ _).mpr ⟨rfl, ?_, ?_⟩
    · exact List.forall_mem_singleton.mpr (by decide)
    · exact List.forall_mem_singleton.mpr (by decide)
  refine ⟨hequal _, ?_, ?_, fun h => ?_⟩
  · have haccepted :
        (checkProgram defaultLimit (soundingProgram "doubloon" ⟨0⟩ 0)).isOk = true := by
      decide +kernel
    refine (hcheck _ _ (hequal "doubloon") defaultLimit).resolve_left ?_
    rintro ⟨d, -, h⟩
    rw [h] at haccepted
    cases haccepted
  · have hrefused : (checkProgram defaultLimit (soundingProgram "int" ⟨0⟩ 0)).isOk = false := by
      decide +kernel
    refine (hcheck _ _ (hequal "int") defaultLimit).resolve_right ?_
    rintro ⟨t, u, -, h, -⟩
    rw [h] at hrefused
    cases hrefused
  · have hnumber := (hself _).mp h ⟨0x7FF8000000000000⟩ List.mem_cons_self
    revert hnumber
    decide

end Shipshape
