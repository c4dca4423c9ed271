import Shipshape.Proofs.Blame.Stmt
import Shipshape.Proofs.Scope.Bounds

/-!
# Errors point into the program

* `Shipshape.checkStmts_eq_error` – statements in a row fail at the first of them that
  does, and those before it succeed by themselves;
* `Shipshape.checkProgram_points` – a program that is refused is refused at a position,
  which is that of a node in the first statement at the top level whose check fails.

The statements before the failing one form a program that is accepted, and together with
the failing one they form a program that is refused in the same way. So nothing that comes
after a position has a part in the refusal.
-/

namespace Shipshape

variable {id : ScopeId} {s t : State} {failure : Failure}

/-- **Statements in a row fail at the first that fails.** -/
theorem checkStmts_eq_error {xs : List Stmt} (h : checkStmts id xs s = .error failure t) :
    ∃ before x after ys u, xs = before ++ x :: after ∧ checkStmts id before s = .ok ys u ∧
      checkStmt id x u = .error failure t ∧
      checkStmts id (before ++ [x]) s = .error failure t := by
  induction xs generalizing s with
  | nil =>
    rw [checkStmts] at h
    cases h
  | cons x xs ih =>
    rw [checkStmts] at h
    rcases Check.bind_eq_error h with hx | ⟨y, u, hx, h⟩
    · refine ⟨[], x, xs, [], s, rfl, ?_, hx, ?_⟩
      · rw [checkStmts]
        rfl
      · rw [List.nil_append, checkStmts]
        exact Check.bind_eq_error_of_left hx _
    · rcases Check.bind_eq_error h with hxs | ⟨ys, v, -, hpure⟩
      · -- The first statement succeeds, so that the failing one is among the others.
        obtain ⟨before, z, after, ys, v, rfl, hbefore, hz, hprefix⟩ := ih hxs
        refine ⟨x :: before, z, after, y :: ys, v, rfl, ?_, hz, ?_⟩
        · rw [checkStmts]
          simp [Bind.bind, EStateM.bind, hx, hbefore, Pure.pure, EStateM.pure]
        · rw [List.cons_append, checkStmts]
          simp [Bind.bind, EStateM.bind, hx, hprefix]
      · cases hpure

/-- **Errors point into the program.** If a program is refused, under whatever limit, then
the diagnostic has a position. The statements at the top level are some that form an
accepted program by themselves, one with which this program is refused in the same way, and
the rest. The position is the start of the span of a statement, an expression, a parameter
or a name in a type expression that lies in the failing statement. -/
theorem checkProgram_points {limit : Nat} {p : Program}
    (h : checkProgram limit p = .error failure) :
    ∃ (d : Diagnostic) (before : List Stmt) (x : Stmt) (after : List Stmt) (span : Span),
      failure = .refused d ∧ p.body = before ++ x :: after ∧
      (∀ around, ∃ t, checkProgram limit ⟨before, around⟩ = .ok t) ∧
      (∀ around, checkProgram limit ⟨before ++ [x], around⟩ = .error failure) ∧
      x.Marks span ∧ d.position = some span.start := by
  obtain ⟨d, rfl⟩ := checkProgram_eq_error h
  have hrun : ∃ t, checkStmts Arena.root p.body (.initial limit) = .error (.refused d) t := by
    rw [checkProgram] at h
    split at h
    · cases h
    · next failure t hstmts =>
      cases h
      exact ⟨t, hstmts⟩
  obtain ⟨t, hrun⟩ := hrun
  obtain ⟨before, x, after, ys, u, hbody, hbefore, hx, hprefix⟩ := checkStmts_eq_error hrun
  obtain ⟨span, hmark, hposition⟩ := (checkStmt_blames x Arena.root).refused hx
  refine ⟨d, before, x, after, span, rfl, hbody, fun around => ?_, fun around => ?_, hmark,
    hposition⟩
  · rw [checkProgram, hbefore]
    exact ⟨_, rfl⟩
  · rw [checkProgram, hprefix]

/-- A span in a file. -/
def logSpan (start stop : Nat) : Span := ⟨⟨start, "log"⟩, ⟨stop, "log"⟩⟩

/-- A variable, a class one of whose methods adds a text to a number, and one more
statement that would fail as well. -/
def wreckProgram : Program where
  body := [
    .var "depth" none (.literal (.int 3) (logSpan 8 9)) (logSpan 0 9),
    .classDecl {
      name := "Wreck"
      params := []
      body := ⟨[], logSpan 20 22⟩
      ctorSpan := logSpan 20 22
      methods := [⟨"sink", [⟨"by", .name "int" (logSpan 34 37), logSpan 31 37⟩], none,
        ⟨[.print (.binary .add (.symbol "by" (logSpan 50 52))
          (.literal (.string "m") (logSpan 55 58)) (logSpan 50 58)) (logSpan 44 58)],
          logSpan 40 60⟩, logSpan 24 60⟩]
      span := logSpan 10 62 },
    .breakLoop (logSpan 63 68)]
  span := logSpan 0 68

/-- The text that does not fit is what the refusal points to. -/
theorem wreckProgram_points :
    checkProgram defaultLimit wreckProgram =
      .error (.refused ⟨.typeMismatch "int" "shanty", some ⟨55, "log"⟩⟩) ∧
    ∃ (d : Diagnostic) (before : List Stmt) (x : Stmt) (after : List Stmt) (span : Span),
      Failure.refused ⟨.typeMismatch "int" "shanty", some ⟨55, "log"⟩⟩ = .refused d ∧
      wreckProgram.body = before ++ x :: after ∧
      (∀ around, ∃ t, checkProgram defaultLimit ⟨before, around⟩ = .ok t) ∧
      (∀ around, checkProgram defaultLimit ⟨before ++ [x], around⟩ =
        .error (.refused ⟨.typeMismatch "int" "shanty", some ⟨55, "log"⟩⟩)) ∧
      x.Marks span ∧ d.position = some span.start := by
  have hrefused : (match checkProgram defaultLimit wreckProgram with
      | .error failure => failure == .refused ⟨.typeMismatch "int" "shanty", some ⟨55, "log"⟩⟩
      | .ok _ => false) = true := by decide +kernel
  split at hrefused
  · next failure h =>
    obtain rfl := eq_of_beq hrefused
    exact ⟨h, checkProgram_points h⟩
  · cases hrefused

end Shipshape
