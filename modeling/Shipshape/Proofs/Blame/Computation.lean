import Shipshape.Proofs.Refusal.Computation

/-!
# Where a rule or a computation puts the blame

A diagnostic carries a position, which should be that of something in the tree. Nothing
is said here about trees: a rule knows the spans of the parts that it looks at, and a
computation some set of spans.

* `Shipshape.Diagnostic.PointsTo` – a diagnostic is located at the start of one of some
  spans;
* `Shipshape.Rule.Blames` – a rule that fails points to one of some spans;
* `Shipshape.Check.Blames` – a computation that refuses something points to one of some
  spans, from whatever state it starts, and its value has a given property otherwise.

A rule blames the parts that it is given. For computations there is one statement for each
way of putting them together (`Shipshape.Check.Blames.bind`, `Shipshape.Check.Blames.nested`,
`Shipshape.Check.Blames.withChild`) and one for each operation. All of them are what is known
of any kind of diagnostics (`Shipshape.Rule.Only`, `Shipshape.Check.Answers`), taken for those
that point to the spans.
-/

namespace Shipshape

/-- **A diagnostic is located at the start of one of some spans.** -/
def Diagnostic.PointsTo (d : Diagnostic) (marks : Span → Prop) : Prop :=
  ∃ span, marks span ∧ d.position = some span.start

theorem Diagnostic.pointsTo_located {marks : Span → Prop} {span : Span} (h : marks span)
    (cause : Cause) : (located cause span).PointsTo marks :=
  ⟨span, h, rfl⟩

/-! ### Rules -/

namespace Rule

variable {α : Type} {marks : Span → Prop}

/-- **A rule that fails points to one of some spans.** -/
def Blames (result : Except Diagnostic α) (marks : Span → Prop) : Prop :=
  ∀ d, result = .error d → d.PointsTo marks

theorem allows_of_marks {e : Checked.Expr} (h : marks e.span) : Allows (·.PointsTo marks) e :=
  fun cause _ => Diagnostic.pointsTo_located h cause

section Parts

variable {e : Checked.Expr} (he : marks e.span)

include he

theorem boolean_blames : Blames (boolean e) marks := boolean_only (allows_of_marks he).plain

theorem integer_blames : Blames (integer e) marks := integer_only (allows_of_marks he).plain

theorem assignable_blames (target : Ty) : Blames (assignable e target) marks :=
  assignable_only (allows_of_marks he) target

theorem inferred_blames : Blames (inferred e) marks :=
  inferred_only fun _ => Diagnostic.pointsTo_located he _

theorem inferredElement_blames (element : Ty) : Blames (inferredElement e element) marks :=
  inferredElement_only (fun _ => Diagnostic.pointsTo_located he _) element

end Parts

end Rule

/-! ### Computations -/

namespace Check

variable {α β : Type} {marks : Span → Prop}

/-- **A computation that refuses something points to one of some spans**, and its value has
a property when it succeeds, from whatever state it starts. -/
structure Blames (m : Check α) (marks : Span → Prop) (Q : α → Prop) : Prop where
  /-- A success. -/
  ok : ∀ {s a t}, m s = .ok a t → Q a
  /-- A refusal. -/
  refused : ∀ {s d t}, m s = .error (.refused d) t → d.PointsTo marks

namespace Blames

variable {P : α → Prop} {Q : β → Prop}

theorem of_answers {m : Check β} (h : Answers m (·.PointsTo marks) Q) : Blames m marks Q :=
  ⟨h.ok, h.refused⟩

theorem answers {m : Check β} (h : Blames m marks Q) : Answers m (·.PointsTo marks) Q :=
  ⟨h.ok, h.refused⟩

theorem pure {b : β} (h : Q b) : Blames (pure b) marks Q := of_answers (.pure h)

theorem mono {m : Check β} {others : Span → Prop} {R : β → Prop} (h : Blames m marks Q)
    (hmarks : ∀ span, marks span → others span) (hQ : ∀ b, Q b → R b) : Blames m others R := by
  refine of_answers (h.answers.mono ?_ hQ)
  rintro d ⟨span, hspan, hposition⟩
  exact ⟨span, hmarks span hspan, hposition⟩

/-- One computation after another. -/
theorem bind {m : Check α} {f : α → Check β} (hm : Blames m marks P)
    (hf : ∀ a, P a → Blames (f a) marks Q) : Blames (m >>= f) marks Q :=
  of_answers (hm.answers.bind fun a ha => (hf a ha).answers)

/-- One computation after another, when the value of the first does not matter. -/
theorem next {m : Check α} {f : α → Check β} (hm : Blames m marks fun _ => True)
    (hf : ∀ a, Blames (f a) marks Q) : Blames (m >>= f) marks Q :=
  bind hm fun a _ => hf a

theorem refuse {span : Span} (h : marks span) (cause : Cause) :
    Blames (refuse cause span : Check β) marks Q :=
  of_answers (.refuse (Diagnostic.pointsTo_located h cause))

theorem ofRule {x : Except Diagnostic α} (h : Rule.Blames x marks) :
    Blames (ofRule x) marks fun _ => True :=
  of_answers (.ofRule h)

theorem require {value : Option α} {span : Span} (h : marks span) (cause : Cause) :
    Blames (require value cause span) marks fun _ => True :=
  of_answers (.require (Diagnostic.pointsTo_located h cause))

/-! ### Scopes -/

theorem scope (id : ScopeId) : Blames (scope id) marks fun _ => True := of_answers (.scope id)

theorem declare {span : Span} (h : marks span) (id : ScopeId) (name : String) (entity : Entity) :
    Blames (declare id name entity span) marks fun _ => True :=
  of_answers (.declare (Diagnostic.pointsTo_located h _) id entity)

/-- A computation in a new scope. -/
theorem withChild {id : ScopeId} {changes : Overrides} {act : ScopeId → Check β}
    (h : ∀ inner, Blames (act inner) marks Q) : Blames (withChild id changes act) marks Q :=
  of_answers (.withChild fun inner => (h inner).answers)

/-! ### Identities and members -/

theorem newEntity (binding : Binding) : Blames (newEntity binding) marks fun _ => True :=
  of_answers (.newEntity binding)

theorem newClass (name : String) : Blames (newClass name) marks fun _ => True :=
  of_answers (.newClass name)

theorem setCtor (cls : ClassRef) (signature : Signature) :
    Blames (setCtor cls signature) marks fun _ => True :=
  of_answers (.setCtor cls signature)

theorem addField (cls : ClassRef) (name : String) (ty : Ty) :
    Blames (addField cls name ty) marks fun _ => True :=
  of_answers (.addField cls name ty)

/-! ### Nesting -/

/-- A node that lies too deep is blamed itself. -/
theorem nested {span : Span} {m : Check β} (hspan : marks span) (h : Blames m marks Q) :
    Blames (nested span m) marks Q :=
  of_answers (.nested (fun _ => Diagnostic.pointsTo_located hspan _) h.answers)

end Blames

end Check

end Shipshape
