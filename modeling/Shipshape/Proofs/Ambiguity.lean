import Shipshape.Proofs.Ambiguity.Origin
import Shipshape.Proofs.Ambiguity.Trace
import Shipshape.Proofs.Outline

/-!
# What a complaint about an empty literal says

A declaration without a written type needs a value from which the type can be read off. If the
type is open, the check complains about an empty literal, and says whether it is an array or a
map. It knows the open type only.

* `Shipshape.Expr.literalKind?` – the kind of an array or a map literal;
* `Shipshape.Program.NamesLiteral` – a program infers a type, at the position that a diagnostic
  gives, from an expression with a literal of the kind that is named, and with an empty literal
  in that one;
* `Shipshape.checkProgram_namesLiteral` – every complaint about an empty literal names a
  literal in this way.

## What is named is not what is empty

The kind that is named is that of the type as a whole. It is that of a literal which has an
open type, and in which the empty literal lies. The two need not be the same: an array with an
empty map in it is called an empty array (`Shipshape.hatchProgram_ambiguous`).
-/

namespace Shipshape

/-! ### Literals as they are written -/

namespace Expr

/-- The kind of an array or a map literal, as it is called in a diagnostic. -/
def literalKind? : Expr → Option String
  | .array _ _ => some "array"
  | .map _ _ => some "map"
  | .literal _ _ | .symbol _ _ | .self _ | .binary _ _ _ _ | .unary _ _ _ | .conditional _ _ _ _
  | .call _ _ _ | .subscript _ _ _ | .member _ _ _ | .methodCall _ _ _ _ | .construct _ _ _ => none

/-- An array or a map literal without elements. -/
def IsEmptyLiteral (e : Expr) : Prop := e.literalKind?.isSome = true ∧ e.parts = []

end Expr

theorem Checked.Expr.IsEmptyLiteral.erase {c : Checked.Expr} (h : c.IsEmptyLiteral) :
    c.erase.IsEmptyLiteral := by
  cases c with
  | array elements ty span =>
    obtain rfl : elements = [] := h
    exact ⟨rfl, rfl⟩
  | map entries ty span =>
    obtain rfl : entries = [] := h
    exact ⟨rfl, rfl⟩
  | _ => cases h

/-- **A literal is named**: some type is inferred from an expression at the position of the
diagnostic, a literal of the given kind lies in the expression, and an empty literal in that
one. -/
def Program.NamesLiteral (p : Program) (d : Diagnostic) (kind : String) : Prop :=
  ∃ path x e, p.HasStmt path x ∧ x.inferredFrom? = some e ∧ d.position = some e.span.start ∧
    ∃ c : Expr, c.Within e ∧ c.literalKind? = some kind ∧
      ∃ c₀ : Expr, c₀.Within c ∧ c₀.IsEmptyLiteral

/-! ### Expressions with an open type -/

theorem Rule.ambiguous_of_isMap {ty : Ty} (h : ty.isMap = true) (span : Span) :
    ambiguous ty span = .located (.ambiguousEmptyLiteral "map") span := by
  cases ty with
  | map => rfl
  | _ => cases h

theorem Rule.ambiguous_of_not_isMap {ty : Ty} (h : ty.isMap = false) (span : Span) :
    ambiguous ty span = .located (.ambiguousEmptyLiteral "array") span := by
  cases ty with
  | map => cases h
  | _ => rfl

namespace Checked.Expr

variable {classes : ClassTable} {a : Ambient} {e c : Expr}

/-- A literal of an open type lies in the expression as it was written, with an empty literal
in it. -/
theorem Throughout.exists_written (h : e.Throughout (Fits classes a)) (hclasses : classes.Settled)
    (hc : c.Within e) (hopen : ¬c.ty.Settled) {kind : String}
    (hkind : c.erase.literalKind? = some kind) :
    ∃ d : Shipshape.Expr, d.Within e.erase ∧ d.literalKind? = some kind ∧
      ∃ d₀ : Shipshape.Expr, d₀.Within d ∧ d₀.IsEmptyLiteral := by
  obtain ⟨c₀, hempty, hwithin⟩ := ((h.grounded hclasses).within hc).literal hopen
  exact ⟨c.erase, hc.erase, hkind, c₀.erase, hwithin.erase, hempty.erase⟩

/-- **What is said about an open type names a literal** of the expression that has the type. -/
theorem Throughout.exists_named (h : e.Throughout (Fits classes a)) (hclasses : classes.Settled)
    (hopen : e.ty.containsAny = true) {kind : String}
    (hcause : (Rule.ambiguous e.ty e.span).cause = .ambiguousEmptyLiteral kind) :
    ∃ d : Shipshape.Expr, d.Within e.erase ∧ d.literalKind? = some kind ∧
      ∃ d₀ : Shipshape.Expr, d₀.Within d ∧ d₀.IsEmptyLiteral := by
  have hunsettled : ¬e.ty.Settled := by
    intro hsettled
    rw [hsettled.containsAny_eq_false] at hopen
    cases hopen
  cases hmap : e.ty.isMap with
  | true =>
    rw [Rule.ambiguous_of_isMap hmap] at hcause
    cases hcause
    have hholds : e.ty.holdsMap = true := by
      cases hty : e.ty with
      | map key value => rfl
      | _ =>
        rw [hty] at hmap
        cases hmap
    obtain ⟨entries, ty, span, hwithin, hty⟩ := h.exists_map hclasses hunsettled hholds
    exact h.exists_written hclasses hwithin hty rfl
  | false =>
    rw [Rule.ambiguous_of_not_isMap hmap] at hcause
    cases hcause
    obtain ⟨elements, ty, span, hwithin, hty⟩ := h.exists_array hclasses hunsettled hmap
    exact h.exists_written hclasses hwithin hty rfl

end Checked.Expr

/-! ### Programs -/

open Lexical (Env)

variable {limit : Nat} {p : Program}

/-- In a sound environment every name is bound to an entity of that name. -/
theorem Lexical.Env.Sound.named {env : Env} {classes : ClassTable} (h : env.Sound classes) :
    env.Named :=
  fun frame hframe b hb => (h frame hframe b hb).name

/-- **An expression that is accepted where the check comes to** is well typed at every node, and
is the checked form of what was written. -/
theorem Program.Comes.exists_fits {id : ScopeId} {xs : List Stmt} {s t : State} {e : Expr}
    {e' : Checked.Expr} (h : p.Comes limit id xs s) (hrun : checkExpr id e s.deeper = .ok e' t) :
    ∃ a, e'.Throughout (Checked.Expr.Fits s.classes a) ∧ s.classes.Settled ∧ e'.erase = e := by
  obtain ⟨hreach, env, henv⟩ := h.opens
  have hs : s.deeper.Sound := (hreach.trans (.deeper s)).sound (State.sound_initial limit)
  have hsound := hs.sees henv.deeper
  have hreads : checkExpr id e s.deeper = Check.ofRule (Lexical.expr _ s.classes e) s.deeper :=
    checkExpr_reads e henv.deeper
  rw [hreads] at hrun
  cases hlex : Lexical.expr _ s.classes e with
  | error d =>
    rw [hlex] at hrun
    cases hrun
  | ok e₀ =>
    rw [hlex] at hrun
    cases hrun
    exact ⟨_, Lexical.expr_fits e hsound hlex, hs.settled, Lexical.expr_erase hsound.named hlex⟩

/-- **A complaint about an empty literal** is located at an expression of the program, from which
a variable or a loop that writes no type infers one. A literal of the kind that is named lies in
this expression, and an empty literal, be it of that kind or of the other, lies in that
literal. -/
theorem checkProgram_namesLiteral {d : Diagnostic} {kind : String}
    (h : checkProgram limit p = .error (.refused d))
    (hcause : d.cause = .ambiguousEmptyLiteral kind) : p.NamesLiteral d kind := by
  have hambiguous : d.cause.isAmbiguity = true := by rw [hcause]; rfl
  obtain ⟨id, x, xs, s, hcomes, -, e, e', t, hinfers, hrun, hopen, rfl⟩ :=
    checkProgram_ambiguous h hambiguous
  obtain ⟨path, hstmt⟩ := hcomes.hasStmt
  obtain ⟨a, hfits, hclasses, rfl⟩ := hcomes.exists_fits hrun
  refine ⟨path, x, e'.erase, hstmt x List.mem_cons_self, hinfers, ?_,
    hfits.exists_named hclasses hopen hcause⟩
  rw [← checkExpr_span hrun]
  exact Rule.ambiguous_only (E := fun d => d.position = some e'.span.start) (fun _ => rfl) e'.ty

/-- A refusal can be decided. -/
theorem checkProgram_eq_refused {d : Diagnostic}
    (h : (match checkProgram limit p with
      | .ok _ => false
      | .error failure => failure == .refused d) = true) :
    checkProgram limit p = .error (.refused d) := by
  cases hrun : checkProgram limit p with
  | ok t =>
    rw [hrun] at h
    cases h
  | error failure =>
    rw [hrun] at h
    rw [eq_of_beq h]

/-- A loop in a function, over a map with an empty array in it. -/
def bilgeProgram : Program where
  body := [.function ⟨"pump", [], none, ⟨[.forEach "hose" none
    (.map [(.literal (.string "aft") .null, .array [] .null)] ⟨⟨36, "log"⟩, ⟨47, "log"⟩⟩)
    ⟨[], .null⟩ .null], .null⟩, .null⟩]
  span := .null

/-- The map is named, and the array in it is what is empty. -/
theorem bilgeProgram_namesLiteral :
    checkProgram defaultLimit bilgeProgram =
      .error (.refused ⟨.ambiguousEmptyLiteral "map", some ⟨36, "log"⟩⟩) ∧
    bilgeProgram.NamesLiteral ⟨.ambiguousEmptyLiteral "map", some ⟨36, "log"⟩⟩ "map" := by
  have hrefused : checkProgram defaultLimit bilgeProgram =
      .error (.refused ⟨.ambiguousEmptyLiteral "map", some ⟨36, "log"⟩⟩) :=
    checkProgram_eq_refused (by decide +kernel)
  exact ⟨hrefused, checkProgram_namesLiteral hrefused rfl⟩

/-- A variable with an array that has an empty map in it. -/
def hatchProgram : Program where
  body := [.var "x" none (.array [.map [] ⟨⟨11, "log"⟩, ⟨13, "log"⟩⟩] ⟨⟨10, "log"⟩, ⟨14, "log"⟩⟩)
    ⟨⟨0, "log"⟩, ⟨14, "log"⟩⟩]
  span := ⟨⟨0, "log"⟩, ⟨14, "log"⟩⟩

/-- **The literal that is named need not be empty**, nor need any other literal of its kind. -/
theorem hatchProgram_ambiguous : ¬∀ (limit : Nat) (p : Program) (d : Diagnostic) (kind : String),
    checkProgram limit p = .error (.refused d) → d.cause = .ambiguousEmptyLiteral kind →
    ∃ path x e, p.HasStmt path x ∧ x.inferredFrom? = some e ∧ d.position = some e.span.start ∧
      ∃ c : Expr, c.Within e ∧ c.literalKind? = some kind ∧ c.IsEmptyLiteral := by
  intro hall
  have hrefused : checkProgram defaultLimit hatchProgram =
      .error (.refused ⟨.ambiguousEmptyLiteral "array", some ⟨10, "log"⟩⟩) :=
    checkProgram_eq_refused (by decide +kernel)
  obtain ⟨path, x, e, hx, hinfers, -, c, hc, hkind, -, hempty⟩ := hall _ _ _ _ hrefused rfl
  -- The only statement is the variable, and it has no array but the one with the map.
  have hbody {path : Path} {x : Stmt} (hx : hatchProgram.HasStmt path x) :
      x ∈ hatchProgram.body := by
    induction hx with
    | top hx => exact hx
    | inner _ hb _ ih =>
      cases List.mem_singleton.mp ih
      cases hb
  cases List.mem_singleton.mp (hbody hx)
  cases hinfers
  cases hc with
  | refl => cases hempty
  | part hd hc =>
    cases List.mem_singleton.mp hd
    cases hc with
    | refl => exact absurd hkind (by decide)
    | part hd hc => cases hd

end Shipshape
