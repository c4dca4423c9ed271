import Shipshape.Proofs.Mismatch.Run

/-!
# The texts of types are unambiguous

* `Shipshape.text_unambiguous` – types have the same text only if they are the same up to the
  identity of their classes, and whoever compares two types, in a rule or in the check of a program,
  opposes them by their texts.

Two classes of one name have one text, so a message may say that a type is not itself. It never does
so where no class is involved.
-/

namespace Shipshape

open Check (ComesToComparison)
open Diagnostic (OpposesCompared)

/-- **The texts of types are unambiguous.** Types whose classes have names of their own have the
same text only if they are the same up to the identity of the classes, so a type without classes
is told by its text. Hence every complaint about two such types shows two different texts,
whichever rule makes it. No expression, statement or program is refused with a mismatch but by one
of these rules, which compares two types that the check comes to. The texts of type expressions are
as unambiguous, up to spans, if the names in them are words. -/
theorem text_unambiguous :
    (∀ a b : Ty, a.Proper → b.Proper → (a.text = b.text ↔ a.nominal = b.nominal)) ∧
    (∀ a b : Ty, a.classes = [] → b.classes = [] → (a.text = b.text ↔ a = b)) ∧
    (∀ value target, Rule.Only (Rule.assignable value target) (·.Opposes target value.ty)) ∧
    (∀ iterable element declared, Rule.Only (Rule.declaredElement iterable element declared)
      (·.Opposes declared element)) ∧
    (∀ ty e, Rule.Only (Rule.join ty e) (·.Opposes ty e.ty)) ∧
    (∀ ty es, Rule.Only (Rule.elements ty es) fun d =>
      ∃ before e after shared, es = before ++ e :: after ∧
        (before.map Checked.Expr.ty).foldlM Ty.common ty = some shared ∧
        d.Opposes shared e.ty) ∧
    (∀ op left right, Rule.Only (Rule.binary op left right)
      (·.OpposesIfMismatch left.ty right.ty)) ∧
    (∀ signature args span, Rule.Only (Rule.arguments signature args span) fun d =>
      d.cause.isMismatch = true →
        ∃ pair ∈ signature.params.zip args, d.Opposes pair.1 pair.2.ty) ∧
    (∀ id e s, Check.Traces (checkExpr id e) s (OpposesCompared (e.Compares id s))) ∧
    (∀ id x s, Check.Traces (checkStmt id x) s (OpposesCompared (ComesToComparison id [x] s))) ∧
    (∀ limit p d, checkProgram limit p = .error (.refused d) →
      d.OpposesCompared (ComesToComparison Arena.root p.body (.initial limit))) ∧
    (∀ a b : TypeExpr, a.Words → b.Words →
      (a.text = b.text ↔ a.respell .blank = b.respell .blank)) := by
  refine ⟨fun a b ha hb => Ty.text_eq_iff ha hb, fun a b ha hb => ⟨Ty.eq_of_text_eq ha hb, ?_⟩,
    Rule.assignable_opposes, Rule.declaredElement_opposes, Rule.join_opposes,
    Rule.elements_opposes, Rule.binary_opposes, Rule.arguments_opposes, checkExpr_opposes,
    checkStmt_opposes, fun _ _ _ h => checkProgram_opposes h,
    fun a b ha hb => TypeExpr.text_eq_iff ha hb⟩
  exact fun h => congrArg Ty.text h

/-- A program that takes a text from a number. -/
def ballastProgram : Program where
  body := [.print (.binary .sub (.literal (.int 1) .null)
    (.literal (.string "rum") ⟨⟨10, "log"⟩, ⟨15, "log"⟩⟩) .null) .null]
  span := .null

/-- Two classes called `Ship` have one text; brackets tell a function that returns a function
from one that takes a function; a text is refused where a number is needed by two different
names; in a program the two names are those of types that are compared there; and spans are not
shown. -/
theorem text_unambiguous_ship :
    (Ty.function [.array (.object ⟨3, "Ship"⟩)] .int).Proper ∧
    (Ty.function [.array (.object ⟨7, "Ship"⟩)] .int).Proper ∧
    (Ty.function [.array (.object ⟨3, "Ship"⟩)] .int).text =
      (Ty.function [.array (.object ⟨7, "Ship"⟩)] .int).text ∧
    (Ty.function [] (.function [.int] .none)).text ≠ (Ty.function [.function [] .int] .none).text ∧
    (Rule.mismatch .int .string .null).Opposes .int .string ∧
    checkProgram defaultLimit ballastProgram =
      .error (.refused ⟨.typeMismatch "int" "shanty", some ⟨10, "log"⟩⟩) ∧
    (∃ expected received,
      ComesToComparison Arena.root ballastProgram.body (.initial defaultLimit) expected received ∧
      (⟨.typeMismatch "int" "shanty", some ⟨10, "log"⟩⟩ : Diagnostic).Opposes expected received) ∧
    (TypeExpr.map (.named "Ship") (.array (.name "int" ⟨⟨7, "a"⟩, ⟨9, "a"⟩⟩))).text =
      (TypeExpr.map (.named "Ship") (.array (.named "int"))).text := by
  have hname (kind : Scalar) : "Ship" ≠ kind.name := by cases kind <;> decide
  have hship (id : Nat) : (Ty.function [.array (.object ⟨id, "Ship"⟩)] .int).Proper :=
    List.forall_mem_singleton.mpr ⟨show IsWord "Ship" by decide, hname⟩
  have hrefused : checkProgram defaultLimit ballastProgram =
      .error (.refused ⟨.typeMismatch "int" "shanty", some ⟨10, "log"⟩⟩) := rfl
  obtain ⟨hproper, hfree, hassignable, -, -, -, -, -, -, -, hprogram, hexpr⟩ := text_unambiguous
  refine ⟨hship 3, hship 7, (hproper _ _ (hship 3) (hship 7)).mpr rfl, ?_, ?_, hrefused,
    hprogram _ _ _ hrefused rfl, ?_⟩
  · exact (hfree _ _ rfl rfl).not.mpr fun h => nomatch h
  · exact hassignable (.literal (.string "x") .string .null) .int _ rfl
  · exact (hexpr _ _ (by decide) (by decide)).mpr rfl

end Shipshape
