import Shipshape.Source.Span
import Shipshape.Text.Quoted

/-!
# Diagnostics

Why a program is refused, and where.

* `Shipshape.Cause` – the reasons, each with what its message needs;
* `Shipshape.Cause.name`, `Shipshape.Cause.message`, `Shipshape.Cause.tip` – the
  wording of a reason: its name, its message, and its advice if there is one;
* `Shipshape.Diagnostic` – a reason with a position;
* `Shipshape.Failure` – why a check has no result: a diagnostic, or a scope that
  is not there to be looked at.

Messages quote the names that a program chose, and advice shows them between
backquotes. Types appear by their text in both.
-/

namespace Shipshape

/-- How the arguments of a call fail to fit the parameters. -/
inductive ArgumentMismatch where
  /-- There are too many or too few. -/
  | count (required passed : Nat)
  /-- One of them has the wrong type. -/
  | type (index : Nat) (expected received : String)
deriving DecidableEq, Inhabited, Repr

/-- The message about arguments that do not fit. -/
def ArgumentMismatch.message : ArgumentMismatch → String
  | .count required passed =>
    toString required ++ " argument(s) required but " ++ toString passed ++ " passed"
  | .type index expected received =>
    "argument " ++ toString index ++ ": cannot assign a " ++ received ++ " to a " ++ expected

/-- Why a program is refused. -/
inductive Cause where
  /-- The name is taken in its scope. -/
  | duplicateDeclaration (name : String)
  /-- The name is not visible. -/
  | undeclaredIdentifier (name : String)
  /-- One type stands where another is needed. -/
  | typeMismatch (expected received : String)
  /-- A truth value is needed. -/
  | notABoolean (found : String)
  /-- A number is needed. -/
  | notANumber (found : String)
  /-- A whole number is needed. -/
  | notAnInteger (found : String)
  /-- An array or a map is needed. -/
  | notIterable (found : String)
  /-- A function is needed. -/
  | notCallable (found : String)
  /-- A class is needed. -/
  | notAClass (found : String)
  /-- A name in a type expression denotes no type. -/
  | notAType (name : String)
  /-- A name in an expression denotes no value. -/
  | notAValue (name : String)
  /-- A break without a loop around it. -/
  | breakOutsideLoop
  /-- A self or a field without a class around it. -/
  | selfOutsideClass
  /-- A return without a function around it. -/
  | returnOutsideFunction
  /-- A return with a value where none is expected, or the other way round. -/
  | returnArityMismatch (function : String) (expectsValue : Bool)
  /-- The arguments of a call do not fit. -/
  | argumentMismatch (mismatch : ArgumentMismatch)
  /-- The class has no such field or method. -/
  | unknownMember (cls member : String)
  /-- An empty literal leaves the type of a declaration open. -/
  | ambiguousEmptyLiteral (literal : String)
  /-- The program nests too deep to be checked. -/
  | nestingTooDeep (limit : Nat)
deriving DecidableEq, Inhabited, Repr

namespace Cause

/-- The name of a reason. -/
def name : Cause → String
  | .duplicateDeclaration _ => "DuplicateDeclaration"
  | .undeclaredIdentifier _ => "UndeclaredIdentifier"
  | .typeMismatch _ _ => "TypeMismatch"
  | .notABoolean _ => "NotABoolean"
  | .notANumber _ => "NotANumber"
  | .notAnInteger _ => "NotAnInteger"
  | .notIterable _ => "NotIterable"
  | .notCallable _ => "NotCallable"
  | .notAClass _ => "NotAClass"
  | .notAType _ => "NotAType"
  | .notAValue _ => "NotAValue"
  | .breakOutsideLoop => "BreakOutsideLoop"
  | .selfOutsideClass => "SelfOutsideClass"
  | .returnOutsideFunction => "ReturnOutsideFunction"
  | .returnArityMismatch _ _ => "ReturnArityMismatch"
  | .argumentMismatch _ => "ArgumentMismatch"
  | .unknownMember _ _ => "UnknownMember"
  | .ambiguousEmptyLiteral _ => "AmbiguousEmptyLiteral"
  | .nestingTooDeep _ => "NestingTooDeep"

/-- The message of a reason. -/
def message : Cause → String
  | .duplicateDeclaration n => "identifier " ++ Text.quote n ++ " already declared"
  | .undeclaredIdentifier n => "identifier " ++ Text.quote n ++ " not declared"
  | .typeMismatch expected received =>
    "types do not match: cannot assign a " ++ received ++ " to a " ++ expected
  | .notABoolean found => "expected a boolean, found " ++ found
  | .notANumber found => "expected a number, found " ++ found
  | .notAnInteger found => "expected an integer, found " ++ found
  | .notIterable found => "expected an array or map, found " ++ found
  | .notCallable found => "call of non-function type " ++ found
  | .notAClass found => "expected a class, found " ++ found
  | .notAType n => Text.quote n ++ " is not a type"
  | .notAValue n => Text.quote n ++ " is a type, not a value"
  | .breakOutsideLoop => "break can only appear in a loop"
  | .selfOutsideClass => "self can only appear in a class"
  | .returnOutsideFunction => "return can only appear in a function"
  | .returnArityMismatch function expectsValue =>
    "return in function " ++ Text.quote function ++
      " does not match its return type (expects value: " ++
      (if expectsValue then "true" else "false") ++ ")"
  | .argumentMismatch mismatch => mismatch.message
  | .unknownMember cls member =>
    "class " ++ Text.quote cls ++ " has no member " ++ Text.quote member
  | .ambiguousEmptyLiteral literal =>
    "cannot infer the type of an empty " ++ literal ++ " literal"
  | .nestingTooDeep limit => "nesting exceeds the limit of " ++ toString limit

/-- The advice of a reason, if it has any. -/
def tip : Cause → Option String
  | .duplicateDeclaration n =>
    some ("Identifier `" ++ n ++ "` is already declared in this scope")
  | .undeclaredIdentifier n =>
    some ("Identifier `" ++ n ++ "` must be declared before it is used")
  | .typeMismatch expected received =>
    some ("Cannot assign a " ++ received ++ " to a " ++ expected)
  | .notABoolean found => some ("Expected a boolean, found `" ++ found ++ "`")
  | .notANumber found => some ("Expected a number, found `" ++ found ++ "`")
  | .notAnInteger found => some ("Expected an integer, found `" ++ found ++ "`")
  | .notIterable found => some ("Expected an array or map, found `" ++ found ++ "`")
  | .notCallable found => some ("Call of non-function type `" ++ found ++ "`")
  | .notAClass found => some ("Expected a class, found `" ++ found ++ "`")
  | .notAType n => some ("`" ++ n ++ "` is not a type")
  | .notAValue n => some ("`" ++ n ++ "` is a type, not a value")
  | .breakOutsideLoop => some "Break can only appear in a loop"
  | .selfOutsideClass => some "`self` can only be used inside a class"
  | .returnOutsideFunction => some "Return can only appear in a function"
  | .returnArityMismatch function true =>
    some ("Function `" ++ function ++ "` must return a value")
  | .returnArityMismatch function false =>
    some ("Function `" ++ function ++ "` is declared to return nothing")
  | .argumentMismatch mismatch => some mismatch.message
  | .unknownMember cls member =>
    some ("Class `" ++ cls ++ "` has no member `" ++ member ++ "`")
  | .ambiguousEmptyLiteral literal =>
    some ("Cannot infer a type from an empty " ++ literal ++
      " literal, declare the type explicitly")
  | .nestingTooDeep _ => none

end Cause

/-- Why a program is refused, and where. -/
structure Diagnostic where
  /-- The reason. -/
  cause : Cause
  /-- The position, if one is known. -/
  position : Option Position
deriving DecidableEq, Inhabited, Repr

/-- A diagnostic at the start of a span. -/
def Diagnostic.located (cause : Cause) (span : Span) : Diagnostic := ⟨cause, some span.start⟩

/-- Why a check has no result. -/
inductive Failure where
  /-- The program is refused. -/
  | refused (diagnostic : Diagnostic)
  /-- The scope to be looked at does not exist: there are only `count` scopes, and
  none has the number `index`. -/
  | missingScope (count index : Nat)
deriving DecidableEq, Inhabited, Repr

/-- The message about a scope that does not exist. -/
def Failure.missingScopeMessage (count index : Nat) : String :=
  "index out of bounds: the len is " ++ toString count ++ " but the index is " ++ toString index

end Shipshape
