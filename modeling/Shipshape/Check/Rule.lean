import Shipshape.Checked.Tree
import Shipshape.Diagnostic.Basic
import Shipshape.Ty.Order
import Shipshape.Ty.Text

/-!
# Typing rules

What the parts of an expression or a statement must be, once the parts themselves
are checked. No rule looks at a scope.

* `Shipshape.Rule.binary`, `Shipshape.Rule.unary` – operators;
* `Shipshape.Rule.join`, `Shipshape.Rule.elements` – the type that sibling values
  share;
* `Shipshape.Rule.arguments` – the arguments of a call against its parameters;
* `Shipshape.Rule.inferred`, `Shipshape.Rule.iterated` – the type of a declaration
  that does not write one;
* `Shipshape.Rule.returns` – whether a return needs a value.

A rule that fails says why at the part that is wrong.
-/

namespace Shipshape

/-- The type of a constant. -/
def Literal.ty : Literal → Ty
  | .int _ => .int
  | .double _ => .double
  | .string _ => .string
  | .bool _ => .bool

namespace Rule

/-- One type stands at `span` where another is needed. -/
def mismatch (expected received : Ty) (span : Span) : Diagnostic :=
  .located (.typeMismatch expected.text received.text) span

/-- The expression must be a truth value. -/
def boolean (e : Checked.Expr) : Except Diagnostic Unit :=
  if e.ty.isBoolean then .ok () else .error (.located (.notABoolean e.ty.text) e.span)

/-- The expression must be a whole number. -/
def integer (e : Checked.Expr) : Except Diagnostic Unit :=
  if e.ty.isInteger then .ok () else .error (.located (.notAnInteger e.ty.text) e.span)

/-- The expression must be a number. -/
def number (e : Checked.Expr) : Except Diagnostic Unit :=
  if e.ty.isNumeric then .ok () else .error (.located (.notANumber e.ty.text) e.span)

/-- The expression must be a number or a text. -/
def summand (e : Checked.Expr) : Except Diagnostic Unit :=
  if e.ty.isNumeric || e.ty.isString then .ok ()
  else .error (.located (.notANumber e.ty.text) e.span)

/-- The value must fit a place of the type `target`. -/
def assignable (value : Checked.Expr) (target : Ty) : Except Diagnostic Unit :=
  if value.ty.assignableTo target then .ok ()
  else .error (mismatch target value.ty value.span)

/-- The type that the values seen so far, of the type `ty`, share with one more. -/
def join (ty : Ty) (e : Checked.Expr) : Except Diagnostic Ty :=
  match ty.common e.ty with
  | some shared => .ok shared
  | none => .error (mismatch ty e.ty e.span)

/-- The type that the values seen so far, of the type `ty`, share with all of a
list. -/
def elements (ty : Ty) : List Checked.Expr → Except Diagnostic Ty
  | [] => .ok ty
  | e :: es =>
    match join ty e with
    | .ok shared => elements shared es
    | .error diagnostic => .error diagnostic

/-- The type of an operator between two operands. The left operand decides what is
needed, and the right one must share its type. -/
def binary (op : BinaryOp) (left right : Checked.Expr) : Except Diagnostic Ty :=
  match op with
  | .add => do
    summand left
    join left.ty right
  | .sub | .mul | .div | .pow | .rem => do
    number left
    join left.ty right
  | .lt | .le | .gt | .ge => do
    number left
    discard (join left.ty right)
    return .bool
  | .eq | .ne => do
    discard (join left.ty right)
    return .bool
  | .and | .or => do
    boolean left
    boolean right
    return .bool

/-- The type of an operator before an operand. -/
def unary (op : UnaryOp) (operand : Checked.Expr) : Except Diagnostic Ty :=
  match op with
  | .negate => do
    number operand
    return operand.ty
  | .not => do
    boolean operand
    return .bool

/-- The signature of what is called. -/
def callee (e : Checked.Expr) : Except Diagnostic Signature :=
  match e.ty with
  | .function params result => .ok ⟨params, result⟩
  | ty => .error (.located (.notCallable ty.text) e.span)

/-- The class of an object. -/
def object (e : Checked.Expr) : Except Diagnostic ClassRef :=
  match e.ty with
  | .object cls => .ok cls
  | ty => .error (.located (.notAClass ty.text) e.span)

/-- The type of an element of an array, by an index. -/
def subscript (array index : Checked.Expr) : Except Diagnostic Ty := do
  integer index
  match array.ty with
  | .array element => return element
  | ty => throw (.located (.notIterable ty.text) array.span)

/-- Whether arguments fit parameters one by one, the first of them having the given
number. The first that does not fit is reported. -/
def argumentTypes (index : Nat) : List Ty → List Checked.Expr → Except Diagnostic Unit
  | param :: params, arg :: args =>
    if arg.ty.assignableTo param then argumentTypes (index + 1) params args
    else
      .error (.located (.argumentMismatch (.type index param.text arg.ty.text)) arg.span)
  | _, _ => .ok ()

/-- Whether the arguments of the call at `span` fit the parameters: first in
number, then in type. -/
def arguments (signature : Signature) (args : List Checked.Expr) (span : Span) :
    Except Diagnostic Unit :=
  if args.length = signature.params.length then argumentTypes 0 signature.params args
  else
    .error (.located (.argumentMismatch (.count signature.params.length args.length)) span)

/-- The type of a declaration cannot be read off an empty literal. -/
def ambiguous (ty : Ty) (span : Span) : Diagnostic :=
  match ty with
  | .map _ _ => .located (.ambiguousEmptyLiteral "map") span
  | _ => .located (.ambiguousEmptyLiteral "array") span

/-- The type of a variable that is declared without one. -/
def inferred (value : Checked.Expr) : Except Diagnostic Ty :=
  if value.ty.containsAny then .error (ambiguous value.ty value.span) else .ok value.ty

/-- The type of what a loop runs over: the elements of an array, the values of a
map. -/
def iterated (iterable : Checked.Expr) : Except Diagnostic Ty :=
  match iterable.ty with
  | .array element => .ok element
  | .map _ value => .ok value
  | ty => .error (.located (.notIterable ty.text) iterable.span)

/-- The type of a loop variable that is declared without one. -/
def inferredElement (iterable : Checked.Expr) (element : Ty) : Except Diagnostic Ty :=
  if element.containsAny then .error (ambiguous iterable.ty iterable.span) else .ok element

/-- What a loop runs over must fit the type that its variable is declared with. -/
def declaredElement (iterable : Checked.Expr) (element declared : Ty) : Except Diagnostic Ty :=
  if element.assignableTo declared then .ok declared
  else .error (mismatch declared element iterable.span)

/-- A return has a value exactly when its function returns one. -/
def returns (function : Entity) (hasValue : Bool) (span : Span) : Except Diagnostic Unit :=
  if function.resultType.isNone = hasValue then
    .error (.located (.returnArityMismatch function.name (!hasValue)) span)
  else .ok ()

end Rule

end Shipshape
