import Shipshape.Check.Monad
import Shipshape.Check.Rule

/-!
# Checking expressions

* `Shipshape.checkExpr` – checks an expression in a scope;
* `Shipshape.checkArguments` – checks the arguments of a call against a signature.

The parts of a node are checked from left to right and the rule of the node comes
after them, with two exceptions: the test of a conditional must be a truth value
before its arms are looked at, and the entries of a map are joined one by one.
Arguments are all checked before they are counted.
-/

namespace Shipshape

/-- Passes arguments, once they are checked, to what the call at `span` calls. -/
def passArguments (signature : Signature) (span : Span) (checked : Check (List Checked.Expr)) :
    Check (List Checked.Expr) := do
  let args ← checked
  Check.ofRule (Rule.arguments signature args span)
  return args

mutual

/-- **Checks an expression** in a scope, one level deeper. -/
def checkExpr (id : ScopeId) : Expr → Check Checked.Expr
  | .literal value span => Check.nested span do
    return .literal value value.ty span
  | .symbol name span => Check.nested span do
    let entity ← Check.resolve id name span
    let ty ← Check.require entity.valueType? (.notAValue name) span
    return .symbol name entity ty span
  | .self span => Check.nested span do
    let scope ← Check.scope id
    let cls ← Check.require scope.cls .selfOutsideClass span
    return .self cls (.object cls) span
  | .binary op left right span => Check.nested span do
    let left ← checkExpr id left
    let right ← checkExpr id right
    let ty ← Check.ofRule (Rule.binary op left right)
    return .binary op left right ty span
  | .unary op operand span => Check.nested span do
    let operand ← checkExpr id operand
    let ty ← Check.ofRule (Rule.unary op operand)
    return .unary op operand ty span
  | .conditional test consequent alternate span => Check.nested span do
    let test ← checkExpr id test
    Check.ofRule (Rule.boolean test)
    let consequent ← checkExpr id consequent
    let alternate ← checkExpr id alternate
    let ty ← Check.ofRule (Rule.join consequent.ty alternate)
    return .conditional test consequent alternate ty span
  | .call callee args span => Check.nested span do
    let callee ← checkExpr id callee
    let signature ← Check.ofRule (Rule.callee callee)
    let args ← passArguments signature span (checkExprs id args)
    return .call callee signature args signature.result span
  | .subscript array index span => Check.nested span do
    let array ← checkExpr id array
    let index ← checkExpr id index
    let ty ← Check.ofRule (Rule.subscript array index)
    return .subscript array index ty span
  | .array elements span => Check.nested span do
    let elements ← checkExprs id elements
    let ty ← Check.ofRule (Rule.elements .any elements)
    return .array elements (.array ty) span
  | .map entries span => Check.nested span do
    let (entries, key, value) ← checkEntries id .any .any entries
    return .map entries (.map key value) span
  | .member object name span => Check.nested span do
    let object ← checkExpr id object
    let cls ← Check.ofRule (Rule.object object)
    let info ← Check.classInfo cls
    let ty ← Check.require (info.field? name) (.unknownMember cls.name name) span
    return .member object name ty span
  | .methodCall object name args span => Check.nested span do
    let object ← checkExpr id object
    let cls ← Check.ofRule (Rule.object object)
    let info ← Check.classInfo cls
    let signature ← Check.require (info.method? name) (.unknownMember cls.name name) span
    let args ← passArguments signature span (checkExprs id args)
    return .methodCall object name signature args signature.result span
  | .construct className args span => Check.nested span do
    let entity ← Check.resolve id className span
    let cls ← Check.require entity.class? (.notAClass className) span
    let info ← Check.classInfo cls
    let args ← passArguments info.ctor span (checkExprs id args)
    return .construct cls args (.object cls) span

/-- Checks expressions from left to right. -/
def checkExprs (id : ScopeId) : List Expr → Check (List Checked.Expr)
  | [] => return []
  | e :: es => do
    let e ← checkExpr id e
    let es ← checkExprs id es
    return e :: es

/-- Checks the entries of a map, given the types that the keys and the values
before them share. -/
def checkEntries (id : ScopeId) (key value : Ty) :
    List (Expr × Expr) → Check (List (Checked.Expr × Checked.Expr) × Ty × Ty)
  | [] => return ([], key, value)
  | (k, v) :: entries => do
    let k ← checkExpr id k
    let v ← checkExpr id v
    let key ← Check.ofRule (Rule.join key k)
    let value ← Check.ofRule (Rule.join value v)
    let (entries, key, value) ← checkEntries id key value entries
    return ((k, v) :: entries, key, value)

end

/-- Checks the arguments of the call at `span` against a signature. -/
def checkArguments (id : ScopeId) (signature : Signature) (args : List Expr) (span : Span) :
    Check (List Checked.Expr) :=
  passArguments signature span (checkExprs id args)

end Shipshape
