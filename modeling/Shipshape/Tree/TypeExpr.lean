import Shipshape.Source.Span

/-!
# Type expressions

A type as a program writes it, before any name in it is looked up.

* `Shipshape.TypeExpr` – a name, an array, a map or a function of type expressions;
* `Shipshape.TypeExpr.text` – its written form.

Only names carry a span: a type expression fails to denote a type at one of its
names, or not at all.
-/

namespace Shipshape

/-- A type as written. -/
inductive TypeExpr where
  /-- The name of a built-in type or of a class. -/
  | name (name : String) (span : Span)
  /-- Arrays of one element type. -/
  | array (element : TypeExpr)
  /-- Maps from a key type to a value type. -/
  | map (key value : TypeExpr)
  /-- Functions of some parameters. -/
  | function (params : List TypeExpr) (result : TypeExpr)
deriving Inhabited

namespace TypeExpr

/-- A name that was not read from a text. -/
def named (name : String) : TypeExpr := .name name .null

mutual

/-- The written form of a type expression. -/
def text : TypeExpr → String
  | .name n _ => n
  | .array a => "[" ++ a.text ++ "]"
  | .map k v => "\x7b" ++ k.text ++ ", " ++ v.text ++ "\x7d"
  | .function ps r => "(" ++ textList ps ++ ")->" ++ r.text

/-- The written forms of the parameters of a function, separated by commas. -/
def textList : List TypeExpr → String
  | [] => ""
  | a :: as =>
    match as with
    | [] => a.text
    | _ :: _ => a.text ++ "," ++ textList as

end

end TypeExpr

end Shipshape
