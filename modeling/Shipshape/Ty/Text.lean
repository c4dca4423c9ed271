import Shipshape.Ty.Basic

/-!
# The text of a type

* `Shipshape.Ty.text` – how a type is named in a message.

A class is named by its name alone, so the texts of two classes may agree.
-/

namespace Shipshape.Ty

mutual

/-- The text of a type. -/
def text : Ty → String
  | .scalar s => s.name
  | .array a => "[" ++ a.text ++ "]"
  | .map k v => "\x7b" ++ k.text ++ " : " ++ v.text ++ "\x7d"
  | .function ps r => "(" ++ textList ps ++ ")->" ++ r.text
  | .object c => c.name

/-- The texts of the parameters of a function, separated by commas. -/
def textList : List Ty → String
  | [] => ""
  | a :: as =>
    match as with
    | [] => a.text
    | _ :: _ => a.text ++ "," ++ textList as

end

end Shipshape.Ty
