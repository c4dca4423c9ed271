import Shipshape.Diagnostic.Basic
import Shipshape.Source.Line
import Shipshape.Text.Blank

/-!
# Reports

A diagnostic as a reader sees it, with the line it is about and a mark under the
place:

```text
Error: NotABoolean (Expected a boolean, found `int`)
-> voyage.pirate
   |
12 | while 3 {
   | ------^
```

* `Shipshape.Diagnostic.headline` – the first two lines;
* `Shipshape.Diagnostic.excerpt` – the line and the mark;
* `Shipshape.Diagnostic.report` – all of it.

The line is shown without the white space at its ends. The mark stands after as
many dashes as there are bytes before the place, less the plain spaces that the
line begins with: other white space at the front is not shown but still counted.
-/

namespace Shipshape.Diagnostic

/-- The name and the advice of a diagnostic, and the file it is reported for. -/
def headline (d : Diagnostic) (file : String) : String :=
  let advice := match d.cause.tip with
    | some tip => " (" ++ tip ++ ")"
    | none => ""
  "Error: " ++ d.cause.name ++ advice ++ "\n-> " ++ file ++ "\n"

/-- The empty margin beside a line number of the given width, up to the bar. -/
def margin (width : Nat) : String :=
  String.ofList (List.replicate (width + 1) ' ' ++ ['|'])

/-- The number of plain spaces that a line begins with. -/
def indent (line : List Char) : Nat := (line.takeWhile (· == ' ')).length

/-- A line as it is shown, without white space at its ends. -/
def shown (line : List Char) : List Char := Text.trim (line.drop (indent line))

/-- The dashes before the mark for a column of a line. -/
def dashes (line : List Char) (column : Nat) : Nat := column - indent line

/-- A line with its number, and a mark under one of its columns. -/
def excerpt (place : Source.Location) : String :=
  let number := toString place.line
  let bar := margin number.length
  let line := place.text.toList
  bar ++ "\n" ++ number ++ " | " ++ String.ofList (shown line) ++ "\n" ++
    bar ++ " " ++ String.ofList (List.replicate (dashes line place.column) '-' ++ ['^']) ++ "\n"

/-- The place that a diagnostic is about in a text: nowhere if it has no position,
a null position or one outside the text. -/
def place? (d : Diagnostic) (source : String) : Option Source.Location :=
  match d.position with
  | some p => if p.isNull then none else Source.locate source p.offset
  | none => none

/-- **The report of a diagnostic** about a text, under the name of a file. -/
def report (d : Diagnostic) (source file : String) : String :=
  match d.place? source with
  | some place => d.headline file ++ excerpt place
  | none => d.headline file

end Shipshape.Diagnostic
