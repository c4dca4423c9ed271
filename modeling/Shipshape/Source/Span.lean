/-!
# Positions and spans

Where a piece of a program stands in its text.

* `Shipshape.Position` – a byte offset in a named file;
* `Shipshape.Span` – the stretch between two positions, possibly of two files.

A tree that was not read from a text carries null spans. A position is null by
its file name alone, whatever its offset (`Shipshape.Position.isNull`).
-/

namespace Shipshape

/-- A byte offset in a named file. -/
structure Position where
  /-- Bytes before the position. -/
  offset : Nat
  /-- The file that the offset counts in. -/
  file : String
deriving DecidableEq, Inhabited, Repr

namespace Position

/-- The file name of a position that belongs to no text. -/
def nullFile : String := "<null>"

/-- The position of what was not read from a text. -/
def null : Position := ⟨0, nullFile⟩

/-- Whether a position belongs to no text: its file name decides. -/
def isNull (p : Position) : Bool := p.file == nullFile

end Position

/-- The stretch of text from one position to another. -/
structure Span where
  /-- Where the stretch begins. -/
  start : Position
  /-- Where the stretch ends. -/
  stop : Position
deriving DecidableEq, Inhabited, Repr

/-- The span of what was not read from a text. -/
def Span.null : Span := ⟨.null, .null⟩

end Shipshape
