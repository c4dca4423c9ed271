/-!
# Lines of a text

A byte offset is turned into a line number, the text of that line and a column.

* `Shipshape.Source.byteLength` – the bytes that characters take in UTF-8
  (`Shipshape.Source.byteLength_toList`);
* `Shipshape.Source.lines` – a text cut after each line feed, so that every line
  but possibly the last carries its own (`Shipshape.Source.flatten_lines`);
* `Shipshape.Source.locate` – the line that holds a byte offset.

Lines are counted from one and columns from zero. Columns count bytes, so an
offset inside a character of several bytes has a column of its own, and the line
feed belongs to the line it ends.
-/

namespace Shipshape.Source

/-- The number of bytes that a run of characters takes in UTF-8. -/
def byteLength : List Char → Nat
  | [] => 0
  | c :: cs => c.utf8Size + byteLength cs

/-- A text cut after each line feed. No line is empty, and only the last one may
lack its line feed. -/
def lines : List Char → List (List Char)
  | [] => []
  | c :: cs =>
    if c = '\n' then [c] :: lines cs
    else
      match lines cs with
      | [] => [[c]]
      | line :: rest => (c :: line) :: rest

/-- A place in a text, as a reader counts. -/
structure Location where
  /-- The number of the line, from one. -/
  line : Nat
  /-- The line, with the line feed that ends it. -/
  text : String
  /-- The bytes of the line before the place. -/
  column : Nat
deriving DecidableEq, Repr

/-- The line among `ls` that holds the byte `offset` of their concatenation,
when the first of them has the number `number`. -/
def locateFrom (number : Nat) : List (List Char) → Nat → Option Location
  | [], _ => none
  | l :: ls, offset =>
    if offset < byteLength l then some ⟨number, String.ofList l, offset⟩
    else locateFrom (number + 1) ls (offset - byteLength l)

/-- **The line and column of a byte offset**, or nothing when the offset lies at
or beyond the end of the text. -/
def locate (text : String) (offset : Nat) : Option Location :=
  locateFrom 1 (lines text.toList) offset

/-! ### The lines make up the text -/

@[simp]
theorem byteLength_append (xs ys : List Char) :
    byteLength (xs ++ ys) = byteLength xs + byteLength ys := by
  induction xs with
  | nil => simp [byteLength]
  | cons c cs ih => simp [byteLength, ih, Nat.add_assoc]

/-- The bytes of a text are the bytes of its characters. -/
theorem byteLength_ofList (cs : List Char) : byteLength cs = (String.ofList cs).utf8ByteSize := by
  induction cs with
  | nil => simp [byteLength]
  | cons c cs ih =>
    have hsplit : String.ofList (c :: cs) = String.singleton c ++ String.ofList cs := by
      rw [String.singleton_eq_ofList, ← String.ofList_append]
      rfl
    rw [byteLength, ih, hsplit, String.utf8ByteSize_append, String.utf8ByteSize_singleton]

@[simp]
theorem byteLength_toList (s : String) : byteLength s.toList = s.utf8ByteSize := by
  rw [byteLength_ofList, String.ofList_toList]

/-- Cutting into lines loses nothing. -/
theorem flatten_lines (cs : List Char) : (lines cs).flatten = cs := by
  induction cs with
  | nil => rfl
  | cons c cs ih =>
    rw [lines]
    split
    · simp [ih]
    · cases h : lines cs with
      | nil => simp_all
      | cons line rest => simp_all

end Shipshape.Source
