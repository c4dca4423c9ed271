/-!
# White space

The characters that count as blank at the ends of a displayed line.

* `Shipshape.Text.isBlank` – the white space characters of Unicode;
* `Shipshape.Text.trim` – a run of characters without its blank ends.

A zero width space is not blank, a no-break space and an ideographic space are.
-/

namespace Shipshape.Text

/-- The code points with the Unicode property `White_Space`, as inclusive
ranges. -/
def blankRanges : List (Nat × Nat) :=
  [(0x09, 0x0D), (0x20, 0x20), (0x85, 0x85), (0xA0, 0xA0), (0x1680, 0x1680), (0x2000, 0x200A),
   (0x2028, 0x2029), (0x202F, 0x202F), (0x205F, 0x205F), (0x3000, 0x3000)]

/-- Whether a character is white space. -/
def isBlank (c : Char) : Bool :=
  blankRanges.any fun (lo, hi) => lo ≤ c.toNat && c.toNat ≤ hi

/-- A run of characters without the white space at its two ends. -/
def trim (cs : List Char) : List Char :=
  ((cs.dropWhile isBlank).reverse.dropWhile isBlank).reverse

end Shipshape.Text
