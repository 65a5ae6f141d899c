/-!
# Tables of code points

A class of characters given by its code points, as a list of inclusive ranges.

* `CodeRanges` — the table.
* `CodeRanges.covers` — is a character in the class?
-/

namespace CurlyLex.Text

/-- Inclusive ranges of code points. -/
structure CodeRanges where
  /-- The first and the last code point of each range. -/
  ranges : List (Nat × Nat)

/-- A character is covered when one of the ranges holds its code point. -/
def CodeRanges.covers (table : CodeRanges) (c : Char) : Bool :=
  table.ranges.any fun range => decide (range.1 ≤ c.toNat) && decide (c.toNat ≤ range.2)

end CurlyLex.Text
