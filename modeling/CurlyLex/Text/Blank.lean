import CurlyLex.Text.CodeRanges

/-!
# Blank characters

The characters that count as white space between lexemes and at the ends of a quoted source line:
the Unicode property `White_Space`, which holds of 25 code points.

* `blank` — the table.
* `isBlank` — membership of a character.
-/

namespace CurlyLex.Text

/-- The code points of white space, as inclusive ranges in ascending order. -/
def blank : CodeRanges :=
  ⟨[(0x9, 0xd), (0x20, 0x20), (0x85, 0x85), (0xa0, 0xa0), (0x1680, 0x1680), (0x2000, 0x200a),
    (0x2028, 0x2029), (0x202f, 0x202f), (0x205f, 0x205f), (0x3000, 0x3000)]⟩

/-- Is this character white space? -/
def isBlank (c : Char) : Bool :=
  blank.covers c

/-- Drop the blanks at the front. -/
def trimStart (text : List Char) : List Char :=
  text.dropWhile isBlank

/-- Drop the blanks at the end. -/
def trimEnd (text : List Char) : List Char :=
  (text.reverse.dropWhile isBlank).reverse

end CurlyLex.Text
