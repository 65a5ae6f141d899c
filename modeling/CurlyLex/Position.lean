import CurlyLex.Text.Decimal

/-!
# Positions in a source

A position is a line and a column, both counted from one in 32-bit words.  Columns count
characters.  Only the line feed starts a new line; a carriage return is a column like any other.

* `Position.start` — the position of the first character.
* `Position.next` — the position after one character.
* `Position.after` — the position after a text.
* `Position.toText` — line and column with a colon between them.
-/

namespace CurlyLex

/-- A line and a column of a source. -/
structure Position where
  /-- The line, counted from one. -/
  line : UInt32
  /-- The column, counted from one in characters. -/
  column : UInt32
deriving DecidableEq

namespace Position

/-- The position of the first character of a source. -/
def start : Position := ⟨1, 1⟩

/-- The position after one character. -/
def next (position : Position) (c : Char) : Position :=
  if c = '\n' then ⟨position.line + 1, 1⟩ else ⟨position.line, position.column + 1⟩

/-- The position after a text. -/
def after (position : Position) (text : List Char) : Position :=
  text.foldl next position

/-- Line and column, with a colon between them. -/
def toText (position : Position) : String :=
  Text.decimal position.line.toNat ++ ":" ++ Text.decimal position.column.toNat

@[simp]
theorem after_nil (position : Position) : position.after [] = position := rfl

@[simp]
theorem after_cons (position : Position) (c : Char) (text : List Char) :
    position.after (c :: text) = (position.next c).after text := rfl

@[simp]
theorem after_append (position : Position) (first second : List Char) :
    position.after (first ++ second) = (position.after first).after second := by
  simp only [after, List.foldl_append]

end Position

end CurlyLex
