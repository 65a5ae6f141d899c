import CurlyLex.Position

/-!
# Cursors

A cursor stands between two characters of a source.  It holds the characters that are still to be
read, and counts what lies behind it in two ways: in bytes of UTF-8, and by line and column.

* `Cursor.ofText` — the cursor before a text.
* `Cursor.advance` — move over a number of characters; the only way a cursor moves.
* `Cursor.atEnd` — is everything read?
-/

namespace CurlyLex

/-- How many bytes a text takes in UTF-8. -/
def byteLength (text : List Char) : Nat :=
  text.foldl (fun n c => n + c.utf8Size) 0

theorem foldl_utf8Size (text : List Char) (n : Nat) :
    text.foldl (fun n c => n + c.utf8Size) n = n + byteLength text := by
  induction text generalizing n with
  | nil => rfl
  | cons c text ih =>
    rw [byteLength, List.foldl_cons, List.foldl_cons, ih, ih (0 + _)]
    omega

@[simp]
theorem byteLength_nil : byteLength [] = 0 := rfl

@[simp]
theorem byteLength_cons (c : Char) (text : List Char) :
    byteLength (c :: text) = c.utf8Size + byteLength text := by
  rw [byteLength, List.foldl_cons, foldl_utf8Size]
  omega

@[simp]
theorem byteLength_append (first second : List Char) :
    byteLength (first ++ second) = byteLength first + byteLength second := by
  rw [byteLength, List.foldl_append, foldl_utf8Size]
  rfl

/-- A place between two characters of a source. -/
structure Cursor where
  /-- What is still to be read. -/
  rest : List Char
  /-- The bytes that lie behind. -/
  offset : Nat
  /-- The position of the next character. -/
  position : Position
deriving DecidableEq

namespace Cursor

/-- The cursor before a text. -/
def ofText (text : List Char) : Cursor :=
  ⟨text, 0, .start⟩

/-- Move over the next `n` characters, or to the end when there are fewer. -/
def advance (cursor : Cursor) (n : Nat) : Cursor :=
  let passed := cursor.rest.take n
  ⟨cursor.rest.drop n, cursor.offset + byteLength passed, cursor.position.after passed⟩

/-- Is everything read? -/
def atEnd (cursor : Cursor) : Bool :=
  cursor.rest.isEmpty

@[simp]
theorem advance_rest (cursor : Cursor) (n : Nat) : (cursor.advance n).rest = cursor.rest.drop n :=
  rfl

@[simp]
theorem advance_position (cursor : Cursor) (n : Nat) :
    (cursor.advance n).position = cursor.position.after (cursor.rest.take n) := rfl

@[simp]
theorem advance_offset (cursor : Cursor) (n : Nat) :
    (cursor.advance n).offset = cursor.offset + byteLength (cursor.rest.take n) := rfl

@[simp]
theorem advance_zero (cursor : Cursor) : cursor.advance 0 = cursor := rfl

/-- Moving twice is moving once over as many characters. -/
theorem advance_advance (cursor : Cursor) (m n : Nat) :
    (cursor.advance m).advance n = cursor.advance (m + n) := by
  simp only [advance, List.drop_drop, List.take_add, byteLength_append, Position.after_append,
    Nat.add_assoc]

end Cursor

end CurlyLex
