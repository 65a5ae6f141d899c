/-!
# Lines of a text

Lines are numbered from one, and only the line feed ends a line: a text with `n` line feeds has
`n + 1` lines, the last of which may be empty.  A carriage return at the end of a line belongs to
the line ending and is not shown, but only one is taken away.

* `dropLines` — what follows the first `n` line feeds.
* `chomp` — a line without the carriage return of its ending.
* `line?` — the text of a line, by number.
-/

namespace CurlyLex.Text

/-- What follows the first `n` line feeds, or nothing when there are fewer. -/
def dropLines : Nat → List Char → Option (List Char)
  | 0, text => some text
  | _ + 1, [] => none
  | n + 1, c :: text => if c = '\n' then dropLines n text else dropLines (n + 1) text

/-- The characters before the first line feed. -/
def firstLine (text : List Char) : List Char :=
  text.takeWhile fun c => c != '\n'

/-- A line without one carriage return at its end. -/
def chomp (line : List Char) : List Char :=
  if line.getLast? = some '\r' then line.dropLast else line

/-- The text of a line without its ending; no line has the number zero. -/
def line? (text : List Char) : Nat → Option (List Char)
  | 0 => none
  | n + 1 => (dropLines n text).map fun rest => chomp (firstLine rest)

end CurlyLex.Text
