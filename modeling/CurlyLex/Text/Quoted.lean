import CurlyLex.Text.Unprintable

/-!
# Quoted text

Messages show pieces of a source between quotation marks, in a form that stays on one line and can
be read back: a few characters have a short escape, characters without a shape of their own are
written by number, and everything else stands for itself.

* `escape` — the written form of one character between two given marks.
* `quote` — a text between two marks.
* `quoteString`, `quoteChar` — the two kinds of marks in use.
-/

namespace CurlyLex.Text

/-- A backslash, the letter `u`, and the code point in base sixteen between braces. -/
def numericEscape (c : Char) : List Char :=
  ['\\', 'u', '\x7b'] ++ Nat.toDigits 16 c.toNat ++ ['\x7d']

/-- The written form of a character between two marks.  The mark itself and the backslash take a
backslash, the null character, tab, line feed and carriage return have a letter each, and the other
unprintable characters are written by number. -/
def escape (mark c : Char) : List Char :=
  if c = '\x00' then ['\\', '0']
  else if c = '\t' then ['\\', 't']
  else if c = '\n' then ['\\', 'n']
  else if c = '\r' then ['\\', 'r']
  else if c = '\\' ∨ c = mark then ['\\', c]
  else if isUnprintable c then numericEscape c
  else [c]

/-- A text between two marks, each character in its written form. -/
def quote (mark : Char) (text : List Char) : List Char :=
  mark :: (text.flatMap (escape mark) ++ [mark])

/-- A text between double marks. -/
def quoteString (text : String) : String :=
  String.ofList (quote '\x22' text.toList)

/-- A character between single marks. -/
def quoteChar (c : Char) : String :=
  String.ofList (quote '\x27' [c])

end CurlyLex.Text
