import CurlyLex.Keywords
import CurlyLex.Numeral

/-!
# Lexemes

A lexeme is a word, a numeral or a symbol.  Words start with a letter or an underscore and go on
with letters, digits and underscores; letters and digits are those of ASCII.

* `Lexeme` — the type, with `Lexeme.text` and `Lexeme.kind`.
* `Lexeme.readWord?` — the word at the front of a text.
* `Lexeme.Attempt` — the four ways in which looking for a lexeme ends.
* `Lexeme.read` — look for a lexeme: a word first, then a numeral, then a symbol.
-/

namespace CurlyLex

/-- A piece of a source that makes one token. -/
inductive Lexeme where
  | word (text : List Char)
  | numeral (numeral : Numeral)
  | symbol (symbol : Symbol)
deriving DecidableEq

namespace Lexeme

/-- The characters of a lexeme. -/
def text : Lexeme → List Char
  | word text => text
  | numeral n => n.text
  | symbol s => s.spelling

/-- The kind of a lexeme.  A word is looked up as a whole, and is an identifier when the table does
not have it. -/
def kind (keywords : Keywords) : Lexeme → Kind
  | word text => (keywords.kind? (String.ofList text)).getD .identifier
  | numeral n => .literal n.literal
  | symbol s => .symbol s

/-- The characters a word may start with. -/
def isWordStart (c : Char) : Bool :=
  c.isAlpha || c == '_'

/-- The characters a word may go on with. -/
def isWordPart (c : Char) : Bool :=
  c.isAlphanum || c == '_'

/-- The longest word at the front of a text. -/
def readWord? : List Char → Option (List Char)
  | [] => none
  | c :: text => if isWordStart c then some (c :: text.takeWhile isWordPart) else none

/-- How looking for a lexeme at the front of a text ends. -/
inductive Attempt where
  /-- The text is empty. -/
  | exhausted
  /-- There is a lexeme. -/
  | found (lexeme : Lexeme)
  /-- A numeral runs into an exponent mark without digits; the literal ends with the mark. -/
  | malformedExponent (literal : List Char)
  /-- No lexeme starts with this character. -/
  | unrecognized (c : Char)
deriving DecidableEq

/-- What a numeral makes of the text that it was read from. -/
def ofNumeral (n : Numeral) (text : List Char) : Attempt :=
  match n.strayMark? (text.drop n.text.length) with
  | some mark => .malformedExponent (n.text ++ [mark])
  | none => .found (.numeral n)

/-- Look for a lexeme at the front of a text. -/
def read : List Char → Attempt
  | [] => .exhausted
  | c :: text =>
    match readWord? (c :: text) with
    | some w => .found (.word w)
    | none =>
      match Numeral.read? (c :: text) with
      | some n => ofNumeral n (c :: text)
      | none =>
        match Symbol.read? (c :: text) with
        | some s => .found (.symbol s)
        | none => .unrecognized c

end Lexeme

end CurlyLex
