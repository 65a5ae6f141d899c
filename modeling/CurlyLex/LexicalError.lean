import CurlyLex.Position
import CurlyLex.Text.Quoted

/-!
# Lexical errors

A source that cannot be read has a fault at a position.  There are three faults; each has a name, a
detail that shows the offending characters in quoted form, and, where a repair is known, a tip.

* `Fault` — what is wrong, with `Fault.name`, `Fault.detail` and `Fault.tip?`.
* `LexicalError` — a fault and where it stands, with `LexicalError.message`.
-/

namespace CurlyLex

/-- What is wrong with a source. -/
inductive Fault where
  /-- A block comment never ends. -/
  | unterminatedComment
  /-- A number ends with an exponent mark; the literal ends with the mark. -/
  | malformedExponent (literal : String)
  /-- A character starts no lexeme. -/
  | unrecognizedCharacter (character : Char)
deriving DecidableEq

namespace Fault

/-- The fixed name of a fault. -/
def name : Fault → String
  | unterminatedComment => "UnterminatedComment"
  | malformedExponent _ => "MalformedExponent"
  | unrecognizedCharacter _ => "UnrecognizedCharacter"

/-- A fault in words. -/
def detail : Fault → String
  | unterminatedComment => "unterminated block comment"
  | malformedExponent literal => "malformed exponent in " ++ Text.quoteString literal
  | unrecognizedCharacter c => "unrecognized character " ++ Text.quoteChar c

/-- How a fault may be repaired, where that is known. -/
def tip? : Fault → Option String
  | unterminatedComment => some "Block comment is never closed, did you forget a `*/`?"
  | malformedExponent literal =>
    some ("Exponent of `" ++ literal ++ "` needs at least one digit, e.g. `" ++ literal ++ "1`")
  | unrecognizedCharacter c => if c = '!' then some "`!` is only valid as part of `!=`" else none

end Fault

/-- A fault and the position it is reported at. -/
structure LexicalError where
  /-- What is wrong. -/
  fault : Fault
  /-- Where it is reported. -/
  position : Position
deriving DecidableEq

namespace LexicalError

/-- The fault in words, and its position. -/
def message (error : LexicalError) : String :=
  error.fault.detail ++ " at " ++ error.position.toText

end LexicalError

end CurlyLex
