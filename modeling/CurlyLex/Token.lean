import CurlyLex.Kind
import CurlyLex.Position

/-!
# Tokens

A token is a classified piece of a source: its kind, its text, and the position of its first
character.  The mark of the end of the input has no text.

* `Token` — the type.
* `Token.toText` — the printed form: name, text between double marks, and position in brackets,
  divided by tabs.  The text is printed as it is.
-/

namespace CurlyLex

/-- A classified piece of a source. -/
structure Token where
  /-- What the token is. -/
  kind : Kind
  /-- The characters of the token; the end of the input has none. -/
  text : Option String
  /-- Where the first character stands. -/
  position : Position
deriving DecidableEq

namespace Token

/-- Does this token end a scan? -/
def isFinal (token : Token) : Bool :=
  token.kind == .endOfInput

/-- The printed form of a token. -/
def toText (token : Token) : String :=
  let place := "\t(" ++ token.position.toText ++ ")"
  match token.text with
  | some text => token.kind.name ++ "\t\"" ++ text ++ "\"" ++ place
  | none => token.kind.name ++ place

end Token

end CurlyLex
