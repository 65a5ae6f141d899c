import CurlyLex.Kind

/-!
# Numerals

A numeral has a whole part, a fraction and an exponent.  The whole part is a run of digits; the
fraction is a point and a run of at least one digit; the exponent is a mark, an optional sign and a
run of at least one digit.  The whole part or the fraction may be missing, but not both, and the
exponent may be missing.  Each part is as long as it can be, and a point or a mark that no digit
follows is not taken.

* `Numeral` — the three parts, with `Numeral.text` and `Numeral.literal`.
* `Numeral.digits`, `Numeral.fractionOf`, `Numeral.exponentOf` — the parts at the front of a text.
* `Numeral.read?` — the numeral at the front of a text.
* `Numeral.strayMark?` — the exponent mark that a numeral without exponent runs into.
-/

namespace CurlyLex

/-- A number as it is written. -/
structure Numeral where
  /-- The digits before the point. -/
  whole : List Char
  /-- The point with the digits after it, or nothing. -/
  fraction : List Char
  /-- The mark, sign and digits of the exponent, or nothing. -/
  exponent : List Char
deriving DecidableEq

namespace Numeral

/-- The characters of a numeral. -/
def text (numeral : Numeral) : List Char :=
  numeral.whole ++ numeral.fraction ++ numeral.exponent

/-- A number with a fraction or an exponent is floating; digits alone are an integer. -/
def literal (numeral : Numeral) : Literal :=
  if numeral.fraction.isEmpty && numeral.exponent.isEmpty then .integer else .floating

/-- The letters that introduce an exponent. -/
def isMark (c : Char) : Bool :=
  c == 'e' || c == 'E'

/-- The signs of an exponent. -/
def isSign (c : Char) : Bool :=
  c == '+' || c == '-'

/-- The longest run of digits at the front of a text. -/
def digits (text : List Char) : List Char :=
  text.takeWhile Char.isDigit

/-- The sign at the front of a text, or nothing. -/
def signOf (text : List Char) : List Char :=
  (text.take 1).filter isSign

/-- The fraction at the front of a text, or nothing. -/
def fractionOf : List Char → List Char
  | '.' :: text => if (digits text).isEmpty then [] else '.' :: digits text
  | _ => []

/-- The exponent at the front of a text, or nothing. -/
def exponentOf : List Char → List Char
  | [] => []
  | mark :: text =>
    let sign := signOf text
    let power := digits (text.drop sign.length)
    if isMark mark && !power.isEmpty then mark :: (sign ++ power) else []

/-- The numeral at the front of a text; nothing when the text starts with neither a digit nor a
point and a digit. -/
def read? (text : List Char) : Option Numeral :=
  let whole := digits text
  let afterWhole := text.drop whole.length
  let fraction := fractionOf afterWhole
  if whole.isEmpty && fraction.isEmpty then none
  else some ⟨whole, fraction, exponentOf (afterWhole.drop fraction.length)⟩

/-- The exponent mark that stands right after a numeral without exponent: it promises digits that
never come. -/
def strayMark? (numeral : Numeral) (following : List Char) : Option Char :=
  if numeral.exponent.isEmpty then following.head?.filter isMark else none

end Numeral

end CurlyLex
