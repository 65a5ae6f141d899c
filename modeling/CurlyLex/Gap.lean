import CurlyLex.Text.Blank

/-!
# Gaps between lexemes

A gap is any mixture of blanks, line comments and block comments.  A line comment runs from two
slashes up to the next line feed or the end of the text.  A block comment runs from a slash and a
star to the first star and slash after those two characters; comments do not nest, and a block
comment that never ends spoils the whole text.

The reader walks the text once, in one of three modes, and counts the characters of the gap.

* `Gap.Mode` — where the reader stands.
* `Gap.measure?` — the walk from a mode and a count.
* `Gap.length?` — the length of the longest gap at the front of a text, or nothing when a block
  comment of it never ends.
-/

namespace CurlyLex.Gap

/-- Where the reader of a gap stands. -/
inductive Mode where
  /-- Between comments. -/
  | between
  /-- Inside a line comment. -/
  | line
  /-- Inside a block comment. -/
  | block
deriving DecidableEq

/-- Walk over a gap, adding its characters to a count; nothing when the text ends inside a block
comment. -/
def measure? : Mode → Nat → List Char → Option Nat
  | .between, n, [] => some n
  | .between, n, '/' :: '/' :: text => measure? .line (n + 2) text
  | .between, n, '/' :: '*' :: text => measure? .block (n + 2) text
  | .between, n, c :: text => if Text.isBlank c then measure? .between (n + 1) text else some n
  | .line, n, [] => some n
  | .line, n, c :: text => measure? (if c = '\n' then .between else .line) (n + 1) text
  | .block, _, [] => none
  | .block, n, '*' :: '/' :: text => measure? .between (n + 2) text
  | .block, n, _ :: text => measure? .block (n + 1) text

/-- The length of the longest gap at the front of a text, or nothing when a block comment of it
never ends. -/
def length? (text : List Char) : Option Nat :=
  measure? .between 0 text

/-- The count that a walk starts with is added to its result. -/
theorem measure?_add (m : Nat) (mode : Mode) (n : Nat) (text : List Char) :
    measure? mode (m + n) text = (measure? mode n text).map (m + ·) := by
  fun_induction measure? mode n text with
  | case1 n => rfl
  | case2 n text ih => exact ih
  | case3 n text ih => exact ih
  | case4 n c text noLine noBlock isBlank ih =>
    rw [measure?.eq_4 _ _ _ noLine noBlock, if_pos isBlank]
    exact ih
  | case5 n c text noLine noBlock notBlank =>
    rw [measure?.eq_4 _ _ _ noLine noBlock, if_neg notBlank]
    rfl
  | case6 n => rfl
  | case7 n c text ih => exact ih
  | case8 n => rfl
  | case9 n text ih => exact ih
  | case10 n c text noEnd ih =>
    rw [measure?.eq_9 _ _ _ noEnd]
    exact ih

end CurlyLex.Gap
