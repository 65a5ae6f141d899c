import CurlyLex.Lexeme
import Mathlib.Data.List.Infix
import Mathlib.Data.List.TakeWhile

/-!
# Patterns and longest matches

The shapes of words and numbers, written down as patterns over classes of characters and without
regard to how a reader finds them.  A text matches a pattern as a whole; which of the matching
prefixes of a longer text is taken is a second question, answered here by `Longest`.

* `Pattern` — one character, runs, sequences, alternatives and options, with `Pattern.Matches`.
* `Pattern.word`, `Pattern.plainNumber`, `Pattern.number` — the shapes in use.
* `Longest` — the longest prefix of a text in a set of texts; there is at most one
  (`Longest.unique`).
* `length_le_length_takeWhile` — a prefix within a class is no longer than the run of that class.
-/

namespace CurlyLex

/-! ### Patterns -/

/-- A set of texts, described over classes of characters. -/
inductive Pattern where
  /-- One character of a class. -/
  | one (accepts : Char → Bool)
  /-- A run of at least one character of a class. -/
  | run (accepts : Char → Bool)
  /-- One pattern behind another. -/
  | seq (first second : Pattern)
  /-- One pattern or another. -/
  | either (first second : Pattern)
  /-- A pattern or nothing. -/
  | optional (body : Pattern)

namespace Pattern

/-- A text matches a pattern when the pattern describes all of it. -/
def Matches : Pattern → List Char → Prop
  | one accepts, text => ∃ c, accepts c ∧ text = [c]
  | run accepts, text => text ≠ [] ∧ ∀ c ∈ text, accepts c
  | seq first second, text => ∃ u v, first.Matches u ∧ second.Matches v ∧ text = u ++ v
  | either first second, text => first.Matches text ∨ second.Matches text
  | optional body, text => text = [] ∨ body.Matches text

/-- A letter or an underscore, then letters, digits and underscores; all of ASCII. -/
def word : Pattern :=
  seq (one fun c => c.isAlpha || c == '_') (optional (run fun c => c.isAlphanum || c == '_'))

/-- Digits of ASCII. -/
def digits : Pattern :=
  run Char.isDigit

/-- A point and digits. -/
def fraction : Pattern :=
  seq (one fun c => c == '.') digits

/-- The letter `e` of either case, perhaps a sign, and digits. -/
def exponent : Pattern :=
  seq (one fun c => c == 'e' || c == 'E')
    (seq (optional (one fun c => c == '+' || c == '-')) digits)

/-- Digits with perhaps a fraction, or a fraction alone. -/
def plainNumber : Pattern :=
  either (seq digits (optional fraction)) fraction

/-- A plain number with perhaps an exponent. -/
def number : Pattern :=
  seq plainNumber (optional exponent)

theorem number_of_plainNumber {text : List Char} (h : plainNumber.Matches text) :
    number.Matches text :=
  ⟨text, [], h, .inl rfl, (List.append_nil text).symm⟩

/-- A word in one piece: its first character and the rest. -/
theorem word_iff {text : List Char} :
    word.Matches text ↔ ∃ c rest, text = c :: rest ∧ Lexeme.isWordStart c ∧
      ∀ d ∈ rest, Lexeme.isWordPart d := by
  constructor
  · intro h
    obtain ⟨_, v, ⟨c, hc, rfl⟩, hv, rfl⟩ := h
    refine ⟨c, v, rfl, hc, ?_⟩
    rcases hv with rfl | ⟨_, hv⟩
    · intro d hd
      simp at hd
    · exact hv
  · intro h
    obtain ⟨c, rest, rfl, hc, hrest⟩ := h
    refine ⟨[c], rest, ⟨c, hc, rfl⟩, ?_, rfl⟩
    by_cases h : rest = []
    · exact .inl h
    · exact .inr ⟨h, hrest⟩

/-- A fraction is a point and a run of digits. -/
theorem fraction_iff {text : List Char} :
    fraction.Matches text ↔ ∃ power, text = '.' :: power ∧ digits.Matches power := by
  constructor
  · intro h
    obtain ⟨_, power, ⟨c, hc, rfl⟩, hpower, rfl⟩ := h
    obtain rfl : c = '.' := by simpa using hc
    exact ⟨power, rfl, hpower⟩
  · intro h
    obtain ⟨power, rfl, hpower⟩ := h
    exact ⟨['.'], power, ⟨'.', rfl, rfl⟩, hpower, rfl⟩

end Pattern

/-! ### Longest prefixes -/

/-- `taken` is the longest prefix of `text` among the texts with a property. -/
structure Longest (property : List Char → Prop) (taken text : List Char) : Prop where
  /-- It is a prefix. -/
  isPrefix : taken <+: text
  /-- It has the property. -/
  holds : property taken
  /-- No prefix with the property is longer. -/
  longest : ∀ other, other <+: text → property other → other.length ≤ taken.length

/-- There is at most one longest prefix. -/
theorem Longest.unique {property : List Char → Prop} {first second text : List Char}
    (h₁ : Longest property first text) (h₂ : Longest property second text) : first = second := by
  have hle := h₂.longest first h₁.isPrefix h₁.holds
  have hge := h₁.longest second h₂.isPrefix h₂.holds
  exact (List.prefix_of_prefix_length_le h₁.isPrefix h₂.isPrefix hle).eq_of_length
    (Nat.le_antisymm hle hge)

/-- A prefix within a class is no longer than the run of the class. -/
theorem length_le_length_takeWhile {accepts : Char → Bool} {taken text : List Char}
    (hfront : taken <+: text) (hall : ∀ c ∈ taken, accepts c) :
    taken.length ≤ (text.takeWhile accepts).length := by
  obtain ⟨rest, rfl⟩ := hfront
  rw [List.takeWhile_append_of_pos hall, List.length_append]
  omega

end CurlyLex
