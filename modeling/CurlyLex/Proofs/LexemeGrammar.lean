import CurlyLex.Proofs.GapGrammar
import CurlyLex.Proofs.NumeralGrammar
import CurlyLex.Reading
import Mathlib.Tactic.Tauto

/-!
# The grammar of lexemes

A lexeme is a word, a number or the spelling of a symbol.  The three sorts begin with different
characters, a point apart, which begins numbers and is a symbol alone.

* `IsLexeme` — the grammar; `Kind.Spells` — the texts of each kind of token.
* `IsLexeme.not_isBlank`, `IsLexeme.eq_slash`, `IsLexeme.eq_unequal` — no lexeme goes over a blank,
  only the slash over a slash, and only `!=` over an exclamation mark.
* `Kind.existsUnique_spells` — a lexeme has exactly one kind.
-/

namespace CurlyLex

/-! ### The grammar -/

/-- A lexeme is a word, a number or the spelling of a symbol. -/
def IsLexeme (text : List Char) : Prop :=
  Pattern.word.Matches text ∨ Pattern.number.Matches text ∨ ∃ s : Symbol, s.spelling = text

/-- The texts of a kind: a keyword has its spelling, an identifier is any other word, a number is
floating when it has a point or an exponent mark, and a symbol has its spelling. -/
def Kind.Spells : Kind → List Char → Prop
  | .keyword k, text => text = k.spelling.toList
  | .identifier, text => Pattern.word.Matches text ∧ ∀ k : Keyword, text ≠ k.spelling.toList
  | .literal .floating, text =>
    Pattern.number.Matches text ∧ ('.' ∈ text ∨ 'e' ∈ text ∨ 'E' ∈ text)
  | .literal .integer, text =>
    Pattern.number.Matches text ∧ ¬ ('.' ∈ text ∨ 'e' ∈ text ∨ 'E' ∈ text)
  | .symbol s, text => text = s.spelling
  | .endOfInput, _ => False

/-! ### Classes of characters -/

theorem isDigit_iff {c : Char} : c.isDigit ↔ 48 ≤ c.toNat ∧ c.toNat ≤ 57 := by
  simp only [Char.isDigit, Bool.and_eq_true, decide_eq_true_eq, ge_iff_le, UInt32.le_iff_toNat_le]
  rfl

theorem isAlpha_iff {c : Char} :
    c.isAlpha ↔ 65 ≤ c.toNat ∧ c.toNat ≤ 90 ∨ 97 ≤ c.toNat ∧ c.toNat ≤ 122 := by
  have hupper : c.isUpper ↔ 65 ≤ c.toNat ∧ c.toNat ≤ 90 := by
    show decide (c.val ≥ 'A'.val ∧ c.val ≤ 'Z'.val) = true ↔ _
    rw [decide_eq_true_eq]
    exact Iff.rfl
  have hlower : c.isLower ↔ 97 ≤ c.toNat ∧ c.toNat ≤ 122 := by
    show (decide (c.val ≥ 'a'.val) && decide (c.val ≤ 'z'.val)) = true ↔ _
    rw [Bool.and_eq_true, decide_eq_true_eq, decide_eq_true_eq]
    exact Iff.rfl
  show (c.isUpper || c.isLower) = true ↔ _
  rw [Bool.or_eq_true, hupper, hlower]

theorem isWordStart_iff {c : Char} : Lexeme.isWordStart c ↔ c.isAlpha ∨ c = '_' := by
  simp [Lexeme.isWordStart]

theorem isBlank_iff {c : Char} : Text.isBlank c ↔
    ∃ range ∈ Text.blank.ranges, range.1 ≤ c.toNat ∧ c.toNat ≤ range.2 := by
  simp only [Text.isBlank, Text.CodeRanges.covers, List.any_eq_true, Bool.and_eq_true,
    decide_eq_true_eq]

/-- A character of a word or a number is neither blank nor a slash. -/
theorem not_blank_of_code {c : Char}
    (h : c.isAlpha ∨ c.isDigit ∨ c = '_' ∨ c = '.' ∨ c = '+' ∨ c = '-') :
    ¬ Text.isBlank c ∧ c ≠ '/' := by
  have hcodes : 65 ≤ c.toNat ∧ c.toNat ≤ 90 ∨ 97 ≤ c.toNat ∧ c.toNat ≤ 122 ∨
      48 ≤ c.toNat ∧ c.toNat ≤ 57 ∨ c.toNat = 95 ∨ c.toNat = 46 ∨ c.toNat = 43 ∨ c.toNat = 45 := by
    rw [isAlpha_iff, isDigit_iff] at h
    rcases h with h | h | rfl | rfl | rfl | rfl
    · omega
    · omega
    all_goals decide
  refine ⟨?_, ?_⟩
  · simp only [isBlank_iff, Text.blank, List.mem_cons, List.not_mem_nil, or_false, exists_eq_or_imp,
      exists_eq_left]
    omega
  · intro hc
    rw [hc] at hcodes
    revert hcodes
    decide

theorem not_isDigit_of_isWordStart {c : Char} (h : Lexeme.isWordStart c) :
    ¬ c.isDigit ∧ c ≠ '.' := by
  rw [isWordStart_iff] at h
  rcases h with h | rfl
  · rw [isAlpha_iff] at h
    rw [isDigit_iff]
    refine ⟨by omega, ?_⟩
    intro hpoint
    rw [hpoint] at h
    exact absurd h (by decide)
  · decide

/-! ### First characters -/

theorem Pattern.isWordStart_of_word {c : Char} {text : List Char} (h : word.Matches (c :: text)) :
    Lexeme.isWordStart c := by
  obtain ⟨d, rest, heq, hd, -⟩ := word_iff.1 h
  obtain ⟨rfl, -⟩ := List.cons_eq_cons.1 heq
  exact hd

theorem Pattern.isDigit_or_eq_of_plainNumber {c : Char} {text : List Char}
    (h : plainNumber.Matches (c :: text)) : c.isDigit ∨ c = '.' := by
  rcases h with ⟨whole, fraction, ⟨hne, hall⟩, -, heq⟩ | h
  · obtain ⟨d, whole, rfl⟩ := List.exists_cons_of_ne_nil hne
    obtain ⟨rfl, -⟩ := List.cons_eq_cons.1 heq
    exact .inl (hall c List.mem_cons_self)
  · obtain ⟨power, heq, -⟩ := fraction_iff.1 h
    exact .inr (List.cons_eq_cons.1 heq).1

theorem Pattern.plainNumber_ne_nil {text : List Char} (h : plainNumber.Matches text) :
    text ≠ [] := by
  obtain ⟨n, hn, -, rfl⟩ := plainNumber_iff.1 h
  exact hn.plain_ne_nil

theorem Pattern.number_ne_nil {text : List Char} (h : number.Matches text) : text ≠ [] := by
  obtain ⟨plain, exponent, hplain, -, rfl⟩ := h
  intro hnil
  exact plainNumber_ne_nil hplain (List.append_eq_nil_iff.1 hnil).1

theorem Pattern.isDigit_or_eq_of_number {c : Char} {text : List Char}
    (h : number.Matches (c :: text)) : c.isDigit ∨ c = '.' := by
  obtain ⟨plain, exponent, hplain, -, heq⟩ := h
  obtain ⟨d, plain, rfl⟩ := List.exists_cons_of_ne_nil (plainNumber_ne_nil hplain)
  obtain ⟨rfl, -⟩ := List.cons_eq_cons.1 heq
  exact isDigit_or_eq_of_plainNumber hplain

/-- No symbol begins like a word or with a digit, and only the lone point begins with a point. -/
theorem Symbol.first_of_spelling {s : Symbol} {c : Char} {text : List Char}
    (h : s.spelling = c :: text) :
    ¬ Lexeme.isWordStart c ∧ ¬ c.isDigit ∧ (c = '.' → text = []) ∧ (c = '/' → text = []) := by
  cases s <;> obtain ⟨rfl, rfl⟩ := List.cons_eq_cons.1 h <;> decide

theorem IsLexeme.ne_nil {text : List Char} (h : IsLexeme text) : text ≠ [] := by
  rcases h with h | h | ⟨s, rfl⟩
  · obtain ⟨c, rest, rfl, -⟩ := Pattern.word_iff.1 h
    exact List.cons_ne_nil _ _
  · exact Pattern.number_ne_nil h
  · exact s.spelling_ne_nil

/-! ### Characters of lexemes -/

theorem Pattern.mem_word {c : Char} {text : List Char} (h : word.Matches text) (hc : c ∈ text) :
    c.isAlpha ∨ c.isDigit ∨ c = '_' := by
  obtain ⟨d, rest, rfl, hd, hrest⟩ := word_iff.1 h
  rcases List.mem_cons.1 hc with rfl | hc
  · rw [isWordStart_iff] at hd
    exact hd.elim .inl (fun h => .inr (.inr h))
  · have hpart := hrest c hc
    simp only [Lexeme.isWordPart, Char.isAlphanum, Bool.or_eq_true, beq_iff_eq] at hpart
    exact or_assoc.1 hpart

theorem Pattern.mem_fraction {c : Char} {text : List Char} (h : fraction.Matches text)
    (hc : c ∈ text) : c.isDigit ∨ c = '.' := by
  obtain ⟨power, rfl, -, hall⟩ := fraction_iff.1 h
  rcases List.mem_cons.1 hc with rfl | hc
  · exact .inr rfl
  · exact .inl (hall c hc)

theorem Pattern.mem_exponent {c : Char} {text : List Char} (h : exponent.Matches text)
    (hc : c ∈ text) : c.isDigit ∨ Numeral.isMark c ∨ Numeral.isSign c := by
  obtain ⟨mark, sign, power, rfl, hmark, hsign, -, hall⟩ := exponent_iff.1 h
  rcases List.mem_cons.1 hc with rfl | hc
  · exact .inr (.inl hmark)
  rcases List.mem_append.1 hc with hc | hc
  · rcases hsign with rfl | ⟨s, hs, rfl⟩
    · simp at hc
    · obtain rfl : c = s := by simpa using hc
      exact .inr (.inr hs)
  · exact .inl (hall c hc)

theorem Pattern.mem_plainNumber {c : Char} {text : List Char} (h : plainNumber.Matches text)
    (hc : c ∈ text) : c.isDigit ∨ c = '.' := by
  obtain ⟨n, hn, -, rfl⟩ := plainNumber_iff.1 h
  rcases List.mem_append.1 hc with hc | hc
  · exact .inl (hn.whole c hc)
  · rcases hn.fraction with hnil | hfraction
    · rw [hnil] at hc
      simp at hc
    · exact mem_fraction hfraction hc

theorem Pattern.mem_number {c : Char} {text : List Char} (h : number.Matches text)
    (hc : c ∈ text) :
    c.isDigit ∨ c = '.' ∨ Numeral.isMark c ∨ Numeral.isSign c := by
  obtain ⟨plain, exponent, hplain, hexponent, rfl⟩ := h
  rcases List.mem_append.1 hc with hc | hc
  · exact (mem_plainNumber hplain hc).imp_right .inl
  · rcases hexponent with rfl | hexponent
    · simp at hc
    · exact (mem_exponent hexponent hc).imp_right .inr

/-- Words and numbers go over neither blanks nor slashes. -/
theorem not_blank_of_mem {c : Char} {text : List Char}
    (h : Pattern.word.Matches text ∨ Pattern.number.Matches text) (hc : c ∈ text) :
    ¬ Text.isBlank c ∧ c ≠ '/' := by
  apply not_blank_of_code
  rcases h with h | h
  · have := Pattern.mem_word h hc
    tauto
  · rcases Pattern.mem_number h hc with h | h | h | h
    · exact .inr (.inl h)
    · exact .inr (.inr (.inr (.inl h)))
    · have h' : c = 'e' ∨ c = 'E' := by simpa [Numeral.isMark] using h
      refine .inl ?_
      rcases h' with rfl | rfl <;> decide
    · have h' : c = '+' ∨ c = '-' := by simpa [Numeral.isSign] using h
      tauto

/-- No lexeme goes over a blank. -/
theorem IsLexeme.not_isBlank {c : Char} {text : List Char} (h : IsLexeme text) (hc : c ∈ text) :
    ¬ Text.isBlank c := by
  rcases h with h | h | ⟨s, rfl⟩
  · exact (not_blank_of_mem (.inl h) hc).1
  · exact (not_blank_of_mem (.inr h) hc).1
  · have hall : s.spelling.all (fun d => !Text.isBlank d) = true := by
      cases s <;> decide
    simpa using List.all_eq_true.1 hall c hc

/-- Only the slash goes over a slash. -/
theorem IsLexeme.eq_slash {text : List Char} (h : IsLexeme text) (hc : '/' ∈ text) :
    text = ['/'] := by
  rcases h with h | h | ⟨s, rfl⟩
  · exact absurd rfl (not_blank_of_mem (.inl h) hc).2
  · exact absurd rfl (not_blank_of_mem (.inr h) hc).2
  · revert hc
    cases s <;> decide

/-- Only `!=` goes over an exclamation mark. -/
theorem IsLexeme.eq_unequal {text : List Char} (h : IsLexeme text) (hc : '!' ∈ text) :
    text = ['!', '='] := by
  rcases h with h | h | ⟨s, rfl⟩
  · exact absurd (Pattern.mem_word h hc) (by decide)
  · exact absurd (Pattern.mem_number h hc) (by decide)
  · revert hc
    cases s <;> decide

/-! ### Kinds -/

theorem Pattern.not_number_of_word {text : List Char} (hword : word.Matches text) :
    ¬ number.Matches text := by
  intro hnumber
  obtain ⟨c, rest, rfl, hc, -⟩ := word_iff.1 hword
  have hclass := not_isDigit_of_isWordStart hc
  exact (isDigit_or_eq_of_number hnumber).elim hclass.1 hclass.2

theorem Symbol.not_word_of_spelling {s : Symbol} {text : List Char} (h : s.spelling = text) :
    ¬ Pattern.word.Matches text := by
  intro hword
  obtain ⟨c, rest, rfl, hc, -⟩ := Pattern.word_iff.1 hword
  exact (first_of_spelling h).1 hc

theorem Symbol.not_number_of_spelling {s : Symbol} {text : List Char} (h : s.spelling = text) :
    ¬ Pattern.number.Matches text := by
  intro hnumber
  obtain ⟨c, rest, rfl⟩ := List.exists_cons_of_ne_nil (Pattern.number_ne_nil hnumber)
  have hfirst := first_of_spelling h
  rcases Pattern.isDigit_or_eq_of_number hnumber with hdigit | hpoint
  · exact hfirst.2.1 hdigit
  · -- a point alone is no number
    obtain rfl := hpoint
    obtain rfl := hfirst.2.2.1 rfl
    obtain ⟨plain, exponent, hplain, hexponent, heq⟩ := hnumber
    rcases hplain with ⟨whole, fraction, ⟨hne, hall⟩, -, rfl⟩ | hfraction
    · obtain ⟨d, whole, rfl⟩ := List.exists_cons_of_ne_nil hne
      obtain ⟨rfl, -⟩ := List.cons_eq_cons.1 heq
      exact absurd (hall '.' List.mem_cons_self) (by decide)
    · obtain ⟨power, rfl, hne, -⟩ := Pattern.fraction_iff.1 hfraction
      have hnil := (List.cons_eq_cons.1 heq).2
      exact hne (List.append_eq_nil_iff.1 hnil.symm).1

theorem Symbol.spelling_injective {s t : Symbol} (h : s.spelling = t.spelling) : s = t := by
  revert h
  cases s <;> cases t <;> decide

theorem Keyword.spelling_injective {k k' : Keyword}
    (h : k.spelling.toList = k'.spelling.toList) : k = k' := by
  revert h
  cases k <;> cases k' <;> decide

theorem Keyword.word_spelling (k : Keyword) : Pattern.word.Matches k.spelling.toList := by
  rw [Pattern.word_iff]
  cases k <;> exact ⟨_, _, rfl, by decide, List.all_eq_true.1 (by decide)⟩

namespace Keywords

theorem kind?_spelling (k : Keyword) : reserved.kind? k.spelling = some (.keyword k) := by
  cases k <;> decide

theorem kind?_eq_none {word : String} (h : ∀ k : Keyword, word ≠ k.spelling) :
    reserved.kind? word = none := by
  have hall : ∀ k : Keyword, ¬ word = k.spelling := h
  simp only [reserved, ofList, Keyword.all, List.map_cons, List.map_nil, List.foldl_cons,
    List.foldl_nil, kind?_insert, hall, if_false]
  rfl

end Keywords

namespace Kind

/-- Only a keyword and an identifier are spelled like a word. -/
theorem Spells.of_word {kind : Kind} {text : List Char} (h : kind.Spells text)
    (hword : Pattern.word.Matches text) :
    (∃ k : Keyword, kind = .keyword k ∧ text = k.spelling.toList) ∨
      kind = .identifier ∧ ∀ k : Keyword, text ≠ k.spelling.toList := by
  have hnumber := Pattern.not_number_of_word hword
  match kind, h with
  | .keyword k, h => exact .inl ⟨k, rfl, h⟩
  | .identifier, h => exact .inr ⟨rfl, h.2⟩
  | .literal .integer, h => exact absurd h.1 hnumber
  | .literal .floating, h => exact absurd h.1 hnumber
  | .symbol s, h => exact absurd hword (Symbol.not_word_of_spelling (Eq.symm h))

/-- The kind of a word is its entry among the keywords of the language. -/
theorem spells_iff_of_word {text : List Char} (hword : Pattern.word.Matches text) {kind : Kind} :
    kind.Spells text ↔ kind = (Keywords.reserved.kind? (String.ofList text)).getD .identifier := by
  by_cases hkeyword : ∃ k : Keyword, text = k.spelling.toList
  · obtain ⟨k, rfl⟩ := hkeyword
    rw [String.ofList_toList, Keywords.kind?_spelling, Option.getD_some]
    constructor
    · intro h
      rcases h.of_word hword with ⟨k', rfl, hsame⟩ | ⟨-, hnone⟩
      · rw [Keyword.spelling_injective hsame]
      · exact absurd rfl (hnone k)
    · intro h
      rw [h]
      exact rfl
  · have hnone : Keywords.reserved.kind? (String.ofList text) = none := by
      apply Keywords.kind?_eq_none
      intro k hk
      exact hkeyword ⟨k, by rw [← hk, String.toList_ofList]⟩
    rw [hnone, Option.getD_none]
    constructor
    · intro h
      rcases h.of_word hword with ⟨k, -, hk⟩ | ⟨rfl, -⟩
      · exact absurd ⟨k, hk⟩ hkeyword
      · rfl
    · intro h
      rw [h]
      exact ⟨hword, fun k hk => hkeyword ⟨k, hk⟩⟩

/-- A numeral is floating exactly when a point or an exponent mark is in its text. -/
theorem floating_iff {n : Numeral} (hn : n.WellFormed) :
    ('.' ∈ n.text ∨ 'e' ∈ n.text ∨ 'E' ∈ n.text) ↔ n.literal = .floating := by
  rw [Numeral.literal]
  constructor
  · intro h
    rw [if_neg]
    intro hempty
    have hparts : n.fraction = [] ∧ n.exponent = [] := by simpa using hempty
    have hdigits : ∀ c ∈ n.text, c.isDigit := by
      intro c hc
      rw [Numeral.text, hparts.1, hparts.2, List.append_nil, List.append_nil] at hc
      exact hn.whole c hc
    rcases h with h | h | h <;> exact absurd (hdigits _ h) (by decide)
  · intro h
    rcases hn.fraction with hfraction | hfraction
    · rcases hn.exponent with hexponent | hexponent
      · rw [hfraction, hexponent] at h
        exact absurd h (by decide)
      · obtain ⟨mark, sign, power, heq, hmark, -⟩ := Pattern.exponent_iff.1 hexponent
        have hmem : mark ∈ n.text := by
          rw [Numeral.text, heq]
          exact List.mem_append_right _ List.mem_cons_self
        have hletter : mark = 'e' ∨ mark = 'E' := by simpa [Numeral.isMark] using hmark
        rcases hletter with rfl | rfl
        · exact .inr (.inl hmem)
        · exact .inr (.inr hmem)
    · obtain ⟨power, heq, -⟩ := Pattern.fraction_iff.1 hfraction
      left
      rw [Numeral.text, heq]
      exact List.mem_append_left _ (List.mem_append_right _ List.mem_cons_self)

/-- The kind of a number is that of the numeral with its text. -/
theorem spells_iff_of_number {n : Numeral} (hn : n.WellFormed) {kind : Kind} :
    kind.Spells n.text ↔ kind = .literal n.literal := by
  have hnumber : Pattern.number.Matches n.text := Pattern.number_iff.2 ⟨n, hn, rfl⟩
  constructor
  · intro h
    cases kind with
    | keyword k => exact absurd hnumber (Pattern.not_number_of_word (h ▸ k.word_spelling))
    | identifier => exact absurd hnumber (Pattern.not_number_of_word h.1)
    | literal l =>
      cases l with
      | floating => rw [(floating_iff hn).1 h.2]
      | integer =>
        cases hliteral : n.literal with
        | integer => rfl
        | floating => exact absurd ((floating_iff hn).2 hliteral) h.2
    | symbol s => exact absurd hnumber (Symbol.not_number_of_spelling (Eq.symm h))
    | endOfInput => exact h.elim
  · intro h
    rw [h]
    cases hliteral : n.literal with
    | integer =>
      refine ⟨hnumber, fun hsome => ?_⟩
      rw [(floating_iff hn).1 hsome] at hliteral
      exact absurd hliteral (by decide)
    | floating => exact ⟨hnumber, (floating_iff hn).2 hliteral⟩

/-- The kind of the spelling of a symbol is that symbol. -/
theorem spells_iff_of_symbol {s : Symbol} {kind : Kind} :
    kind.Spells s.spelling ↔ kind = .symbol s := by
  constructor
  · intro h
    match kind, h with
    | .keyword k, h => exact absurd (h ▸ k.word_spelling) (Symbol.not_word_of_spelling rfl)
    | .identifier, h => exact absurd h.1 (Symbol.not_word_of_spelling rfl)
    | .literal .integer, h => exact absurd h.1 (Symbol.not_number_of_spelling rfl)
    | .literal .floating, h => exact absurd h.1 (Symbol.not_number_of_spelling rfl)
    | .symbol t, h => rw [Symbol.spelling_injective h]
  · intro h
    rw [h]
    exact rfl

/-- **A lexeme has exactly one kind.** -/
theorem existsUnique_spells {text : List Char} (h : IsLexeme text) : ∃! kind, Spells kind text := by
  rcases h with h | h | ⟨s, rfl⟩
  · exact ⟨_, (spells_iff_of_word h).2 rfl, fun _ h' => (spells_iff_of_word h).1 h'⟩
  · obtain ⟨n, hn, rfl⟩ := Pattern.number_iff.1 h
    exact ⟨_, (spells_iff_of_number hn).2 rfl, fun _ h' => (spells_iff_of_number hn).1 h'⟩
  · exact ⟨_, spells_iff_of_symbol.2 rfl, fun _ h' => spells_iff_of_symbol.1 h'⟩

end Kind

end CurlyLex
