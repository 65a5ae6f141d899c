import CurlyLex.Proofs.LexemeGrammar

/-!
# Reading lexemes

The reader looks for a word, then for a number, then for a symbol, and takes the first it finds.
What it takes is nevertheless the longest lexeme of any sort.  Where nothing is taken, the text
either begins with a number that runs into an exponent mark, or with a character that begins no
lexeme.

* `LexemeAt` — a text that is taken as a lexeme when a given text comes behind it.
* `RunsIntoMark`, `StartsNothing` — the two ways in which nothing is taken.
* `LexemeAt.read`, `RunsIntoMark.read`, `StartsNothing.read` — what the reader makes of each.
* `Lexeme.exhaustive` — outside gaps, every text that is not empty is one of the three.
-/

namespace CurlyLex

/-- `lexeme` is taken as a lexeme when `rest` comes behind it: no longer lexeme stands there, no
comment begins there, and it is no number without exponent that runs into an exponent mark. -/
structure LexemeAt (lexeme rest : List Char) : Prop where
  longest : Longest IsLexeme lexeme (lexeme ++ rest)
  not_line : ¬ ['/', '/'] <+: lexeme ++ rest
  not_block : ¬ ['/', '*'] <+: lexeme ++ rest
  no_mark : Pattern.plainNumber.Matches lexeme → ∀ c ∈ rest.head?, c ≠ 'e' ∧ c ≠ 'E'

/-- The longest plain number at the front of a text is followed by an exponent mark, but no power
follows the mark. -/
structure RunsIntoMark (number : List Char) (mark : Char) (text : List Char) : Prop where
  longest : Longest Pattern.plainNumber.Matches number text
  isMark : mark = 'e' ∨ mark = 'E'
  no_power : ∃ rest, text = number ++ mark :: rest ∧ ¬ Numeral.StartsPower rest

/-- A text begins with a character with which neither a blank nor a lexeme begins. -/
structure StartsNothing (c : Char) (text : List Char) : Prop where
  head : text.head? = some c
  not_blank : ¬ Text.isBlank c
  not_word : ¬ (c.isAlpha ∨ c.isDigit ∨ c = '_')
  not_symbol : ∀ s : Symbol, s.spelling ≠ [c]
  not_unequal : c = '!' → ¬ ['!', '='] <+: text

/-- A longest prefix stays longest among more texts, when no prefix among these is longer. -/
theorem Longest.widen {narrow wide : List Char → Prop} {taken text : List Char}
    (h : Longest narrow taken text) (hwide : wide taken)
    (hothers : ∀ other, other <+: text → wide other →
      narrow other ∨ other.length ≤ taken.length) :
    Longest wide taken text := by
  refine ⟨h.isPrefix, hwide, ?_⟩
  intro other hfront hother
  rcases hothers other hfront hother with hnarrow | hle
  · exact h.longest other hfront hnarrow
  · exact hle

/-- A text begins with the first character of each of its prefixes. -/
theorem head_eq_of_front {c d : Char} {front text : List Char} (h : d :: front <+: c :: text) :
    d = c := by
  obtain ⟨rest, hrest⟩ := h
  exact (List.cons_eq_cons.1 hrest).1

/-! ### Each of the three readers -/

namespace Lexeme

theorem longest_readWord? {text word : List Char} (h : readWord? text = some word) :
    Longest Pattern.word.Matches word text := by
  cases text with
  | nil => simp [readWord?] at h
  | cons c text =>
    rw [readWord?] at h
    split at h
    · rename_i hc
      cases h
      refine ⟨?_, ?_, ?_⟩
      · exact (List.prefix_cons_inj c).2 (List.takeWhile_prefix _)
      · exact Pattern.word_iff.2 ⟨c, _, rfl, hc, fun d hd => List.mem_takeWhile_imp hd⟩
      · intro other hfront hother
        obtain ⟨d, rest, rfl, -, hrest⟩ := Pattern.word_iff.1 hother
        have hd := head_eq_of_front hfront
        rw [hd, List.prefix_cons_inj] at hfront
        have hle := length_le_length_takeWhile hfront hrest
        simp only [List.length_cons]
        omega
    · simp at h

/-- Where no word is read, none begins. -/
theorem not_word_of_readWord? {text word : List Char} (h : readWord? text = none)
    (hfront : word <+: text) : ¬ Pattern.word.Matches word := by
  intro hword
  obtain ⟨c, rest, rfl, hc, -⟩ := Pattern.word_iff.1 hword
  obtain ⟨behind, rfl⟩ := hfront
  rw [List.cons_append, readWord?, if_pos hc] at h
  simp at h

end Lexeme

namespace Symbol

/-- A symbol of two characters is found before any other. -/
theorem read?_pair {s : Symbol} (h : 1 < s.spelling.length) (rest : List Char) :
    read? (s.spelling ++ rest) = some s := by
  cases s with
  | equal => rfl
  | notEqual => rfl
  | lessEqual => rfl
  | greaterEqual => rfl
  | _ => exact absurd h (by decide)

theorem longest_read? {text : List Char} {s : Symbol} (h : read? text = some s) :
    Longest (fun t => ∃ s : Symbol, s.spelling = t) s.spelling text := by
  have hfound := List.find?_some (p := fun t : Symbol => t.spelling.isPrefixOf text) h
  refine ⟨List.isPrefixOf_iff_prefix.1 hfound, ⟨s, rfl⟩, ?_⟩
  intro other hfront hother
  obtain ⟨t, rfl⟩ := hother
  by_cases hpair : 1 < t.spelling.length
  · obtain ⟨rest, rfl⟩ := hfront
    rw [read?_pair hpair] at h
    cases h
    exact Nat.le_refl _
  · have hpos := List.length_pos_iff.2 s.spelling_ne_nil
    omega

/-- Where no symbol is read, none begins. -/
theorem not_prefix_of_read? {text : List Char} (h : read? text = none) (s : Symbol) :
    ¬ s.spelling <+: text := by
  have hnone := List.find?_eq_none.1 h s (by cases s <;> decide)
  simpa using hnone

end Symbol

/-! ### The longest lexeme of any sort -/

namespace Lexeme

theorem longest_of_word {text word : List Char} (h : readWord? text = some word) :
    Longest IsLexeme word text := by
  have hlongest := longest_readWord? h
  apply hlongest.widen (.inl hlongest.holds)
  intro other hfront hother
  obtain ⟨c, rest, rfl, hc, -⟩ := Pattern.word_iff.1 hlongest.holds
  obtain ⟨behind, rfl⟩ := hlongest.isPrefix
  obtain ⟨d, other, rfl⟩ := List.exists_cons_of_ne_nil hother.ne_nil
  obtain rfl : d = c := head_eq_of_front hfront
  have hclass := not_isDigit_of_isWordStart hc
  rcases hother with hword | hnumber | ⟨s, hs⟩
  · exact .inl hword
  · exact ((Pattern.isDigit_or_eq_of_number hnumber).elim hclass.1 hclass.2).elim
  · exact absurd hc (Symbol.first_of_spelling hs).1

theorem longest_of_numeral {text : List Char} {n : Numeral} (hword : readWord? text = none)
    (h : Numeral.read? text = some n) : Longest IsLexeme n.text text := by
  have hlongest := Numeral.longest_text h
  have hne := Pattern.number_ne_nil hlongest.holds
  apply hlongest.widen (.inr (.inl hlongest.holds))
  intro other hfront hother
  rcases hother with hother | hother | ⟨s, hs⟩
  · exact absurd hother (not_word_of_readWord? hword hfront)
  · exact .inl hother
  · -- a symbol at the front is the point of the number
    right
    obtain ⟨c, rest, hnumber⟩ := List.exists_cons_of_ne_nil hne
    obtain ⟨behind, rfl⟩ := hlongest.isPrefix
    rw [hnumber] at hfront hlongest ⊢
    obtain ⟨d, other, rfl⟩ := List.exists_cons_of_ne_nil
      (show other ≠ [] from hs ▸ s.spelling_ne_nil)
    obtain rfl : d = c := head_eq_of_front hfront
    have hfirst := Symbol.first_of_spelling hs
    rcases Pattern.isDigit_or_eq_of_number hlongest.holds with hdigit | hpoint
    · exact absurd hdigit hfirst.2.1
    · rw [hfirst.2.2.1 hpoint]
      simp

theorem longest_of_symbol {text : List Char} {s : Symbol} (hword : readWord? text = none)
    (hnumber : Numeral.read? text = none) (h : Symbol.read? text = some s) :
    Longest IsLexeme s.spelling text := by
  apply (Symbol.longest_read? h).widen (.inr (.inr ⟨s, rfl⟩))
  intro other hfront hother
  rcases hother with hother | hother | hother
  · exact absurd hother (not_word_of_readWord? hword hfront)
  · obtain ⟨n, hn⟩ := Numeral.exists_read?_of_number hother hfront
    rw [hn] at hnumber
    simp at hnumber
  · exact .inl hother

/-- Where none of the three is read, no lexeme begins. -/
theorem not_isLexeme {text other : List Char} (hword : readWord? text = none)
    (hnumber : Numeral.read? text = none) (hsymbol : Symbol.read? text = none)
    (hfront : other <+: text) : ¬ IsLexeme other := by
  intro hother
  rcases hother with hother | hother | ⟨s, rfl⟩
  · exact not_word_of_readWord? hword hfront hother
  · obtain ⟨n, hn⟩ := Numeral.exists_read?_of_number hother hfront
    rw [hn] at hnumber
    simp at hnumber
  · exact Symbol.not_prefix_of_read? hsymbol s hfront

/-! ### Taking the first that is there -/

theorem read_of_word {text word : List Char} (h : readWord? text = some word) :
    read text = .found (.word word) := by
  cases text with
  | nil => simp [readWord?] at h
  | cons c text => simp only [read, h]

theorem read_of_numeral {text : List Char} {n : Numeral} (hword : readWord? text = none)
    (h : Numeral.read? text = some n) : read text = ofNumeral n text := by
  cases text with
  | nil => simp [Numeral.read?, Numeral.digits, Numeral.fractionOf] at h
  | cons c text => simp only [read, hword, h]

theorem read_of_symbol {text : List Char} {s : Symbol} (hword : readWord? text = none)
    (hnumber : Numeral.read? text = none) (h : Symbol.read? text = some s) :
    read text = .found (.symbol s) := by
  cases text with
  | nil =>
    have hfront := (Symbol.longest_read? h).isPrefix
    exact absurd (List.prefix_nil.1 hfront) s.spelling_ne_nil
  | cons c text => simp only [read, hword, hnumber, h]

theorem read_of_none {c : Char} {text : List Char} (hword : readWord? (c :: text) = none)
    (hnumber : Numeral.read? (c :: text) = none) (hsymbol : Symbol.read? (c :: text) = none) :
    read (c :: text) = .unrecognized c := by
  simp only [read, hword, hnumber, hsymbol]

theorem strayMark?_eq_some {n : Numeral} {rest : List Char} {mark : Char} :
    n.strayMark? rest = some mark ↔
      n.exponent = [] ∧ rest.head? = some mark ∧ Numeral.isMark mark := by
  rw [Numeral.strayMark?]
  split
  · rename_i hnil
    rw [Option.filter_eq_some_iff]
    simp only [List.isEmpty_iff.1 hnil, true_and]
  · rename_i hne
    simp only [List.isEmpty_iff] at hne
    simp [hne]

theorem ofNumeral_of_strayMark? {n : Numeral} {rest : List Char} {mark : Char}
    (h : n.strayMark? rest = some mark) :
    ofNumeral n (n.text ++ rest) = .malformedExponent (n.text ++ [mark]) := by
  rw [ofNumeral, List.drop_left, h]

theorem ofNumeral_of_none {n : Numeral} {rest : List Char} (h : n.strayMark? rest = none) :
    ofNumeral n (n.text ++ rest) = .found (.numeral n) := by
  rw [ofNumeral, List.drop_left, h]

end Lexeme

/-! ### What the reader makes of a text -/

/-- **What is taken as a lexeme is found**, and its kind is the one that its text has. -/
theorem LexemeAt.read {lexeme rest : List Char} (h : LexemeAt lexeme rest) :
    ∃ found, Lexeme.read (lexeme ++ rest) = .found found ∧ found.text = lexeme ∧
      (found.kind .reserved).Spells lexeme := by
  have hlongest := h.longest
  cases hword : Lexeme.readWord? (lexeme ++ rest) with
  | some word =>
    obtain rfl := hlongest.unique (Lexeme.longest_of_word hword)
    refine ⟨.word lexeme, Lexeme.read_of_word hword, rfl, ?_⟩
    exact (Kind.spells_iff_of_word (Lexeme.longest_readWord? hword).holds).2 rfl
  | none =>
    cases hnumber : Numeral.read? (lexeme ++ rest) with
    | some n =>
      obtain rfl := hlongest.unique (Lexeme.longest_of_numeral hword hnumber)
      obtain ⟨hwell, -⟩ := Numeral.read?_eq_some hnumber
      have hnone : n.strayMark? rest = none := by
        by_contra hsome
        obtain ⟨mark, hmark⟩ := Option.ne_none_iff_exists'.1 hsome
        obtain ⟨hexponent, hhead, hletter⟩ := Lexeme.strayMark?_eq_some.1 hmark
        have hplain : Pattern.plainNumber.Matches n.text := by
          rw [Numeral.text_eq_plain_append, hexponent, List.append_nil]
          exact (Numeral.longest_plain hnumber).holds
        have hno := h.no_mark hplain mark hhead
        have hyes : mark = 'e' ∨ mark = 'E' := by simpa [Numeral.isMark] using hletter
        exact hyes.elim hno.1 hno.2
      refine ⟨.numeral n, ?_, rfl, (Kind.spells_iff_of_number hwell).2 rfl⟩
      rw [Lexeme.read_of_numeral hword hnumber, Lexeme.ofNumeral_of_none hnone]
    | none =>
      cases hsymbol : Symbol.read? (lexeme ++ rest) with
      | some s =>
        obtain rfl := hlongest.unique (Lexeme.longest_of_symbol hword hnumber hsymbol)
        exact ⟨.symbol s, Lexeme.read_of_symbol hword hnumber hsymbol, rfl,
          Kind.spells_iff_of_symbol.2 rfl⟩
      | none =>
        exact absurd hlongest.holds (Lexeme.not_isLexeme hword hnumber hsymbol hlongest.isPrefix)

/-- A text that begins like a number begins no word. -/
theorem readWord?_of_plainNumber {number text : List Char}
    (h : Pattern.plainNumber.Matches number) (hfront : number <+: text) :
    Lexeme.readWord? text = none := by
  obtain ⟨c, number, rfl⟩ := List.exists_cons_of_ne_nil (Pattern.plainNumber_ne_nil h)
  obtain ⟨rest, rfl⟩ := hfront
  rw [List.cons_append, Lexeme.readWord?, if_neg]
  intro hc
  have hclass := not_isDigit_of_isWordStart hc
  exact (Pattern.isDigit_or_eq_of_plainNumber h).elim hclass.1 hclass.2

/-- **A number that runs into an exponent mark is malformed**, up to the mark. -/
theorem RunsIntoMark.read {number text : List Char} {mark : Char}
    (h : RunsIntoMark number mark text) :
    Lexeme.read text = .malformedExponent (number ++ [mark]) := by
  obtain ⟨rest, rfl, hpower⟩ := h.no_power
  have hnumber := h.longest.holds
  have hletter : Numeral.isMark mark = true := by
    rcases h.isMark with rfl | rfl <;> decide
  obtain ⟨n, hn⟩ := Numeral.exists_read?_of_number (Pattern.number_of_plainNumber hnumber)
    h.longest.isPrefix
  obtain ⟨-, behind, htext, hexponent⟩ := Numeral.read?_eq_some hn
  have hplain : n.plain = number := (Numeral.longest_plain hn).unique h.longest
  rw [hplain] at htext
  rw [← List.append_cancel_left htext, (Numeral.exponentOf_eq_nil_iff hletter).2 hpower] at hexponent
  have hsame : n.text = number := by
    rw [Numeral.text_eq_plain_append, hexponent, hplain, List.append_nil]
  have hstray : n.strayMark? (mark :: rest) = some mark :=
    Lexeme.strayMark?_eq_some.2 ⟨hexponent, rfl, hletter⟩
  rw [Lexeme.read_of_numeral (readWord?_of_plainNumber hnumber h.longest.isPrefix) hn, ← hsame,
    Lexeme.ofNumeral_of_strayMark? hstray]

/-- A lexeme begins with a character of a word, with the spelling of a symbol, or is `!=`. -/
theorem StartsNothing.not_isLexeme {c : Char} {text other : List Char} (h : StartsNothing c text)
    (hfront : other <+: text) : ¬ IsLexeme other := by
  intro hother
  obtain ⟨d, other, rfl⟩ := List.exists_cons_of_ne_nil hother.ne_nil
  obtain rfl : d = c := by
    obtain ⟨rest, rfl⟩ := hfront
    simpa using h.head
  have hword := h.not_word
  rcases hother with hother | hother | ⟨s, hs⟩
  · rcases isWordStart_iff.1 (Pattern.isWordStart_of_word hother) with halpha | hunderscore
    · exact hword (.inl halpha)
    · exact hword (.inr (.inr hunderscore))
  · rcases Pattern.isDigit_or_eq_of_number hother with hdigit | hpoint
    · exact hword (.inr (.inl hdigit))
    · exact h.not_symbol .dot (by rw [hpoint]; rfl)
  · -- of the symbols only `!=` begins with a character that is none itself
    have hfirst : (∃ t ∈ Symbol.all, t.spelling = [d]) ∨ d = '!' ∧ other = ['='] := by
      cases s <;> obtain ⟨rfl, rfl⟩ := List.cons_eq_cons.1 hs <;> decide
    rcases hfirst with ⟨t, -, ht⟩ | ⟨hd, hother⟩
    · exact h.not_symbol t ht
    · rw [hd, hother] at hfront
      exact h.not_unequal hd hfront

/-- **A character that begins nothing is unrecognized.** -/
theorem StartsNothing.read {c : Char} {text : List Char} (h : StartsNothing c text) :
    Lexeme.read text = .unrecognized c := by
  obtain ⟨rest, rfl⟩ : ∃ rest, text = c :: rest := List.head?_eq_some_iff.1 h.head
  apply Lexeme.read_of_none
  · apply Option.eq_none_iff_forall_ne_some.2
    intro word hword
    have hlongest := Lexeme.longest_of_word hword
    exact h.not_isLexeme hlongest.isPrefix hlongest.holds
  · apply Option.eq_none_iff_forall_ne_some.2
    intro n hn
    have hlongest := Numeral.longest_text hn
    exact h.not_isLexeme hlongest.isPrefix (.inr (.inl hlongest.holds))
  · apply Option.eq_none_iff_forall_ne_some.2
    intro s hs
    have hlongest := Symbol.longest_read? hs
    exact h.not_isLexeme hlongest.isPrefix (.inr (.inr hlongest.holds))

/-! ### There is no other case -/

namespace Lexeme

/-- What a numeral is read from begins with a lexeme, or runs into an exponent mark. -/
theorem exhaustive_of_numeral {text : List Char} {n : Numeral} (hstops : Gap.Stops text)
    (hword : readWord? text = none) (h : Numeral.read? text = some n) :
    (∃ lexeme rest, text = lexeme ++ rest ∧ LexemeAt lexeme rest) ∨
      ∃ number mark, RunsIntoMark number mark text := by
  have hlongest := longest_of_numeral hword h
  have hplain := Numeral.longest_plain h
  obtain ⟨rest, hrest⟩ := hlongest.isPrefix
  obtain ⟨-, behind, htext, hexponent⟩ := Numeral.read?_eq_some h
  have hnumber : n.exponent = [] → n.text = n.plain := by
    intro hnil
    rw [Numeral.text_eq_plain_append, hnil, List.append_nil]
  cases hstray : n.strayMark? rest with
  | some mark =>
    right
    obtain ⟨hnil, hhead, hletter⟩ := strayMark?_eq_some.1 hstray
    obtain ⟨tail, rfl⟩ := List.head?_eq_some_iff.1 hhead
    refine ⟨n.plain, mark, hplain, by simpa [Numeral.isMark] using hletter, tail, ?_, ?_⟩
    · rw [← hrest, hnumber hnil]
    · have hbehind : behind = mark :: tail := by
        rw [htext, hnumber hnil] at hrest
        exact (List.append_cancel_left hrest).symm
      rw [← Numeral.exponentOf_eq_nil_iff hletter, ← hbehind, ← hexponent, hnil]
  | none =>
    left
    subst hrest
    refine ⟨n.text, rest, rfl, hlongest, hstops.not_line, hstops.not_block, ?_⟩
    intro hmatches c hc
    -- a plain number that is read as a whole has no exponent
    have hle := hplain.longest n.text (List.prefix_append _ _) hmatches
    have hnil : n.exponent = [] := by
      rw [Numeral.text_eq_plain_append, List.length_append] at hle
      exact List.length_eq_zero_iff.1 (by omega)
    have hletter : ¬ Numeral.isMark c := by
      intro hletter
      rw [strayMark?_eq_some.2 ⟨hnil, hc, hletter⟩] at hstray
      simp at hstray
    simpa [Numeral.isMark] using hletter

/-- Where none of the three is read, a character stands that begins nothing. -/
theorem startsNothing_of_none {c : Char} {text : List Char} (hstops : Gap.Stops (c :: text))
    (hword : readWord? (c :: text) = none) (hnumber : Numeral.read? (c :: text) = none)
    (hsymbol : Symbol.read? (c :: text) = none) : StartsNothing c (c :: text) := by
  have hfront : [c] <+: c :: text := ⟨text, rfl⟩
  have hnone : ∀ other, other <+: c :: text → ¬ IsLexeme other :=
    fun _ hother => not_isLexeme hword hnumber hsymbol hother
  refine ⟨rfl, hstops.not_blank c rfl, ?_, ?_, ?_⟩
  · intro hcode
    apply hnone [c] hfront
    by_cases hstart : isWordStart c
    · exact .inl (Pattern.word_iff.2 ⟨c, [], rfl, hstart, by simp⟩)
    · rw [isWordStart_iff] at hstart
      have hdigit : c.isDigit := by tauto
      refine .inr (.inl (Pattern.number_iff.2 ⟨⟨[c], [], []⟩, ⟨?_, .inl rfl, .inl rfl, ?_⟩, rfl⟩))
      · simpa using hdigit
      · exact List.cons_ne_nil _ _
  · intro s hs
    exact hnone _ hfront (.inr (.inr ⟨s, hs⟩))
  · intro _ hunequal
    exact hnone _ hunequal (.inr (.inr ⟨.notEqual, rfl⟩))

/-- **Outside gaps a text begins with a lexeme, with a number that runs into an exponent mark, or
with a character that begins nothing.** -/
theorem exhaustive {text : List Char} (hstops : Gap.Stops text) (hne : text ≠ []) :
    (∃ lexeme rest, text = lexeme ++ rest ∧ LexemeAt lexeme rest) ∨
      (∃ number mark, RunsIntoMark number mark text) ∨ ∃ c, StartsNothing c text := by
  -- a lexeme that is no plain number cannot run into a mark
  have hother : ∀ lexeme, Longest IsLexeme lexeme text → ¬ Pattern.plainNumber.Matches lexeme →
      ∃ lexeme rest, text = lexeme ++ rest ∧ LexemeAt lexeme rest := by
    intro lexeme hlongest hno
    obtain ⟨rest, rfl⟩ := hlongest.isPrefix
    exact ⟨lexeme, rest, rfl, hlongest, hstops.not_line, hstops.not_block,
      fun hplain => absurd hplain hno⟩
  cases hword : readWord? text with
  | some word =>
    refine .inl (hother word (longest_of_word hword) fun hplain => ?_)
    exact Pattern.not_number_of_word (longest_readWord? hword).holds
      (Pattern.number_of_plainNumber hplain)
  | none =>
    cases hnumber : Numeral.read? text with
    | some n => exact (exhaustive_of_numeral hstops hword hnumber).imp_right .inl
    | none =>
      cases hsymbol : Symbol.read? text with
      | some s =>
        refine .inl (hother s.spelling (longest_of_symbol hword hnumber hsymbol) fun hplain => ?_)
        exact Symbol.not_number_of_spelling rfl (Pattern.number_of_plainNumber hplain)
      | none =>
        obtain ⟨c, text, rfl⟩ := List.exists_cons_of_ne_nil hne
        exact .inr (.inr ⟨c, startsNothing_of_none hstops hword hnumber hsymbol⟩)

end Lexeme

end CurlyLex
