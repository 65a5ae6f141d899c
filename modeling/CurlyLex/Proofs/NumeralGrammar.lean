import CurlyLex.Proofs.Pattern

/-!
# The grammar of numbers

The reader of numerals takes the longest number at the front of a text.  A number is cut into its
parts from the left, so the argument goes part by part: a run of digits is the longest by
definition, a fraction can follow only where the run ends, and an exponent only where both end.

* `Numeral.WellFormed` — the parts of a numeral have the shapes they should have.
* `Pattern.number_iff`, `Pattern.plainNumber_iff` — a number is the text of a well-formed numeral.
* `Numeral.read?_eq_some` — what is read is well formed and stands at the front of the text.
* `Numeral.longest_text`, `Numeral.longest_plain` — it is the longest number there, and without its
  exponent the longest plain number.
* `Numeral.exponentOf_eq_nil_iff` — an exponent mark begins no exponent when no power follows.
-/

namespace CurlyLex

namespace Numeral

/-- The whole part and the fraction of a numeral. -/
def plain (numeral : Numeral) : List Char :=
  numeral.whole ++ numeral.fraction

/-- The parts have the shapes they should have, and one of the first two is there. -/
structure WellFormed (numeral : Numeral) : Prop where
  whole : ∀ c ∈ numeral.whole, c.isDigit
  fraction : numeral.fraction = [] ∨ Pattern.fraction.Matches numeral.fraction
  exponent : numeral.exponent = [] ∨ Pattern.exponent.Matches numeral.exponent
  plain_ne_nil : numeral.plain ≠ []

theorem text_eq_plain_append (numeral : Numeral) :
    numeral.text = numeral.plain ++ numeral.exponent := rfl

end Numeral

/-! ### Numbers and their parts -/

namespace Pattern

/-- An exponent is a mark, perhaps a sign, and a run of digits. -/
theorem exponent_iff {text : List Char} :
    exponent.Matches text ↔ ∃ mark sign power, text = mark :: (sign ++ power) ∧
      Numeral.isMark mark ∧ (sign = [] ∨ ∃ s, Numeral.isSign s ∧ sign = [s]) ∧
      digits.Matches power := by
  constructor
  · intro h
    obtain ⟨_, _, ⟨mark, hmark, rfl⟩, ⟨sign, power, hsign, hpower, rfl⟩, rfl⟩ := h
    exact ⟨mark, sign, power, rfl, hmark, hsign, hpower⟩
  · intro h
    obtain ⟨mark, sign, power, rfl, hmark, hsign, hpower⟩ := h
    exact ⟨[mark], sign ++ power, ⟨mark, hmark, rfl⟩, ⟨sign, power, hsign, hpower, rfl⟩, rfl⟩

/-- A plain number is the text of a well-formed numeral without exponent. -/
theorem plainNumber_iff {text : List Char} :
    plainNumber.Matches text ↔ ∃ n : Numeral, n.WellFormed ∧ n.exponent = [] ∧ n.plain = text := by
  constructor
  · intro h
    rcases h with ⟨whole, fraction, ⟨hne, hwhole⟩, hfraction, rfl⟩ | hfraction
    · refine ⟨⟨whole, fraction, []⟩, ⟨hwhole, hfraction, .inl rfl, ?_⟩, rfl, rfl⟩
      exact fun h => hne (List.append_eq_nil_iff.1 h).1
    · refine ⟨⟨[], text, []⟩, ⟨by simp, .inr hfraction, .inl rfl, ?_⟩, rfl, rfl⟩
      obtain ⟨power, rfl, -⟩ := fraction_iff.1 hfraction
      exact List.cons_ne_nil _ _
  · intro h
    obtain ⟨⟨whole, fraction, exponent⟩, hwell, -, rfl⟩ := h
    by_cases hwhole : whole = []
    · subst hwhole
      exact .inr (hwell.fraction.resolve_left hwell.plain_ne_nil)
    · exact .inl ⟨whole, fraction, ⟨hwhole, hwell.whole⟩, hwell.fraction, rfl⟩

/-- A number is the text of a well-formed numeral. -/
theorem number_iff {text : List Char} :
    number.Matches text ↔ ∃ n : Numeral, n.WellFormed ∧ n.text = text := by
  constructor
  · intro h
    obtain ⟨_, exponent, hplain, hexponent, rfl⟩ := h
    obtain ⟨n, hwell, -, rfl⟩ := plainNumber_iff.1 hplain
    exact ⟨{ n with exponent }, ⟨hwell.whole, hwell.fraction, hexponent, hwell.plain_ne_nil⟩, rfl⟩
  · intro h
    obtain ⟨n, hwell, rfl⟩ := h
    refine ⟨n.plain, n.exponent, plainNumber_iff.2 ⟨{ n with exponent := [] }, ?_, rfl, rfl⟩,
      hwell.exponent, rfl⟩
    exact ⟨hwell.whole, hwell.fraction, .inl rfl, hwell.plain_ne_nil⟩

end Pattern

namespace Numeral

/-! ### Digits -/

theorem digits_append {run : List Char} (hrun : ∀ c ∈ run, c.isDigit) (rest : List Char) :
    digits (run ++ rest) = run ++ digits rest :=
  List.takeWhile_append_of_pos hrun

theorem digits_eq_nil {text : List Char} (h : ∀ c ∈ text.head?, ¬ c.isDigit) : digits text = [] := by
  cases text with
  | nil => rfl
  | cons c text => exact List.takeWhile_cons_of_neg (h c rfl)

theorem digits_isPrefix (text : List Char) : digits text <+: text :=
  List.takeWhile_prefix _

theorem isDigit_of_mem_digits {c : Char} {text : List Char} (h : c ∈ digits text) : c.isDigit :=
  List.mem_takeWhile_imp h

theorem not_isDigit_of_isMark {c : Char} (h : isMark c) : ¬ c.isDigit := by
  have hc : c = 'e' ∨ c = 'E' := by simpa [isMark] using h
  rcases hc with rfl | rfl <;> decide

theorem not_isSign_of_isDigit {c : Char} (h : c.isDigit) : ¬ isSign c := by
  intro hsign
  have hc : c = '+' ∨ c = '-' := by simpa [isSign] using hsign
  rcases hc with rfl | rfl <;> exact absurd h (by decide)

/-! ### Fractions -/

/-- A fraction at the front is read, and its digits are read on. -/
theorem fractionOf_append {power : List Char} (hpower : Pattern.digits.Matches power)
    (rest : List Char) : fractionOf ('.' :: (power ++ rest)) = '.' :: (power ++ digits rest) := by
  obtain ⟨hne, hall⟩ := hpower
  rw [fractionOf, digits_append hall, if_neg]
  simp [hne]

theorem fractionOf_matches (text : List Char) :
    fractionOf text = [] ∨ Pattern.fraction.Matches (fractionOf text) := by
  unfold fractionOf
  split
  · rename_i tail
    split
    · exact .inl rfl
    · rename_i hne
      refine .inr (Pattern.fraction_iff.2 ⟨digits tail, rfl, by simpa using hne, ?_⟩)
      exact fun c hc => isDigit_of_mem_digits hc
  · exact .inl rfl

theorem fractionOf_isPrefix (text : List Char) : fractionOf text <+: text := by
  unfold fractionOf
  split
  · split
    · exact List.nil_prefix
    · exact (List.prefix_cons_inj '.').2 (digits_isPrefix _)
  · exact List.nil_prefix

theorem fractionOf_eq_nil {text : List Char} (h : ∀ c ∈ text.head?, c ≠ '.') :
    fractionOf text = [] := by
  unfold fractionOf
  split
  · exact absurd rfl (h '.' rfl)
  · rfl

/-! ### Exponents -/

/-- An exponent at the front is read, and its digits are read on. -/
theorem exponentOf_append {mark : Char} {sign power : List Char} (hmark : isMark mark)
    (hsign : sign = [] ∨ ∃ s, isSign s ∧ sign = [s]) (hpower : Pattern.digits.Matches power)
    (rest : List Char) :
    exponentOf (mark :: (sign ++ (power ++ rest))) = mark :: (sign ++ (power ++ digits rest)) := by
  obtain ⟨hne, hall⟩ := hpower
  have hread : signOf (sign ++ (power ++ rest)) = sign := by
    rcases hsign with rfl | ⟨s, hs, rfl⟩
    · obtain ⟨d, power, rfl⟩ := List.exists_cons_of_ne_nil hne
      have hd : isSign d = false := by simpa using not_isSign_of_isDigit (hall d List.mem_cons_self)
      simp [signOf, hd]
    · simp [signOf, hs]
  have hdrop : (sign ++ (power ++ rest)).drop sign.length = power ++ rest := List.drop_left
  simp only [exponentOf, hread, hdrop, digits_append hall, hmark]
  simp [hne]

theorem exponentOf_matches (text : List Char) :
    exponentOf text = [] ∨ Pattern.exponent.Matches (exponentOf text) := by
  cases text with
  | nil => exact .inl rfl
  | cons mark text =>
    simp only [exponentOf]
    split
    · rename_i hread
      have hparts : isMark mark = true ∧ digits (text.drop (signOf text).length) ≠ [] := by
        simpa using hread
      refine .inr (Pattern.exponent_iff.2 ⟨mark, signOf text, _, rfl, hparts.1, ?_, hparts.2,
        fun c hc => isDigit_of_mem_digits hc⟩)
      cases text with
      | nil => exact .inl rfl
      | cons s text =>
        cases hs : isSign s with
        | true => exact .inr ⟨s, hs, by simp [signOf, hs]⟩
        | false => exact .inl (by simp [signOf, hs])
    · exact .inl rfl

theorem signOf_isPrefix (text : List Char) : signOf text <+: text := by
  cases text with
  | nil => exact List.nil_prefix
  | cons s text =>
    cases hs : isSign s with
    | true => simp [signOf, hs]
    | false => simp [signOf, hs]

theorem exponentOf_isPrefix (text : List Char) : exponentOf text <+: text := by
  cases text with
  | nil => exact List.nil_prefix
  | cons mark text =>
    simp only [exponentOf]
    split
    · have hsign := List.prefix_append_drop (signOf_isPrefix text)
      obtain ⟨rest, hrest⟩ := digits_isPrefix (text.drop (signOf text).length)
      exact ⟨rest, by rw [List.cons_append, List.append_assoc, hrest, ← hsign]⟩
    · exact List.nil_prefix

/-- No exponent at the front of a text is longer than the one that is read. -/
theorem exponent_length_le {exponent text : List Char} (h : Pattern.exponent.Matches exponent)
    (hfront : exponent <+: text) : exponent.length ≤ (exponentOf text).length := by
  obtain ⟨mark, sign, power, rfl, hmark, hsign, hpower⟩ := Pattern.exponent_iff.1 h
  obtain ⟨rest, rfl⟩ := hfront
  rw [List.cons_append, List.append_assoc, exponentOf_append hmark hsign hpower]
  simp only [List.length_cons, List.length_append]
  omega

/-- The two signs of an exponent. -/
theorem sign_iff {sign : List Char} : (sign = [] ∨ ∃ s, isSign s ∧ sign = [s]) ↔
    sign = [] ∨ sign = ['+'] ∨ sign = ['-'] := by
  apply or_congr_right
  constructor
  · intro h
    obtain ⟨s, hs, rfl⟩ := h
    simpa [isSign] using hs
  · intro h
    rcases h with rfl | rfl
    · exact ⟨'+', rfl, rfl⟩
    · exact ⟨'-', rfl, rfl⟩

/-- A digit stands here, perhaps behind a sign. -/
def StartsPower (text : List Char) : Prop :=
  ∃ sign d rest, text = sign ++ d :: rest ∧ (sign = [] ∨ sign = ['+'] ∨ sign = ['-']) ∧ d.isDigit

/-- A mark begins an exponent exactly when a power follows it. -/
theorem exponentOf_eq_nil_iff {mark : Char} {text : List Char} (hmark : isMark mark) :
    exponentOf (mark :: text) = [] ↔ ¬ StartsPower text := by
  constructor
  · intro hnil hstarts
    obtain ⟨sign, d, rest, rfl, hsign, hd⟩ := hstarts
    have hpower : Pattern.digits.Matches [d] :=
      ⟨List.cons_ne_nil _ _, by simpa using hd⟩
    have hread := exponentOf_append hmark (sign_iff.2 hsign) hpower rest
    rw [List.singleton_append, hnil] at hread
    exact absurd hread.symm (List.cons_ne_nil _ _)
  · intro hno
    rcases exponentOf_matches (mark :: text) with hnil | hmatches
    · exact hnil
    · exfalso
      obtain ⟨rest, hrest⟩ := exponentOf_isPrefix (mark :: text)
      obtain ⟨mark', sign, power, heq, -, hsign, hne, hall⟩ := Pattern.exponent_iff.1 hmatches
      obtain ⟨d, power, rfl⟩ := List.exists_cons_of_ne_nil hne
      rw [heq, List.cons_append, List.append_assoc] at hrest
      exact hno ⟨sign, d, power ++ rest, (List.cons_eq_cons.1 hrest).2.symm, sign_iff.1 hsign,
        hall d List.mem_cons_self⟩

/-! ### Reading -/

/-- What is read is well formed, and stands at the front of the text. -/
theorem read?_eq_some {text : List Char} {n : Numeral} (h : read? text = some n) :
    n.WellFormed ∧ ∃ rest, text = n.plain ++ rest ∧ n.exponent = exponentOf rest := by
  simp only [read?] at h
  split at h
  · simp at h
  · rename_i hsome
    cases h
    have hwhole := List.prefix_append_drop (digits_isPrefix text)
    have hfraction := List.prefix_append_drop
      (fractionOf_isPrefix (text.drop (digits text).length))
    refine ⟨⟨fun c hc => isDigit_of_mem_digits hc, fractionOf_matches _, exponentOf_matches _, ?_⟩,
      _, ?_, rfl⟩
    · intro hnil
      rw [plain, List.append_eq_nil_iff] at hnil
      exact hsome (by simpa using hnil)
    · rw [plain, List.append_assoc, ← hfraction, ← hwhole]

/-- A well-formed numeral is read part by part, when what comes next goes on neither with digits nor
with a fraction. -/
theorem read?_plain_append {n : Numeral} (hn : n.WellFormed) {rest : List Char}
    (hdigit : ∀ c ∈ rest.head?, ¬ c.isDigit) (hpoint : ∀ c ∈ rest.head?, c ≠ '.') :
    read? (n.plain ++ rest) = some ⟨n.whole, n.fraction, exponentOf rest⟩ := by
  obtain ⟨whole, fraction, exponent⟩ := n
  have hdigits : digits rest = [] := digits_eq_nil hdigit
  have hwhole : digits (whole ++ (fraction ++ rest)) = whole := by
    rw [digits_append hn.whole, digits_eq_nil, List.append_nil]
    rcases hn.fraction with hnil | hfraction
    · obtain rfl : fraction = [] := hnil
      exact hdigit
    · obtain ⟨power, hpower, -⟩ := Pattern.fraction_iff.1 hfraction
      obtain rfl : fraction = '.' :: power := hpower
      intro c hc
      obtain rfl : '.' = c := by simpa using hc
      decide
  have hfraction : fractionOf (fraction ++ rest) = fraction := by
    rcases hn.fraction with hnil | hfraction
    · obtain rfl : fraction = [] := hnil
      exact fractionOf_eq_nil hpoint
    · obtain ⟨power, hpower, hmatches⟩ := Pattern.fraction_iff.1 hfraction
      obtain rfl : fraction = '.' :: power := hpower
      rw [List.cons_append, fractionOf_append hmatches, hdigits, List.append_nil]
  have hsome : ¬ (whole.isEmpty && fraction.isEmpty) = true := by
    intro hempty
    refine hn.plain_ne_nil (List.append_eq_nil_iff.2 ?_)
    simpa using hempty
  simp only [read?, plain, List.append_assoc, hwhole, List.drop_left, hfraction, if_neg hsome]

/-- No plain number at the front of a text is longer than the digits and the fraction there. -/
theorem plain_length_le {n : Numeral} (hn : n.WellFormed) {text : List Char}
    (hfront : n.plain <+: text) :
    n.plain.length ≤ (digits text ++ fractionOf (text.drop (digits text).length)).length := by
  obtain ⟨whole, fraction, exponent⟩ := n
  rcases hn.fraction with hnil | hfraction
  · obtain rfl : fraction = [] := hnil
    rw [plain, List.append_nil] at hfront ⊢
    have hle : whole.length ≤ (digits text).length := length_le_length_takeWhile hfront hn.whole
    rw [List.length_append]
    exact Nat.le_add_right_of_le hle
  · obtain ⟨power, hpower, hmatches⟩ := Pattern.fraction_iff.1 hfraction
    obtain rfl : fraction = '.' :: power := hpower
    obtain ⟨rest, rfl⟩ := hfront
    have hwhole : digits (whole ++ '.' :: (power ++ rest)) = whole := by
      rw [digits_append hn.whole, digits_eq_nil (by simp), List.append_nil]
    simp only [plain, List.append_assoc, List.cons_append, hwhole, List.drop_left,
      fractionOf_append hmatches, List.length_append, List.length_cons]
    omega

/-- **What is read is, without its exponent, the longest plain number.** -/
theorem longest_plain {text : List Char} {n : Numeral} (h : read? text = some n) :
    Longest Pattern.plainNumber.Matches n.plain text := by
  obtain ⟨hwell, rest, htext, -⟩ := read?_eq_some h
  refine ⟨⟨rest, htext.symm⟩, ?_, ?_⟩
  · apply Pattern.plainNumber_iff.2
    refine ⟨{ n with exponent := [] }, ?_, rfl, rfl⟩
    exact ⟨hwell.whole, hwell.fraction, .inl rfl, hwell.plain_ne_nil⟩
  · intro other hfront hother
    obtain ⟨m, hm, -, rfl⟩ := Pattern.plainNumber_iff.1 hother
    have hle := plain_length_le hm hfront
    have hparts : n.plain = digits text ++ fractionOf (text.drop (digits text).length) := by
      simp only [read?] at h
      split at h
      · simp at h
      · cases h
        rfl
    rwa [hparts]

/-- **What is read is the longest number.** -/
theorem longest_text {text : List Char} {n : Numeral} (h : read? text = some n) :
    Longest Pattern.number.Matches n.text text := by
  obtain ⟨hwell, rest, htext, hexponent⟩ := read?_eq_some h
  refine ⟨?_, Pattern.number_iff.2 ⟨n, hwell, rfl⟩, ?_⟩
  · rw [text_eq_plain_append, htext, hexponent]
    exact (List.prefix_append_right_inj _).2 (exponentOf_isPrefix rest)
  · intro other hfront hother
    obtain ⟨m, hm, rfl⟩ := Pattern.number_iff.1 hother
    rcases hm.exponent with hnil | hmexponent
    · -- without exponent it is a plain number already
      have hle := (longest_plain h).longest m.plain
        ((List.prefix_append _ _).trans hfront)
        (Pattern.plainNumber_iff.2 ⟨m, hm, hnil, rfl⟩)
      rw [text_eq_plain_append, hnil, List.append_nil, text_eq_plain_append, List.length_append]
      omega
    · -- with an exponent the mark ends the plain number, so both have the same parts before it
      obtain ⟨behind, rfl⟩ := hfront
      obtain ⟨mark, tail, hmark, htail⟩ :
          ∃ mark tail, isMark mark ∧ m.exponent ++ behind = mark :: tail := by
        obtain ⟨mark, sign, power, heq, hmark, -⟩ := Pattern.exponent_iff.1 hmexponent
        exact ⟨mark, sign ++ power ++ behind, hmark, by rw [heq]; rfl⟩
      have hdigit : ∀ c ∈ (m.exponent ++ behind).head?, ¬ c.isDigit := by
        rw [htail]
        intro c hc
        obtain rfl : mark = c := by simpa using hc
        exact not_isDigit_of_isMark hmark
      have hpoint : ∀ c ∈ (m.exponent ++ behind).head?, c ≠ '.' := by
        rw [htail]
        intro c hc hdot
        obtain rfl : mark = '.' := by simpa [hdot] using hc
        exact absurd hmark (by decide)
      have hread := read?_plain_append hm hdigit hpoint
      rw [text_eq_plain_append, List.append_assoc, hread] at h
      cases h
      have hle := exponent_length_le hmexponent (List.prefix_append m.exponent behind)
      simp only [text, List.length_append] at hle ⊢
      omega

/-- Where a number stands, one is read. -/
theorem exists_read?_of_number {number text : List Char} (hnumber : Pattern.number.Matches number)
    (hfront : number <+: text) : ∃ n, read? text = some n := by
  obtain ⟨m, hm, rfl⟩ := Pattern.number_iff.1 hnumber
  have hle := plain_length_le hm ((List.prefix_append _ _).trans hfront)
  have hpos := List.length_pos_iff.2 hm.plain_ne_nil
  rw [List.length_append] at hle
  simp only [read?]
  split
  · rename_i hempty
    exfalso
    rw [Bool.and_eq_true, List.isEmpty_iff, List.isEmpty_iff] at hempty
    have hwhole := congrArg List.length hempty.1
    have hfraction := congrArg List.length hempty.2
    rw [List.length_nil] at hwhole hfraction
    omega
  · exact ⟨_, rfl⟩

end Numeral

end CurlyLex
