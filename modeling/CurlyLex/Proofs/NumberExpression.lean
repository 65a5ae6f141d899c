import CurlyLex.Proofs.CursorReading
import CurlyLex.Proofs.Regex

/-!
# Three ways to read a number

Numbers are described by an expression with preferences and a group for the exponent; behind a match
without exponent an exponent mark is an error.  They are also described by steps that never go back:
take all digits, take a point when a digit follows it, take an exponent mark when a power follows it.
The reader of numerals takes one part behind the other.  All three come to the same, for every text: an
expression that gives up a part which it has begun leaves it where the steps would not have taken it.

* `Regex.number`, `Regex.first?_number` — the expression, and the match that is taken.
* `NumberOutcome`, `Regex.scanNumber` — how a scan for a number by the expression ends.
* `PlainScan`, `NumberScan` — the steps.
* `Regex.scanNumber_of_none`, `Regex.scanNumber_of_some` — the expression against the reader.
* `Regex.scanNumber_eq_iff` — the expression against the steps.
* `Cursor.TakesNumber`, `Cursor.takesNumber_scanNumber` — the outcome, and what a reading makes of it.
-/

namespace CurlyLex

/-! ### The expression -/

namespace Regex

/-- Digits. -/
def digits : Regex :=
  run Char.isDigit

/-- A point and digits. -/
def fraction : Regex :=
  seq (one fun c => c == '.') digits

/-- Digits, perhaps behind a sign. -/
def power : Regex :=
  seq (optional (one Numeral.isSign)) digits

/-- A mark and a power. -/
def exponent : Regex :=
  seq (one Numeral.isMark) power

/-- Digits with perhaps a fraction, or a fraction alone. -/
def plainNumber : Regex :=
  either (seq digits (optional fraction)) fraction

/-- A plain number with perhaps an exponent, which is kept. -/
def number : Regex :=
  seq plainNumber (optional (group "exponent" exponent))

theorem shape_number : number.shape = Pattern.number := rfl

/-! ### The match that is taken -/

theorem first?_digits (text : List Char) :
    digits.first? text = Match.ofFront? (Numeral.digits text) text :=
  first?_run Char.isDigit text

theorem first?_fraction (text : List Char) :
    fraction.first? text = Match.ofFront? (Numeral.fractionOf text) text := by
  cases text with
  | nil => rfl
  | cons c text =>
    rw [fraction, first?_one_seq, first?_digits]
    by_cases hc : c = '.'
    · subst hc
      rw [if_pos (beq_self_eq_true '.'), Numeral.fractionOf]
      by_cases hnil : Numeral.digits text = []
      · rw [hnil]
        rfl
      · rw [Match.ofFront?_of_ne_nil hnil, if_neg (by simpa using hnil)]
        rfl
    · rw [if_neg (by simpa using hc), Numeral.fractionOf_eq_nil (by simpa using hc)]
      rfl

/-- A sign is given up when no digits come behind it, but then there are none before it either. -/
theorem first?_power (text : List Char) :
    power.first? text =
      if (Numeral.digits (text.drop (Numeral.signOf text).length)).isEmpty then none
      else some (.ofFront (Numeral.signOf text ++
        Numeral.digits (text.drop (Numeral.signOf text).length)) text) := by
  rw [power, first?_seq]
  cases text with
  | nil => rfl
  | cons s text =>
    cases hs : Numeral.isSign s with
    | true =>
      have hfirst : Numeral.digits (s :: text) = [] := by
        apply Numeral.digits_eq_nil
        intro c hc hdigit
        obtain rfl : s = c := by simpa using hc
        exact Numeral.not_isSign_of_isDigit hdigit hs
      by_cases hnil : Numeral.digits text = []
      · simp [ways, hs, first?_digits, Match.ofFront, Match.ofFront?, Numeral.signOf, hnil, hfirst]
      · simp [ways, hs, first?_digits, Match.ofFront, Match.ofFront?, Match.append, Numeral.signOf,
          hnil]
    | false =>
      by_cases hnil : Numeral.digits (s :: text) = []
      · simp [ways, hs, first?_digits, Match.ofFront, Match.ofFront?, Numeral.signOf, hnil]
      · simp [ways, hs, first?_digits, Match.ofFront, Match.ofFront?, Match.append, Numeral.signOf,
          hnil]

theorem first?_exponent (text : List Char) :
    exponent.first? text = Match.ofFront? (Numeral.exponentOf text) text := by
  cases text with
  | nil => rfl
  | cons mark text =>
    rw [exponent, first?_one_seq, first?_power]
    cases hmark : Numeral.isMark mark with
    | true =>
      by_cases hnil : Numeral.digits (text.drop (Numeral.signOf text).length) = []
      · simp [Numeral.exponentOf, hnil, Match.ofFront?]
      · simp [Numeral.exponentOf, hmark, hnil, Match.ofFront, Match.ofFront?, Match.append]
    | false => simp [Numeral.exponentOf, hmark, Match.ofFront?]

/-- The second alternative is tried only when there are no digits, and then a fraction stands alone. -/
theorem first?_plainNumber (text : List Char) :
    plainNumber.first? text = Match.ofFront?
      (Numeral.digits text ++ Numeral.fractionOf (text.drop (Numeral.digits text).length)) text := by
  rw [plainNumber, first?_either, first?_seq_optional, first?_digits, first?_fraction]
  by_cases hnil : Numeral.digits text = []
  · rw [hnil]
    rfl
  · rw [Match.ofFront?_of_ne_nil hnil, Option.map_some, Option.some_or, Match.rest_ofFront,
      first?_fraction, Match.getD_ofFront?, Match.ofFront_append, Match.ofFront?_of_ne_nil]
    exact List.append_ne_nil_of_left_ne_nil hnil _

/-- **The expression takes the numeral that is read**, and keeps its exponent when there is one. -/
theorem first?_number (text : List Char) :
    number.first? text = (Numeral.read? text).map fun n =>
      ⟨n.text, text.drop n.text.length,
        if n.exponent.isEmpty then [] else [("exponent", n.exponent)]⟩ := by
  rw [number, first?_seq_optional, first?_plainNumber]
  simp only [first?_group, first?_exponent, Numeral.read?]
  generalize hwhole : Numeral.digits text = whole
  generalize hfraction : Numeral.fractionOf (text.drop whole.length) = fraction
  by_cases hnil : whole ++ fraction = []
  · have hboth := List.append_eq_nil_iff.1 hnil
    rw [hboth.1, hboth.2]
    rfl
  · have hsome : ¬ (whole.isEmpty && fraction.isEmpty) = true := by
      simpa using hnil
    rw [Match.ofFront?_of_ne_nil hnil, if_neg hsome, Option.map_some, Option.map_some]
    simp only [Match.ofFront, List.drop_drop, List.length_append]
    generalize Numeral.exponentOf (text.drop (whole.length + fraction.length)) = exponent
    by_cases hexponent : exponent = []
    · subst hexponent
      simp [Match.append, Match.ofFront?, Numeral.text]
    · simp [Match.append, Match.ofFront?, Match.ofFront, Match.keep, Numeral.text, hexponent]
      omega

end Regex

/-! ### Scanning for a number by the expression -/

/-- How a scan for a number ends. -/
inductive NumberOutcome where
  /-- No number begins here. -/
  | absent
  /-- A number of this kind, with this text. -/
  | number (literal : Literal) (text : List Char)
  /-- A number without exponent runs into an exponent mark; the literal ends with the mark. -/
  | malformed (literal : List Char)
deriving DecidableEq

namespace Regex

/-- Scan for a number: how it ends, and what is left.  Behind a match without exponent an exponent mark
is gone over as well, and is an error.  A match with an exponent or a point is a floating number. -/
def scanNumber (text : List Char) : NumberOutcome × List Char :=
  match number.first? text with
  | none => (.absent, text)
  | some m =>
    let hasExponent := (m.groups.lookup "exponent").isSome
    match if hasExponent then none else m.rest.head?.filter Numeral.isMark with
    | some mark => (.malformed (m.taken ++ [mark]), m.rest.tail)
    | none =>
      (.number (if hasExponent || m.taken.contains '.' then .floating else .integer) m.taken, m.rest)

end Regex

/-- There is a point in a numeral when it has a fraction, and nowhere else. -/
theorem Numeral.WellFormed.point_mem_iff {n : Numeral} (h : n.WellFormed) :
    '.' ∈ n.plain ↔ n.fraction ≠ [] := by
  constructor
  · intro hmem hnil
    rw [Numeral.plain, hnil, List.append_nil] at hmem
    exact absurd (h.whole '.' hmem) (by decide)
  · intro hne
    obtain ⟨power, hpower, -⟩ := Pattern.fraction_iff.1 (h.fraction.resolve_left hne)
    rw [Numeral.plain, hpower]
    exact List.mem_append_right _ List.mem_cons_self

namespace Regex

variable {text rest : List Char}

theorem scanNumber_of_none (h : Numeral.read? text = none) : scanNumber text = (.absent, text) := by
  rw [scanNumber, first?_number, h]
  rfl

/-- **Where a numeral is read, the expression finds it**, with the same kind and the same stray mark. -/
theorem scanNumber_of_some {n : Numeral} (h : Numeral.read? text = some n)
    (htext : text = n.text ++ rest) :
    scanNumber text =
      match n.strayMark? rest with
      | some mark => (.malformed (n.text ++ [mark]), rest.tail)
      | none => (.number n.literal n.text, rest) := by
  have hrest : text.drop n.text.length = rest := by rw [htext, List.drop_left]
  have hpoint := (Numeral.read?_eq_some h).1.point_mem_iff
  rw [scanNumber, first?_number, h, Option.map_some, hrest, Numeral.strayMark?, Numeral.literal]
  by_cases hexponent : n.exponent = []
  · simp only [Numeral.text_eq_plain_append, hexponent, List.append_nil, List.isEmpty_nil, if_true,
      List.lookup_nil, Option.isSome_none, Bool.false_eq_true, if_false, Bool.false_or, Bool.and_true]
    cases rest.head?.filter Numeral.isMark with
    | some mark => rfl
    | none =>
      by_cases hfraction : n.fraction = []
      · simp [hfraction, hpoint]
      · simp [hfraction, hpoint]
  · simp [hexponent]

end Regex

/-! ### Steps that never go back -/

/-- A run of digits, perhaps of none, that goes on as far as there are digits. -/
structure MaximalDigits (run rest : List Char) : Prop where
  digits : ∀ c ∈ run, c.isDigit
  stops : ∀ c ∈ rest.head?, ¬ c.isDigit

/-- A point stands here, and a digit directly behind it. -/
def Numeral.StartsFraction (text : List Char) : Prop :=
  ∃ d rest, text = '.' :: d :: rest ∧ d.isDigit

/-- `PlainScan text whole fraction rest`: at the front of `text` all digits are taken, which must be
some unless a fraction comes next, and then a point and all digits behind it if the point is directly
followed by a digit. -/
inductive PlainScan : List Char → List Char → List Char → List Char → Prop
  | whole {run rest : List Char} :
      run ≠ [] → MaximalDigits run rest → ¬ Numeral.StartsFraction rest →
      PlainScan (run ++ rest) run [] rest
  | fraction {run power rest : List Char} :
      MaximalDigits run ('.' :: (power ++ rest)) → power ≠ [] → MaximalDigits power rest →
      PlainScan (run ++ '.' :: (power ++ rest)) run ('.' :: power) rest

/-- `NumberScan text outcome rest`: one step after the other, a scan for a number at the front of `text`
ends with `outcome` and leaves `rest`.  Without a digit, or a point and a digit, nothing is taken.
Behind a plain number an exponent mark is taken with a sign, if there is one, and all digits behind it,
when there is a digit; when there is none, the mark is the end of a malformed number. -/
inductive NumberScan : List Char → NumberOutcome → List Char → Prop
  | absent {text : List Char} :
      (∀ c ∈ text.head?, ¬ c.isDigit) → ¬ Numeral.StartsFraction text → NumberScan text .absent text
  | plain {text whole fraction rest : List Char} :
      PlainScan text whole fraction rest → (∀ c ∈ rest.head?, ¬ Numeral.isMark c) →
      NumberScan text
        (.number (if fraction = [] then .integer else .floating) (whole ++ fraction)) rest
  | power {text whole fraction sign power rest : List Char} {mark : Char} :
      PlainScan text whole fraction (mark :: (sign ++ (power ++ rest))) → Numeral.isMark mark →
      (sign = [] ∨ sign = ['+'] ∨ sign = ['-']) → power ≠ [] → MaximalDigits power rest →
      NumberScan text (.number .floating (whole ++ fraction ++ mark :: (sign ++ power))) rest
  | malformed {text whole fraction rest : List Char} {mark : Char} :
      PlainScan text whole fraction (mark :: rest) → Numeral.isMark mark →
      ¬ Numeral.StartsPower rest →
      NumberScan text (.malformed (whole ++ fraction ++ [mark])) rest

/-! ### The steps and the reader -/

theorem MaximalDigits.digits_eq {run rest : List Char} (h : MaximalDigits run rest) :
    Numeral.digits (run ++ rest) = run := by
  rw [Numeral.digits_append h.digits, Numeral.digits_eq_nil h.stops, List.append_nil]

/-- Every text begins with a run of digits that goes on as far as there are digits. -/
theorem exists_maximalDigits (text : List Char) :
    ∃ run rest, text = run ++ rest ∧ MaximalDigits run rest := by
  refine ⟨text.takeWhile Char.isDigit, text.dropWhile Char.isDigit,
    List.takeWhile_append_dropWhile.symm, fun c hc => List.mem_takeWhile_imp hc, ?_⟩
  intro c hc
  have hnot := List.head?_dropWhile_not Char.isDigit text
  rw [Option.mem_def.1 hc] at hnot
  simpa using hnot

/-- Where a digit stands, there is a digit in the run. -/
theorem MaximalDigits.ne_nil {run rest : List Char} {d : Char} {tail : List Char}
    (h : MaximalDigits run rest) (htext : d :: tail = run ++ rest) (hd : d.isDigit) : run ≠ [] := by
  rintro rfl
  rw [List.nil_append] at htext
  exact h.stops d (by rw [← htext]; rfl) hd

theorem Numeral.fractionOf_eq_nil_iff {text : List Char} :
    Numeral.fractionOf text = [] ↔ ¬ Numeral.StartsFraction text := by
  constructor
  · intro hnil hstarts
    obtain ⟨d, rest, rfl, hd⟩ := hstarts
    have hpower : Pattern.digits.Matches [d] := ⟨List.cons_ne_nil _ _, by simpa using hd⟩
    have hread := Numeral.fractionOf_append hpower rest
    rw [List.singleton_append, hnil] at hread
    exact absurd hread.symm (List.cons_ne_nil _ _)
  · intro hno
    rcases Numeral.fractionOf_matches text with hnil | hmatches
    · exact hnil
    · exfalso
      obtain ⟨rest, hrest⟩ := Numeral.fractionOf_isPrefix text
      obtain ⟨power, heq, hne, hall⟩ := Pattern.fraction_iff.1 hmatches
      obtain ⟨d, power, rfl⟩ := List.exists_cons_of_ne_nil hne
      rw [heq] at hrest
      exact hno ⟨d, power ++ rest, hrest.symm, hall d List.mem_cons_self⟩

namespace PlainScan

variable {text whole fraction rest : List Char}

theorem text_eq (h : PlainScan text whole fraction rest) : text = whole ++ fraction ++ rest := by
  cases h with
  | whole _ _ _ => rw [List.append_nil]
  | fraction _ _ _ => rw [List.append_assoc, List.cons_append]

/-- **The reader takes the same steps.** -/
theorem read? (h : PlainScan text whole fraction rest) :
    Numeral.read? text = some ⟨whole, fraction, Numeral.exponentOf rest⟩ := by
  have hparts : Numeral.digits text = whole ∧ Numeral.fractionOf (fraction ++ rest) = fraction ∧
      ¬ (whole.isEmpty && fraction.isEmpty) = true := by
    cases h with
    | whole hne hrun hno =>
      exact ⟨hrun.digits_eq, Numeral.fractionOf_eq_nil_iff.2 hno, by simpa using hne⟩
    | @fraction _ power _ hrun hne hpower =>
      have hread := Numeral.fractionOf_append ⟨hne, hpower.digits⟩ rest
      rw [Numeral.digits_eq_nil hpower.stops, List.append_nil] at hread
      exact ⟨hrun.digits_eq, hread, by simp⟩
  obtain ⟨hwhole, hfraction, hsome⟩ := hparts
  have hbehind : text.drop whole.length = fraction ++ rest := by
    rw [h.text_eq, List.append_assoc, List.drop_left]
  simp only [Numeral.read?, hwhole, hbehind, hfraction, List.drop_left, if_neg hsome]

end PlainScan

/-- Where the steps take nothing, no numeral is read. -/
theorem Numeral.read?_eq_none {text : List Char} (hdigit : ∀ c ∈ text.head?, ¬ c.isDigit)
    (hfraction : ¬ Numeral.StartsFraction text) : Numeral.read? text = none := by
  simp only [Numeral.read?, Numeral.digits_eq_nil hdigit, List.length_nil, List.drop_zero,
    Numeral.fractionOf_eq_nil_iff.2 hfraction, List.isEmpty_nil, Bool.and_self, if_true]

/-- The steps take nothing, or a plain number. -/
theorem exists_plainScan (text : List Char) :
    ((∀ c ∈ text.head?, ¬ c.isDigit) ∧ ¬ Numeral.StartsFraction text) ∨
      ∃ whole fraction rest, PlainScan text whole fraction rest := by
  obtain ⟨run, behind, rfl, hrun⟩ := exists_maximalDigits text
  by_cases hfraction : Numeral.StartsFraction behind
  · obtain ⟨d, tail, rfl, hd⟩ := hfraction
    obtain ⟨power, rest, hsplit, hpower⟩ := exists_maximalDigits (d :: tail)
    have hne := hpower.ne_nil hsplit hd
    rw [hsplit] at hrun ⊢
    exact .inr ⟨run, '.' :: power, rest, .fraction hrun hne hpower⟩
  · by_cases hne : run = []
    · subst hne
      exact .inl ⟨hrun.stops, hfraction⟩
    · exact .inr ⟨run, [], behind, .whole hne hrun hfraction⟩

/-- **The steps always come to an end.** -/
theorem exists_numberScan (text : List Char) : ∃ outcome rest, NumberScan text outcome rest := by
  rcases exists_plainScan text with ⟨hdigit, hfraction⟩ | ⟨whole, fraction, rest, hplain⟩
  · exact ⟨_, _, .absent hdigit hfraction⟩
  · by_cases hmark : ∀ c ∈ rest.head?, ¬ Numeral.isMark c
    · exact ⟨_, _, .plain hplain hmark⟩
    · push Not at hmark
      obtain ⟨mark, hhead, hmark⟩ := hmark
      obtain ⟨tail, rfl⟩ := List.head?_eq_some_iff.1 hhead
      by_cases hpower : Numeral.StartsPower tail
      · obtain ⟨sign, d, more, rfl, hsign, hd⟩ := hpower
        obtain ⟨power, rest, hsplit, hdigits⟩ := exists_maximalDigits (d :: more)
        have hne := hdigits.ne_nil hsplit hd
        rw [hsplit] at hplain
        exact ⟨_, _, .power hplain hmark hsign hne hdigits⟩
      · exact ⟨_, _, .malformed hplain hmark hpower⟩

theorem Numeral.exponentOf_eq_nil {text : List Char} (h : ∀ c ∈ text.head?, ¬ Numeral.isMark c) :
    Numeral.exponentOf text = [] := by
  cases text with
  | nil => rfl
  | cons c text =>
    have hc : Numeral.isMark c = false := by simpa using h c rfl
    simp [Numeral.exponentOf, hc]

/-! ### The expression and the steps -/

namespace Regex

variable {text : List Char} {outcome : NumberOutcome} {left : List Char}

/-- What the steps come to, the expression comes to. -/
theorem scanNumber_of_numberScan (h : NumberScan text outcome left) :
    scanNumber text = (outcome, left) := by
  cases h with
  | absent hdigit hfraction => exact scanNumber_of_none (Numeral.read?_eq_none hdigit hfraction)
  | @plain whole fraction _ hplain hmark =>
    have hread := hplain.read?
    rw [Numeral.exponentOf_eq_nil hmark] at hread
    have htext : text = (⟨whole, fraction, []⟩ : Numeral).text ++ left := by
      rw [hplain.text_eq, Numeral.text, List.append_nil]
    have hnone : (⟨whole, fraction, []⟩ : Numeral).strayMark? left = none := by
      rw [Numeral.strayMark?, Option.filter_eq_none_iff.2 hmark]
      rfl
    rw [scanNumber_of_some hread htext, hnone]
    simp [Numeral.text, Numeral.literal]
  | @power whole fraction sign power _ mark hplain hmark hsign hne hpower =>
    have hread := hplain.read?
    rw [Numeral.exponentOf_append hmark (Numeral.sign_iff.2 hsign) ⟨hne, hpower.digits⟩,
      Numeral.digits_eq_nil hpower.stops, List.append_nil] at hread
    have htext : text = (⟨whole, fraction, mark :: (sign ++ power)⟩ : Numeral).text ++ left := by
      rw [hplain.text_eq, Numeral.text]
      simp
    rw [scanNumber_of_some hread htext]
    simp [Numeral.strayMark?, Numeral.literal, Numeral.text]
  | @malformed whole fraction _ mark hplain hmark hno =>
    have hread := hplain.read?
    rw [(Numeral.exponentOf_eq_nil_iff hmark).2 hno] at hread
    have htext : text = (⟨whole, fraction, []⟩ : Numeral).text ++ mark :: left := by
      rw [hplain.text_eq, Numeral.text, List.append_nil]
    have hstray : (⟨whole, fraction, []⟩ : Numeral).strayMark? (mark :: left) = some mark :=
      Lexeme.strayMark?_eq_some.2 ⟨rfl, rfl, hmark⟩
    rw [scanNumber_of_some hread htext, hstray]
    simp [Numeral.text]

/-- **A scan by the expression ends as the steps do**, with the same outcome and with the same left. -/
theorem scanNumber_eq_iff : scanNumber text = (outcome, left) ↔ NumberScan text outcome left := by
  constructor
  · intro h
    obtain ⟨other, rest, hscan⟩ := exists_numberScan text
    rw [scanNumber_of_numberScan hscan] at h
    cases h
    exact hscan
  · exact scanNumber_of_numberScan

/-- The sign is given up with the exponent, and the mark alone is gone over. -/
example : scanNumber "1.5E-x".toList = (.malformed "1.5E".toList, "-x".toList) := by
  decide

end Regex

/-! ### What a reading makes of the outcome -/

/-- `cursor.TakesNumber keywords outcome left`: the outcome of a scan for a number is the longest number
that stands at the cursor, if there is one, and a reading at the cursor goes by it.  Without a number
none is read.  A number makes a token with its text, floating when there is a point or an exponent mark
in it, and what comes behind the text is left.  A number that runs into an exponent mark is an error with
the mark, and what comes behind the mark is left. -/
inductive Cursor.TakesNumber (keywords : Keywords) (cursor : Cursor) :
    NumberOutcome → List Char → Prop
  | absent :
      (∀ front, front <+: cursor.rest → ¬ Pattern.number.Matches front) →
      Numeral.read? cursor.rest = none → TakesNumber keywords cursor .absent cursor.rest
  | number {literal : Literal} {text left : List Char} :
      Longest Pattern.number.Matches text cursor.rest →
      (literal = .floating ↔ '.' ∈ text ∨ 'e' ∈ text ∨ 'E' ∈ text) →
      cursor.readLexeme keywords =
        .token ⟨.literal literal, some (String.ofList text), cursor.position⟩
          (cursor.advance text.length) →
      (cursor.advance text.length).rest = left →
      TakesNumber keywords cursor (.number literal text) left
  | malformed {text left : List Char} {mark : Char} :
      Longest Pattern.number.Matches text cursor.rest → Numeral.isMark mark →
      cursor.readLexeme keywords =
        .fault (.malformedExponent (String.ofList (text ++ [mark])))
          (cursor.advance (text ++ [mark]).length) →
      (cursor.advance (text ++ [mark]).length).rest = left →
      TakesNumber keywords cursor (.malformed (text ++ [mark])) left

/-- Where a numeral is read no word begins, so the reader comes to the numeral. -/
theorem Lexeme.read_of_read? {text : List Char} {n : Numeral} (h : Numeral.read? text = some n) :
    Lexeme.read text = ofNumeral n text := by
  have hplain := Numeral.longest_plain h
  exact read_of_numeral (readWord?_of_plainNumber hplain.holds hplain.isPrefix) h

/-- **The expression, the steps and the reader come to the same, for every text**: a scan by the
expression ends as the steps do, and a reading goes by its outcome. -/
theorem Cursor.takesNumber_scanNumber (keywords : Keywords) (cursor : Cursor) :
    (∀ outcome left, Regex.scanNumber cursor.rest = (outcome, left) ↔
      NumberScan cursor.rest outcome left) ∧
    cursor.TakesNumber keywords (Regex.scanNumber cursor.rest).1
      (Regex.scanNumber cursor.rest).2 := by
  refine ⟨fun outcome left => Regex.scanNumber_eq_iff, ?_⟩
  cases h : Numeral.read? cursor.rest with
  | none =>
    have hnone : Regex.number.first? cursor.rest = none := by
      rw [Regex.first?_number, h]
      rfl
    rw [Regex.first?_eq_none_iff, Regex.shape_number] at hnone
    rw [Regex.scanNumber_of_none h]
    exact .absent hnone h
  | some n =>
    have hlongest := Numeral.longest_text h
    have hlexeme := Lexeme.read_of_read? h
    obtain ⟨left, hleft⟩ := hlongest.isPrefix
    rw [Regex.scanNumber_of_some h hleft.symm]
    cases hstray : n.strayMark? left with
    | none =>
      rw [← hleft, Lexeme.ofNumeral_of_none hstray, hleft] at hlexeme
      have hfloating := Kind.floating_iff (Numeral.read?_eq_some h).1
      refine .number hlongest hfloating.symm ?_ (advance_text hleft.symm)
      rw [readLexeme_eq, hlexeme]
      rfl
    | some mark =>
      rw [← hleft, Lexeme.ofNumeral_of_strayMark? hstray, hleft] at hlexeme
      obtain ⟨-, hhead, hmark⟩ := Lexeme.strayMark?_eq_some.1 hstray
      obtain ⟨tail, rfl⟩ := List.head?_eq_some_iff.1 hhead
      have hrest : cursor.rest = (n.text ++ [mark]) ++ tail := by
        rw [← hleft, List.append_assoc]
        rfl
      refine .malformed hlongest hmark ?_ (advance_text hrest)
      rw [readLexeme_eq, hlexeme]

end CurlyLex
