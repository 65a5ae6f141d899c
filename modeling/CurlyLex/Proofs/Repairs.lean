import CurlyLex.Proofs.FirstFault
import CurlyLex.Proofs.Lookahead
import CurlyLex.Proofs.SourceLines

/-!
# Suggested repairs

For three faults a tip says what is missing: the close of a comment, the digits of an exponent, or the
other half of `!=`.  What is missing is put in right where the error is reported.  It alters no lexeme
before that place, because no lexeme goes on over a slash or an exclamation mark, and one that goes on
over an exponent mark could as well end before it; and it makes a gap or a lexeme of the text where the
fault was.

* `Fault.remedy` — what is missing, according to the tip.
* `Position.Divides` — a position divides a text in one place only.
* `deliveries` — what a scan of a text delivers; `Cut.deliveries_lexeme` — what it delivers up to a lexeme
  behind a cut.
* `IsLexeme.of_mark` — what comes before an exponent mark in a lexeme.
* `Replaces.behind` — texts may be exchanged behind a character that lexemes do not need.
* `RunsIntoMark.lexemeAt`, `lexemeAt_notEqual` — the lexemes that a repair makes.
* `LexicalError.Repaired` — what the repair of an error comes to.
* `tokenize_repaired` — every error with a tip is repaired.
-/

namespace CurlyLex

/-- What is missing where a fault is reported; nothing is known to be missing without a tip. -/
def Fault.remedy : Fault → List Char
  | .unterminatedComment => ['*', '/']
  | .malformedExponent _ => ['1']
  | .unrecognizedCharacter c => if c = '!' then ['='] else []

/-! ### Places in a text -/

namespace Position

/-- A position that counts a text counts no longer one that begins with it. -/
theorem Marks.eq_nil {position : Position} {front more : List Char} (h : position.Marks front)
    (hmore : position.Marks (front ++ more)) : more = [] := by
  have hline := h.line.symm.trans hmore.line
  rw [List.count_append] at hline
  have hfeed : '\n' ∉ more := List.count_eq_zero.1 (by omega)
  have hcolumn : 1 + (Text.lastLine front).length = 1 + (Text.lastLine (front ++ more)).length :=
    h.column.symm.trans hmore.column
  rw [Text.lastLine_append hfeed, List.length_append] at hcolumn
  exact List.length_eq_zero_iff.1 (by omega)

/-- A position divides a text into what it counts and what comes behind, and it is the position of no
other place in the text. -/
structure Divides (position : Position) (text before after : List Char) : Prop where
  text_eq : text = before ++ after
  marks : position.Marks before
  only : ∀ front back, text = front ++ back → position.Marks front → front = before

/-- **A position divides a text in one place only.** -/
theorem Marks.divides {position : Position} {before : List Char} (h : position.Marks before)
    (after : List Char) : position.Divides (before ++ after) before after := by
  refine ⟨rfl, h, ?_⟩
  intro front back htext hfront
  rcases List.append_eq_append_iff.1 htext with ⟨more, rfl, -⟩ | ⟨more, rfl, -⟩
  · rw [h.eq_nil hfront, List.append_nil]
  · rw [hfront.eq_nil h, List.append_nil]

end Position

/-! ### Up to a lexeme -/

/-- What a scan of a text delivers, in order. -/
def deliveries (text : List Char) : List (Except LexicalError Token) :=
  ((Cursor.ofText text).readings .reserved).map Reading.outcome

/-- **Where a lexeme stands behind a cut**, a scan delivers the tokens of the cut and then the
lexeme. -/
theorem Cut.deliveries_lexeme {text lead lexeme rest : List Char} {pieces : List Piece} {kind : Kind}
    (h : Cut text lead pieces (lexeme ++ rest)) (hlexeme : LexemeAt lexeme rest)
    (hkind : kind.Spells lexeme) :
    (Piece.tokens (Position.start.after lead) pieces).map .ok ++
      [.ok ⟨kind, some (String.ofList lexeme), Position.start.after (lead ++ Piece.join pieces)⟩] <+:
        deliveries text := by
  have hcut : Cut (Cursor.ofText text).rest lead pieces (lexeme ++ rest) := h
  obtain ⟨last, hrest, hposition, houtcomes⟩ := hcut.outcomes
  have hread := Cursor.read_lexemeAt hlexeme hkind hrest
  have hmore : (last.read .reserved).isLast = false := by
    rw [hread]
    simpa [Reading.token, Reading.isLast, Token.isFinal] using hkind.ne_endOfInput
  rw [deliveries, houtcomes, Cursor.readings_eq, hmore, if_neg (by simp), List.map_cons, hread,
    hposition]
  exact ⟨_, List.append_assoc _ _ _⟩

/-! ### Lexemes that go over an exponent mark -/

/-- A plain number has no exponent mark. -/
theorem Pattern.not_mem_plainNumber {mark : Char} (hmark : mark = 'e' ∨ mark = 'E')
    {text : List Char} (h : plainNumber.Matches text) : mark ∉ text := by
  intro hmem
  have hclass := mem_plainNumber h hmem
  rcases hmark with rfl | rfl <;> exact absurd hclass (by decide)

/-- Nor has what comes behind the mark of an exponent. -/
theorem Pattern.not_mem_power {mark letter : Char} (hmark : mark = 'e' ∨ mark = 'E')
    {power : List Char} (h : exponent.Matches (letter :: power)) : mark ∉ power := by
  intro hmem
  obtain ⟨other, sign, digits, heq, -, hsign, -, hdigits⟩ := exponent_iff.1 h
  rw [(List.cons_eq_cons.1 heq).2] at hmem
  rcases List.mem_append.1 hmem with hmem | hmem
  · rcases hsign with rfl | ⟨s, hs, rfl⟩
    · simp at hmem
    · obtain rfl : mark = s := by simpa using hmem
      rcases hmark with rfl | rfl <;> exact absurd hs (by decide)
  · have hdigit := hdigits mark hmem
    rcases hmark with rfl | rfl <;> exact absurd hdigit (by decide)

/-- What comes before an exponent mark in a number is a plain number. -/
theorem Pattern.plainNumber_of_mark {mark : Char} (hmark : mark = 'e' ∨ mark = 'E')
    {front back : List Char} (h : number.Matches (front ++ mark :: back)) :
    plainNumber.Matches front := by
  obtain ⟨plain, exponent, hplain, hexponent, htext⟩ := h
  rcases List.append_eq_append_iff.1 htext with ⟨more, rfl, hback⟩ | ⟨more, rfl, rfl⟩
  · cases more with
    | nil => rwa [List.append_nil] at hplain
    | cons c more =>
      -- the mark would stand in the plain number
      obtain ⟨rfl, -⟩ := List.cons_eq_cons.1 hback
      exact absurd (by simp) (not_mem_plainNumber hmark hplain)
  · cases more with
    | nil => rwa [List.append_nil]
    | cons c more =>
      -- the mark would stand in the exponent, behind its first character
      have hpower := hexponent.resolve_left (List.cons_ne_nil _ _)
      exact absurd (by simp) (not_mem_power hmark hpower)

/-- **What comes before an exponent mark in a lexeme is a lexeme already.** -/
theorem IsLexeme.of_mark {mark : Char} (hmark : mark = 'e' ∨ mark = 'E') {front back : List Char}
    (hne : front ≠ []) (h : IsLexeme (front ++ mark :: back)) : IsLexeme front := by
  rcases h with h | h | ⟨s, hs⟩
  · left
    obtain ⟨c, front, rfl⟩ := List.exists_cons_of_ne_nil hne
    obtain ⟨d, rest, htext, hd, hrest⟩ := Pattern.word_iff.1 h
    obtain ⟨rfl, rfl⟩ := List.cons_eq_cons.1 htext
    exact Pattern.word_iff.2 ⟨c, front, rfl, hd, fun e he => hrest e (List.mem_append_left _ he)⟩
  · exact .inr (.inl (Pattern.number_of_plainNumber (Pattern.plainNumber_of_mark hmark h)))
  · have hmem : mark ∈ s.spelling := by
      rw [hs]
      simp
    exfalso
    revert hmem
    rcases hmark with rfl | rfl <;> cases s <;> decide

/-! ### Exchanges behind a character -/

/-- **Texts may be exchanged behind a character that lexemes do not need**: what comes before it in a
lexeme is a lexeme already, and longer than what stood before `front`. -/
theorem Replaces.behind (front : List Char) {c : Char}
    (hends : ∀ before back, before ≠ [] → IsLexeme (before ++ front ++ c :: back) →
      front ≠ [] ∧ IsLexeme (before ++ front))
    (rest other : List Char) : Replaces (front ++ c :: other) (front ++ c :: rest) := by
  refine ⟨?_, ?_⟩
  · intro before hne houtgrown
    obtain ⟨longer, hlonger, hprefix, hless⟩ := houtgrown
    rw [← List.append_assoc] at hprefix
    by_cases hle : longer.length ≤ (before ++ front).length
    · have hfront : longer <+: before ++ front :=
        List.prefix_of_prefix_length_le hprefix (List.prefix_append _ _) hle
      exact .of_isPrefix hlonger hfront hless _
    · -- the longer lexeme goes over the character
      have hover : before ++ front ++ [c] <+: longer := by
        refine List.prefix_of_prefix_length_le ⟨other, by simp⟩ hprefix ?_
        rw [List.length_append, List.length_singleton]
        omega
      obtain ⟨back, rfl⟩ := hover
      rw [List.append_assoc _ [c], List.singleton_append] at hlonger
      obtain ⟨hpos, hlexeme⟩ := hends before back hne hlonger
      have hlength := List.length_pos_iff.2 hpos
      refine .of_isPrefix hlexeme (List.prefix_refl _) ?_ _
      rw [List.length_append]
      omega
  · intro d hd
    right
    cases front with
    | nil => exact hd
    | cons b front => exact hd

/-- Texts may be exchanged behind a slash. -/
theorem Replaces.slash (rest other : List Char) : Replaces ('/' :: other) ('/' :: rest) := by
  refine Replaces.behind [] ?_ rest other
  intro before back hne h
  have hlength := congrArg List.length (h.eq_slash (by simp))
  have hpos := List.length_pos_iff.2 hne
  simp only [List.length_append, List.length_cons, List.length_nil] at hlength
  omega

/-- Texts may be exchanged behind an exclamation mark. -/
theorem Replaces.exclamation (rest other : List Char) : Replaces ('!' :: other) ('!' :: rest) := by
  refine Replaces.behind [] ?_ rest other
  intro before back hne h
  obtain ⟨b, before, rfl⟩ := List.exists_cons_of_ne_nil hne
  have htail := (List.cons_eq_cons.1 (h.eq_unequal (by simp))).2
  have hmem : '!' ∈ ['='] := by
    rw [← htail]
    simp
  exact absurd hmem (by decide)

/-- Texts may be exchanged behind an exponent mark with something in front of it. -/
theorem Replaces.mark {number : List Char} {mark : Char} (hmark : mark = 'e' ∨ mark = 'E')
    (hne : number ≠ []) (rest other : List Char) :
    Replaces (number ++ mark :: other) (number ++ mark :: rest) := by
  refine Replaces.behind number ?_ rest other
  intro before back _ h
  exact ⟨hne, h.of_mark hmark (by simp [hne])⟩

/-! ### Lexemes that a repair makes -/

/-- A digit behind a mark that had no power is all of the power. -/
theorem Numeral.exponentOf_digit {mark d : Char} {rest : List Char} (hmark : isMark mark)
    (hd : d.isDigit) (hno : ¬ StartsPower rest) : exponentOf (mark :: d :: rest) = [mark, d] := by
  have hstop : digits rest = [] := by
    apply digits_eq_nil
    intro c hc hdigit
    obtain ⟨tail, rfl⟩ := List.head?_eq_some_iff.1 hc
    exact hno ⟨[], c, tail, rfl, .inl rfl, hdigit⟩
  have hpower : Pattern.digits.Matches [d] := ⟨List.cons_ne_nil _ _, by simpa using hd⟩
  have hread := exponentOf_append hmark (.inl rfl) hpower rest
  rw [hstop] at hread
  exact hread

/-- **A digit behind the mark makes a floating number**, whatever comes behind the mark. -/
theorem RunsIntoMark.lexemeAt {number rest : List Char} {mark d : Char}
    (h : RunsIntoMark number mark (number ++ mark :: rest)) (hd : d.isDigit) :
    LexemeAt (number ++ [mark, d]) rest ∧
      (Kind.literal .floating).Spells (number ++ [mark, d]) := by
  obtain ⟨n, hn, -, rfl⟩ := Pattern.plainNumber_iff.1 h.longest.holds
  obtain ⟨behind, hbehind, hno⟩ := h.no_power
  rw [← (List.cons_eq_cons.1 (List.append_cancel_left hbehind)).2] at hno
  have hletter : Numeral.isMark mark = true := by
    rcases h.isMark with rfl | rfl <;> decide
  have hpoint : mark ≠ '.' := by
    rcases h.isMark with rfl | rfl <;> decide
  have hread : Numeral.read? (n.plain ++ mark :: d :: rest) =
      some ⟨n.whole, n.fraction, Numeral.exponentOf (mark :: d :: rest)⟩ := by
    apply Numeral.read?_plain_append hn
    · simpa using Numeral.not_isDigit_of_isMark hletter
    · simpa using hpoint
  rw [Numeral.exponentOf_digit hletter hd hno] at hread
  have hassoc : n.plain ++ mark :: d :: rest = n.plain ++ [mark, d] ++ rest := by simp
  have hstops := Gap.stops_of_plainNumber h.longest.holds (mark :: d :: rest)
  have hword := readWord?_of_plainNumber h.longest.holds
    (List.prefix_append n.plain (mark :: d :: rest))
  rw [hassoc] at hread hstops hword
  have hmem : mark ∈ n.plain ++ [mark, d] := by simp
  have htaken : Numeral.text ⟨n.whole, n.fraction, [mark, d]⟩ = n.plain ++ [mark, d] := rfl
  have hlongest := Lexeme.longest_of_numeral hword hread
  have hnumber := (Numeral.longest_text hread).holds
  rw [htaken] at hlongest hnumber
  refine ⟨⟨hlongest, hstops.not_line, hstops.not_block, ?_⟩, hnumber, ?_⟩
  · intro hplain
    exact absurd hmem (Pattern.not_mem_plainNumber h.isMark hplain)
  · rcases h.isMark with rfl | rfl
    · exact .inr (.inl hmem)
    · exact .inr (.inr hmem)

/-- **An equals sign behind the exclamation mark makes `!=`.** -/
theorem lexemeAt_notEqual (rest : List Char) : LexemeAt ['!', '='] rest := by
  refine ⟨⟨List.prefix_append _ _, .inr (.inr ⟨.notEqual, rfl⟩), ?_⟩, ?_, ?_, ?_⟩
  · intro other hfront hother
    obtain ⟨c, other, rfl⟩ := List.exists_cons_of_ne_nil hother.ne_nil
    obtain rfl : c = '!' := head_eq_of_front hfront
    rw [hother.eq_unequal List.mem_cons_self]
  · intro h
    exact absurd (head_eq_of_front h) (by decide)
  · intro h
    exact absurd (head_eq_of_front h) (by decide)
  · intro h
    exact absurd (Pattern.isDigit_or_eq_of_plainNumber h) (by decide)

/-! ### Repairs -/

/-- What the repair of an error comes to, when `tokens` are read before it.  A comment is closed behind
the source, which then has these tokens and the end.  A digit behind a literal makes a floating number
of it, by itself and in the source, where it is read behind the tokens.  An equals sign makes `!=` of an
exclamation mark, which is read behind the tokens as well. -/
def LexicalError.Repaired (error : LexicalError) (source : String) (tokens : List Token) : Prop :=
  match error.fault with
  | .unterminatedComment =>
    ∃ last : Position, last.Marks (source ++ "*/").toList ∧
      tokenize (source ++ "*/") = .ok (tokens ++ [⟨.endOfInput, none, last⟩])
  | .malformedExponent literal =>
    (∃ last : Position, last.Marks (literal ++ "1").toList ∧ tokenize (literal ++ "1") =
      .ok [⟨.literal .floating, some (literal ++ "1"), .start⟩, ⟨.endOfInput, none, last⟩]) ∧
    ∃ (front rest : List Char) (start : Position),
      error.position.Divides source.toList (front ++ literal.toList) rest ∧ start.Marks front ∧
      tokens.map .ok ++ [.ok ⟨.literal .floating, some (literal ++ "1"), start⟩] <+:
        deliveries (front ++ literal.toList ++ '1' :: rest)
  | .unrecognizedCharacter c =>
    c = '!' ∧ ∃ before rest : List Char, error.position.Divides source.toList before ('!' :: rest) ∧
      tokens.map .ok ++ [.ok ⟨.symbol .notEqual, some "!=", error.position⟩] <+:
        deliveries (before ++ '!' :: '=' :: rest)

/-- A lexeme alone is a source with one token. -/
theorem LexemeAt.tokenize_alone {lexeme rest : List Char} {kind : Kind} (h : LexemeAt lexeme rest)
    (hkind : kind.Spells lexeme) :
    tokenize (String.ofList lexeme) = .ok [⟨kind, some (String.ofList lexeme), .start⟩,
      ⟨.endOfInput, none, Position.start.after lexeme⟩] := by
  have halone := h.clips (Clips.of_isPrefix List.nil_prefix)
  have hcut : Cut (String.ofList lexeme).toList [] [⟨lexeme, kind, []⟩] [] := by
    have hcons : Cut ([] ++ (lexeme ++ [])) [] [⟨lexeme, kind, []⟩] [] :=
      .cons .nil halone hkind ⟨rfl, .nil, .nil⟩
    rw [List.nil_append, List.append_nil] at hcons
    rwa [String.toList_ofList]
  rw [hcut.tokenize_ok, String.toList_ofList]
  rfl

namespace FailsAt

variable {source : String} {lead rest passed : List Char} {pieces : List Piece} {position : Position}

/-- **A comment that is closed behind the source is a gap.** -/
theorem repaired_comment
    (h : FailsAt source.toList lead pieces rest passed ⟨.unterminatedComment, position⟩)
    (hshort : source.length + 2 < 2 ^ 32 - 1) :
    LexicalError.Repaired ⟨.unterminatedComment, position⟩ source
      (Piece.tokens (Position.start.after lead) pieces) := by
  have hfaults := h.faults
  cases hfaults with
  | unclosed hunclosed =>
    obtain ⟨body, rfl, hbody⟩ := hunclosed
    have htext : (source ++ "*/").toList =
        lead ++ (Piece.join pieces ++ '/' :: '*' :: (body ++ '*' :: '/' :: [])) := by
      rw [String.toList_append, h.cut.text_eq]
      simp
    have hcut := h.cut.replace (Replaces.slash ('*' :: body) ('*' :: (body ++ '*' :: '/' :: [])))
    rw [← htext] at hcut
    refine ⟨_, Position.marks_after ?_, hcut.tokenize_gap (.block hbody .nil)⟩
    rw [String.length_toList, String.length_append]
    exact hshort

/-- **A literal with a digit behind its mark is a floating number**, by itself and where it stands. -/
theorem repaired_exponent {literal : String}
    (h : FailsAt source.toList lead pieces rest passed ⟨.malformedExponent literal, position⟩)
    (hshort : source.length + 1 < 2 ^ 32 - 1) :
    LexicalError.Repaired ⟨.malformedExponent literal, position⟩ source
      (Piece.tokens (Position.start.after lead) pieces) := by
  have hle := h.cut.length_le h.faults.passed_isPrefix
  have hmarks : position.Marks (lead ++ Piece.join pieces ++ passed) := h.marks
  have hfaults : Faults rest passed (.malformedExponent literal) := h.faults
  cases hfaults with
  | @mark number mark hmark =>
    obtain ⟨behind, rfl, -⟩ := hmark.no_power
    obtain ⟨hlexeme, hkind⟩ := hmark.lexemeAt (d := '1') (by decide)
    have hne := Pattern.plainNumber_ne_nil hmark.longest.holds
    have hcut := h.cut.replace (Replaces.mark hmark.isMark hne behind ('1' :: behind))
    have hfinished : String.ofList (number ++ [mark]) ++ "1" = String.ofList (number ++ [mark, '1']) := by
      rw [← String.toList_inj]
      simp
    rw [String.length_toList, List.length_append, List.length_append, List.length_append,
      List.length_singleton] at hle
    refine ⟨?_, lead ++ Piece.join pieces, behind, _, ?_, Position.marks_after ?_, ?_⟩
    · rw [hfinished, String.toList_ofList]
      refine ⟨_, Position.marks_after ?_, hlexeme.tokenize_alone hkind⟩
      simp only [List.length_append, List.length_cons, List.length_nil]
      omega
    · have hdivides := hmarks.divides behind
      rw [String.toList_ofList, h.cut.text_eq]
      have htext : lead ++ Piece.join pieces ++ (number ++ [mark]) ++ behind =
          lead ++ (Piece.join pieces ++ (number ++ mark :: behind)) := by simp
      rwa [htext] at hdivides
    · rw [List.length_append]
      omega
    · have htext : number ++ mark :: '1' :: behind = number ++ [mark, '1'] ++ behind := by simp
      rw [htext] at hcut
      have hdelivers := hcut.deliveries_lexeme hlexeme hkind
      rw [hfinished, String.toList_ofList]
      have hsource : lead ++ (Piece.join pieces ++ (number ++ [mark, '1'] ++ behind)) =
          lead ++ Piece.join pieces ++ (number ++ [mark]) ++ '1' :: behind := by simp
      rwa [hsource] at hdelivers

/-- **An exclamation mark with an equals sign behind it is `!=`.** -/
theorem repaired_character
    (h : FailsAt source.toList lead pieces rest passed ⟨.unrecognizedCharacter '!', position⟩)
    (hshort : source.length + 1 < 2 ^ 32 - 1) :
    LexicalError.Repaired ⟨.unrecognizedCharacter '!', position⟩ source
      (Piece.tokens (Position.start.after lead) pieces) := by
  have hposition : position = Position.start.after (lead ++ Piece.join pieces ++ passed) :=
    h.position_eq (by rw [String.length_toList]; omega)
  have hmarks : position.Marks (lead ++ Piece.join pieces ++ passed) := h.marks
  have hfaults : Faults rest passed (.unrecognizedCharacter '!') := h.faults
  cases hfaults with
  | nothing hnothing =>
    obtain ⟨behind, rfl⟩ := List.head?_eq_some_iff.1 hnothing.head
    rw [List.append_nil] at hposition hmarks
    have hcut := h.cut.replace (Replaces.exclamation behind ('=' :: behind))
    have hdelivers := hcut.deliveries_lexeme (lexemeAt_notEqual behind)
      (show (Kind.symbol .notEqual).Spells ['!', '='] from rfl)
    rw [← hposition, ← List.append_assoc] at hdelivers
    refine ⟨rfl, lead ++ Piece.join pieces, behind, ?_, hdelivers⟩
    have hdivides := hmarks.divides ('!' :: behind)
    rwa [List.append_assoc, ← h.cut.text_eq] at hdivides

end FailsAt

/-- **Every error with a tip is repaired** by what the tip says is missing, right where the error is
reported, and nothing that is read before the error is altered. -/
theorem tokenize_repaired (source : String) (error : LexicalError)
    (herror : tokenize source = .error error) (htip : error.fault.tip?.isSome)
    (hshort : source.length + error.fault.remedy.length < 2 ^ 32 - 1) :
    ∃ tokens, deliveries source.toList = tokens.map .ok ++ [.error error] ∧
      error.Repaired source tokens := by
  obtain ⟨lead, pieces, rest, passed, hfails⟩ := FailsAt.exists_of_error herror (by omega)
  refine ⟨_, hfails.outcomes (by omega), ?_⟩
  obtain ⟨fault, position⟩ := error
  cases fault with
  | unterminatedComment => exact hfails.repaired_comment hshort
  | malformedExponent literal => exact hfails.repaired_exponent hshort
  | unrecognizedCharacter c =>
    by_cases hc : c = '!'
    · subst hc
      exact hfails.repaired_character hshort
    · simp [Fault.tip?, hc] at htip

/-- A comment that ends with a star, a mark with a sign but no digit behind it, and an exclamation mark
between two words. -/
theorem tokenize_repaired_star_sign_word :
    (∃ tokens, deliveries "x /* *".toList = tokens.map .ok ++ [.error ⟨.unterminatedComment, ⟨1, 7⟩⟩] ∧
      LexicalError.Repaired ⟨.unterminatedComment, ⟨1, 7⟩⟩ "x /* *" tokens) ∧
    (∃ tokens, deliveries "y\n1.5e-x".toList =
        tokens.map .ok ++ [.error ⟨.malformedExponent "1.5e", ⟨2, 5⟩⟩] ∧
      LexicalError.Repaired ⟨.malformedExponent "1.5e", ⟨2, 5⟩⟩ "y\n1.5e-x" tokens) ∧
    ∃ tokens, deliveries "a!b".toList = tokens.map .ok ++ [.error ⟨.unrecognizedCharacter '!', ⟨1, 2⟩⟩] ∧
      LexicalError.Repaired ⟨.unrecognizedCharacter '!', ⟨1, 2⟩⟩ "a!b" tokens := by
  have hcomment : tokenize "x /* *" = .error ⟨.unterminatedComment, ⟨1, 7⟩⟩ := by decide +kernel
  have hexponent : tokenize "y\n1.5e-x" = .error ⟨.malformedExponent "1.5e", ⟨2, 5⟩⟩ := by
    decide +kernel
  have hcharacter : tokenize "a!b" = .error ⟨.unrecognizedCharacter '!', ⟨1, 2⟩⟩ := by decide +kernel
  exact ⟨tokenize_repaired _ _ hcomment (by decide) (by decide),
    tokenize_repaired _ _ hexponent (by decide) (by decide),
    tokenize_repaired _ _ hcharacter (by decide) (by decide)⟩

end CurlyLex
