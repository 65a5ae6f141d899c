import CurlyLex.Proofs.LexemeReading
import CurlyLex.Proofs.ScanReadings

/-!
# Readings and what lies before the cursor

A reading is decided by the text before the cursor.  Each way in which this text can go on has one
lemma here, which says what the reading leaves and where the cursor then stands; a gap in front
changes nothing but the place.

* `Cursor.read_gap`, `Cursor.readings_gap` — a gap in front may be passed first.
* `Cursor.read_found`, `Cursor.read_lexemeAt` — a lexeme makes a token.
* `Faults` — the three texts at which a reading meets a fault, and `Ends`, where a scan ends.
* `Cursor.read_end`, `Cursor.read_faults` — what a reading makes of them.
* `Cursor.Meets`, `Cursor.meets_read` — all that a reading can be, with any keywords.
* `gather_ok`, `gather_error` — what a scan returns, from the outcomes of its readings.
-/

namespace CurlyLex

/-! ### Gaps in front -/

namespace Cursor

theorem advance_text {cursor : Cursor} {front rest : List Char} (h : cursor.rest = front ++ rest) :
    (cursor.advance front.length).rest = rest := by
  rw [advance_rest, h, List.drop_left]

theorem position_advance_text {cursor : Cursor} {front rest : List Char}
    (h : cursor.rest = front ++ rest) :
    (cursor.advance front.length).position = cursor.position.after front := by
  rw [advance_position, h, List.take_left]

/-- **A gap in front may be passed first.** -/
theorem read_gap (keywords : Keywords) {cursor : Cursor} {gap rest : List Char}
    (hgap : IsGap gap rest) (h : cursor.rest = gap ++ rest) :
    cursor.read keywords = (cursor.advance gap.length).read keywords := by
  have hrest := advance_text h
  rw [read_eq, read_eq, hrest, h, Gap.length?_gap hgap]
  cases Gap.length? rest with
  | some n =>
    show (cursor.advance (gap.length + n)).readLexeme keywords
      = ((cursor.advance gap.length).advance n).readLexeme keywords
    rw [advance_advance]
  | none =>
    show Reading.fault .unterminatedComment (cursor.advance (gap ++ rest).length)
      = Reading.fault .unterminatedComment ((cursor.advance gap.length).advance rest.length)
    rw [advance_advance, List.length_append]

theorem readings_gap (keywords : Keywords) {cursor : Cursor} {gap rest : List Char}
    (hgap : IsGap gap rest) (h : cursor.rest = gap ++ rest) :
    cursor.readings keywords = (cursor.advance gap.length).readings keywords := by
  rw [readings_eq, readings_eq keywords (cursor.advance gap.length), read_gap keywords hgap h]

theorem read_stops (keywords : Keywords) {cursor : Cursor} (h : Gap.Stops cursor.rest) :
    cursor.read keywords = cursor.readLexeme keywords := by
  rw [read_eq, Gap.length?_stops h]
  rfl

end Cursor

/-! ### Lexemes in front -/

theorem LexemeAt.stops {lexeme rest : List Char} (h : LexemeAt lexeme rest) :
    Gap.Stops (lexeme ++ rest) := by
  refine ⟨?_, h.not_line, h.not_block⟩
  intro c hc
  obtain ⟨d, front, rfl⟩ := List.exists_cons_of_ne_nil h.longest.holds.ne_nil
  obtain rfl : d = c := by simpa using hc
  exact h.longest.holds.not_isBlank List.mem_cons_self

theorem Kind.Spells.ne_endOfInput {kind : Kind} {text : List Char} (h : kind.Spells text) :
    kind ≠ .endOfInput := by
  intro hkind
  rw [hkind] at h
  exact h

/-- **A lexeme in front makes a token.** -/
theorem Cursor.read_found (keywords : Keywords) {cursor : Cursor} {found : Lexeme} {rest : List Char}
    (h : LexemeAt found.text rest) (hread : Lexeme.read (found.text ++ rest) = .found found)
    (hrest : cursor.rest = found.text ++ rest) :
    cursor.read keywords =
      .token ⟨found.kind keywords, some (String.ofList found.text), cursor.position⟩
        (cursor.advance found.text.length) := by
  rw [read_stops _ (hrest ▸ h.stops), readLexeme_eq, hrest, hread]

/-- With the keywords of the language, the token has the kind that the lexeme spells. -/
theorem Cursor.read_lexemeAt {cursor : Cursor} {lexeme rest : List Char} {kind : Kind}
    (h : LexemeAt lexeme rest) (hkind : kind.Spells lexeme) (hrest : cursor.rest = lexeme ++ rest) :
    cursor.read .reserved =
      .token ⟨kind, some (String.ofList lexeme), cursor.position⟩ (cursor.advance lexeme.length) := by
  obtain ⟨found, hread, rfl, hfound⟩ := h.read
  rw [read_found _ h hread hrest, (Kind.existsUnique_spells h.longest.holds).unique hkind hfound]

/-! ### The ends of a scan -/

/-- `Faults text passed fault`: a reading of `text` meets `fault` after going over `passed`.  A
comment that is never closed is gone over to its end, a number that runs into an exponent mark is
gone over with the mark, and a character that begins nothing is not gone over. -/
inductive Faults : List Char → List Char → Fault → Prop
  | unclosed {text : List Char} : Gap.Unclosed text → Faults text text .unterminatedComment
  | mark {text number : List Char} {mark : Char} :
      RunsIntoMark number mark text →
      Faults text (number ++ [mark]) (.malformedExponent (String.ofList (number ++ [mark])))
  | nothing {text : List Char} {c : Char} :
      StartsNothing c text → Faults text [] (.unrecognizedCharacter c)

/-- A scan ends at the end of its text and at a fault. -/
def Ends (text : List Char) : Prop :=
  text = [] ∨ ∃ passed fault, Faults text passed fault

theorem Gap.stops_nil : Stops [] :=
  ⟨by simp, by simp, by simp⟩

/-- A text that begins with no slash and no blank begins with no gap. -/
theorem Gap.stops_cons {c : Char} {text : List Char} (hblank : ¬ Text.isBlank c) (hslash : c ≠ '/') :
    Stops (c :: text) := by
  refine ⟨?_, ?_, ?_⟩
  · intro d hd
    obtain rfl : c = d := by simpa using hd
    exact hblank
  · intro h
    exact hslash (head_eq_of_front h).symm
  · intro h
    exact hslash (head_eq_of_front h).symm

/-- A text that begins with a plain number begins with no gap. -/
theorem Gap.stops_of_plainNumber {number : List Char} (h : Pattern.plainNumber.Matches number)
    (rest : List Char) : Stops (number ++ rest) := by
  obtain ⟨c, front, rfl⟩ := List.exists_cons_of_ne_nil (Pattern.plainNumber_ne_nil h)
  have hclass := not_blank_of_mem (.inr (Pattern.number_of_plainNumber h)) List.mem_cons_self
  exact stops_cons hclass.1 hclass.2

theorem RunsIntoMark.stops {number text : List Char} {mark : Char}
    (h : RunsIntoMark number mark text) : Gap.Stops text := by
  obtain ⟨rest, rfl⟩ := h.longest.isPrefix
  exact Gap.stops_of_plainNumber h.longest.holds rest

theorem StartsNothing.stops {c : Char} {text : List Char} (h : StartsNothing c text) :
    Gap.Stops text := by
  obtain ⟨rest, rfl⟩ := List.head?_eq_some_iff.1 h.head
  apply Gap.stops_cons h.not_blank
  intro hslash
  exact h.not_symbol .slash (by rw [hslash]; rfl)

theorem Ends.stops_or_unclosed {text : List Char} (h : Ends text) :
    Gap.Stops text ∨ Gap.Unclosed text := by
  rcases h with rfl | ⟨passed, fault, h⟩
  · exact .inl Gap.stops_nil
  · cases h with
    | unclosed h => exact .inr h
    | mark h => exact .inl h.stops
    | nothing h => exact .inl h.stops

/-- Where a lexeme is taken a scan does not end. -/
theorem LexemeAt.not_ends {lexeme rest : List Char} (h : LexemeAt lexeme rest) :
    ¬ Ends (lexeme ++ rest) := by
  obtain ⟨found, hread, -⟩ := h.read
  intro hends
  rcases hends with hnil | ⟨passed, fault, hfaults⟩
  · exact h.longest.holds.ne_nil (List.append_eq_nil_iff.1 hnil).1
  · cases hfaults with
    | unclosed hunclosed =>
      obtain ⟨body, hbody, -⟩ := hunclosed
      exact h.not_block ⟨body, hbody.symm⟩
    | mark hmark => simp [hmark.read] at hread
    | nothing hnothing => simp [hnothing.read] at hread

theorem Faults.passed_isPrefix {text passed : List Char} {fault : Fault}
    (h : Faults text passed fault) : passed <+: text := by
  cases h with
  | unclosed _ => exact List.prefix_refl _
  | mark h =>
    obtain ⟨rest, rfl, -⟩ := h.no_power
    exact ⟨rest, by simp⟩
  | nothing _ => exact List.nil_prefix

namespace Cursor

theorem read_end (keywords : Keywords) {cursor : Cursor} (h : cursor.rest = []) :
    cursor.read keywords = .token ⟨.endOfInput, none, cursor.position⟩ cursor := by
  rw [read_stops _ (h ▸ Gap.stops_nil), readLexeme_eq, h]
  rfl

/-- **A reading meets the fault in front**, and the cursor goes over what is passed. -/
theorem read_faults (keywords : Keywords) {cursor : Cursor} {passed : List Char} {fault : Fault}
    (h : Faults cursor.rest passed fault) :
    cursor.read keywords = .fault fault (cursor.advance passed.length) := by
  generalize hrest : cursor.rest = text at h
  cases h with
  | unclosed h => rw [read_eq, hrest, Gap.length?_unclosed h]
  | mark h => rw [read_stops _ (hrest ▸ h.stops), readLexeme_eq, hrest, h.read]
  | nothing h => rw [read_stops _ (hrest ▸ h.stops), readLexeme_eq, hrest, h.read]; rfl

/-- What a reading can be: behind a gap it meets the end, a lexeme, or a fault. -/
inductive Meets (keywords : Keywords) (cursor : Cursor) : Reading → Prop
  | finish : IsGap cursor.rest [] →
      Meets keywords cursor
        (.token ⟨.endOfInput, none, cursor.position.after cursor.rest⟩
          (cursor.advance cursor.rest.length))
  | lexeme {gap rest : List Char} {found : Lexeme} :
      cursor.rest = gap ++ (found.text ++ rest) → IsGap gap (found.text ++ rest) →
      LexemeAt found.text rest →
      Meets keywords cursor
        (.token ⟨found.kind keywords, some (String.ofList found.text), cursor.position.after gap⟩
          (cursor.advance (gap ++ found.text).length))
  | fault {gap rest passed : List Char} {fault : Fault} :
      cursor.rest = gap ++ rest → IsGap gap rest → Faults rest passed fault →
      Meets keywords cursor (.fault fault (cursor.advance (gap ++ passed).length))

theorem meets_fault (keywords : Keywords) {cursor : Cursor} {gap rest passed : List Char}
    {fault : Fault} (hrest : cursor.rest = gap ++ rest) (hgap : IsGap gap rest)
    (hfaults : Faults rest passed fault) : Meets keywords cursor (cursor.read keywords) := by
  have hafter := advance_text hrest
  rw [read_gap keywords hgap hrest, read_faults keywords (hafter ▸ hfaults), advance_advance,
    ← List.length_append]
  exact .fault hrest hgap hfaults

/-- **Every reading meets the end, a lexeme, or a fault.** -/
theorem meets_read (keywords : Keywords) (cursor : Cursor) :
    Meets keywords cursor (cursor.read keywords) := by
  obtain ⟨gap, rest, hrest, hgap, hcases⟩ := Gap.exists_split cursor.rest
  have hafter := advance_text hrest
  rcases hcases with hstops | hunclosed
  · by_cases hnil : rest = []
    · subst hnil
      rw [List.append_nil] at hrest
      subst hrest
      have hfront : cursor.rest = cursor.rest ++ [] := (List.append_nil _).symm
      rw [read_gap keywords hgap hfront, read_end keywords hafter, position_advance_text hfront]
      exact .finish hgap
    · rcases Lexeme.exhaustive hstops hnil with ⟨lexeme, rest, rfl, hlexeme⟩ | ⟨_, _, hmark⟩ | ⟨_, hc⟩
      · obtain ⟨found, hread, rfl, -⟩ := hlexeme.read
        rw [read_gap keywords hgap hrest, read_found keywords hlexeme hread hafter,
          position_advance_text hrest, advance_advance, ← List.length_append]
        exact .lexeme hrest hgap hlexeme
      · exact meets_fault keywords hrest hgap (.mark hmark)
      · exact meets_fault keywords hrest hgap (.nothing hc)
  · exact meets_fault keywords hrest hgap (.unclosed hunclosed)

end Cursor

/-! ### What a scan returns -/

theorem gather_ok {readings : List Reading} {tokens : List Token}
    (h : readings.map Reading.outcome = tokens.map .ok) : gather readings = .ok tokens := by
  induction readings generalizing tokens with
  | nil =>
    cases tokens with
    | nil => rfl
    | cons token tokens => simp at h
  | cons reading readings ih =>
    cases tokens with
    | nil => simp at h
    | cons token tokens =>
      rw [List.map_cons, List.map_cons, List.cons_eq_cons] at h
      have hrest : readings.mapM Reading.outcome = .ok tokens := ih h.2
      rw [gather, List.mapM_cons, h.1, hrest]
      rfl

theorem gather_error {readings : List Reading} {tokens : List Token} {error : LexicalError}
    (h : readings.map Reading.outcome = tokens.map .ok ++ [.error error]) :
    gather readings = .error error := by
  induction readings generalizing tokens with
  | nil => simp at h
  | cons reading readings ih =>
    cases tokens with
    | nil =>
      rw [List.map_cons, List.map_nil, List.nil_append, List.cons_eq_cons] at h
      rw [gather, List.mapM_cons, h.1]
      rfl
    | cons token tokens =>
      rw [List.map_cons, List.map_cons, List.cons_append, List.cons_eq_cons] at h
      have hrest : readings.mapM Reading.outcome = .error error := ih h.2
      rw [gather, List.mapM_cons, h.1, hrest]
      rfl

end CurlyLex
