import CurlyLex.Gap
import CurlyLex.Lexeme
import CurlyLex.Work

/-!
# Readings

The next token is taken in two steps, first a gap is skipped and then a lexeme is taken.  The token is
noted when it has been taken.  When no token can be taken the fault is noted in its place, where it is
met, and nothing behind it is done.

An error is reported where the cursor then stands: at the end of the source for a comment that never
ends, just past the mark for a malformed exponent, and on the character itself when no lexeme starts
with it.

* `Work.skipGap`, `Work.takeLexeme`, `Work.nextToken` — the two steps, and both together.
* `Reading` — what comes of taking a token: the outcome, and where the next reading starts.
* `Cursor.read` — the reading at a cursor; `Cursor.read_eq` — what it is.
* `Work.on_nextToken` — taking a token with a journal comes to the same, and leaves one event there,
  `Reading.event`.
* `Reading.isLast` — an error or a final token, with which a scan ends.
* `Cursor.rest_read_lt` — a reading that is not the last leaves less to be read.
-/

namespace CurlyLex

/-! ### Taking a token -/

namespace Work

/-- Skip a gap.  A comment that never ends is a fault, and is met at the end of the source. -/
def skipGap : Work Unit := do
  let rest := (← cursor).rest
  match Gap.length? rest with
  | some gap => advance gap
  | none =>
    advance rest.length
    fail .unterminatedComment (← cursor).position

/-- Take the lexeme that starts where the cursor stands. -/
def takeLexeme (keywords : Keywords) : Work Token := do
  let start ← cursor
  match Lexeme.read start.rest with
  | .exhausted => return ⟨.endOfInput, none, start.position⟩
  | .found lexeme =>
    advance lexeme.text.length
    return ⟨lexeme.kind keywords, some (String.ofList lexeme.text), start.position⟩
  | .malformedExponent literal =>
    advance literal.length
    fail (.malformedExponent (String.ofList literal)) (← cursor).position
  | .unrecognized c => fail (.unrecognizedCharacter c) start.position

/-- Skip a gap, take the next token and note it. -/
def nextToken (keywords : Keywords) : Work Token := do
  skipGap
  let token ← takeLexeme keywords
  note (.token token)
  return token

end Work

/-! ### What comes of it -/

/-- The outcome of taking a token, and where the next reading starts. -/
structure Reading where
  /-- The token, or why there is none. -/
  outcome : Except LexicalError Token
  /-- Where the next reading starts. -/
  cursor : Cursor

namespace Reading

/-- What comes of work at a cursor, when nothing of it is kept in a journal. -/
def ofWork (work : Work Token) (cursor : Cursor) : Reading :=
  let (outcome, desk) := work.on ⟨cursor, .start .info⟩
  ⟨outcome, desk.cursor⟩

/-- A token was read. -/
def token (token : Token) (cursor : Cursor) : Reading :=
  ⟨.ok token, cursor⟩

/-- A fault was met; it is reported where the cursor stands. -/
def fault (fault : Fault) (cursor : Cursor) : Reading :=
  ⟨.error ⟨fault, cursor.position⟩, cursor⟩

/-- The event that a reading leaves: its token, or its error with the offset of the cursor. -/
def event (reading : Reading) : Event :=
  match reading.outcome with
  | .ok token => .token token
  | .error error => .lexicalError error reading.cursor.offset

/-- What comes of taking a token when a journal is kept: its event is noted. -/
def noted (reading : Reading) (journal : Journal) : Except LexicalError Token × Desk :=
  (reading.outcome, ⟨reading.cursor, journal.note reading.event⟩)

/-- Does a scan end with this reading? -/
def isLast (reading : Reading) : Bool :=
  match reading.outcome with
  | .ok token => token.isFinal
  | .error _ => true

end Reading

namespace Cursor

/-- Take the lexeme that starts where the cursor stands. -/
def readLexeme (keywords : Keywords) (cursor : Cursor) : Reading :=
  .ofWork (Work.takeLexeme keywords) cursor

/-- Skip a gap and take the next token. -/
def read (keywords : Keywords) (cursor : Cursor) : Reading :=
  .ofWork (Work.nextToken keywords) cursor

/-- A lexeme becomes a token, behind which the cursor then stands. -/
theorem readLexeme_eq (keywords : Keywords) (cursor : Cursor) :
    cursor.readLexeme keywords =
      match Lexeme.read cursor.rest with
      | .exhausted => .token ⟨.endOfInput, none, cursor.position⟩ cursor
      | .found lexeme =>
        .token ⟨lexeme.kind keywords, some (String.ofList lexeme.text), cursor.position⟩
          (cursor.advance lexeme.text.length)
      | .malformedExponent literal =>
        .fault (.malformedExponent (String.ofList literal)) (cursor.advance literal.length)
      | .unrecognized c => .fault (.unrecognizedCharacter c) cursor := by
  rw [readLexeme, Reading.ofWork, Work.takeLexeme, Work.on_bind, Work.on_cursor]
  dsimp only
  cases Lexeme.read cursor.rest with
  | exhausted => rfl
  | found lexeme => rfl
  | malformedExponent literal => rfl
  | unrecognized c => rfl

end Cursor

namespace Work

variable (keywords : Keywords) (cursor : Cursor) (journal : Journal)

/-- Only a fault is noted while a lexeme is taken. -/
theorem on_takeLexeme :
    (takeLexeme keywords).on ⟨cursor, journal⟩ =
      match (cursor.readLexeme keywords).outcome with
      | .ok token => (.ok token, ⟨(cursor.readLexeme keywords).cursor, journal⟩)
      | .error error => (.error error, ⟨(cursor.readLexeme keywords).cursor,
          journal.note (cursor.readLexeme keywords).event⟩) := by
  rw [Cursor.readLexeme_eq]
  simp only [takeLexeme, on_bind, on_cursor]
  cases Lexeme.read cursor.rest with
  | exhausted => rfl
  | found lexeme =>
    simp only [on_bind, on_advance]
    rfl
  | malformedExponent literal =>
    simp only [on_bind, on_advance, on_cursor, on_fail]
    rfl
  | unrecognized c =>
    rw [on_fail]
    rfl

/-- Nothing is noted while a gap is skipped, unless its last comment never ends. -/
theorem on_skipGap :
    skipGap.on ⟨cursor, journal⟩ =
      match Gap.length? cursor.rest with
      | some gap => (.ok (), ⟨cursor.advance gap, journal⟩)
      | none =>
        let later := cursor.advance cursor.rest.length
        (.error ⟨.unterminatedComment, later.position⟩, ⟨later,
          journal.note (.lexicalError ⟨.unterminatedComment, later.position⟩ later.offset)⟩) := by
  simp only [skipGap, on_bind, on_cursor]
  cases Gap.length? cursor.rest with
  | some gap => exact on_advance gap _
  | none => simp only [on_bind, on_advance, on_cursor, on_fail]

/-- The next token is that of the lexeme behind a gap, and one event is noted: the fault where it is met,
or the token at the end. -/
theorem on_nextToken_match :
    (nextToken keywords).on ⟨cursor, journal⟩ =
      match Gap.length? cursor.rest with
      | some gap => ((cursor.advance gap).readLexeme keywords).noted journal
      | none =>
        (Reading.fault .unterminatedComment (cursor.advance cursor.rest.length)).noted journal := by
  rw [nextToken, on_bind, on_skipGap]
  cases Gap.length? cursor.rest with
  | none => rfl
  | some gap =>
    dsimp only
    rw [on_bind, on_takeLexeme]
    obtain ⟨outcome, later⟩ := (cursor.advance gap).readLexeme keywords
    cases outcome with
    | ok token => rfl
    | error error => rfl

end Work

/-- A reading skips a gap and takes the lexeme behind it. -/
theorem Cursor.read_eq (keywords : Keywords) (cursor : Cursor) :
    cursor.read keywords =
      match Gap.length? cursor.rest with
      | some gap => (cursor.advance gap).readLexeme keywords
      | none => .fault .unterminatedComment (cursor.advance cursor.rest.length) := by
  rw [read, Reading.ofWork, Work.on_nextToken_match]
  cases Gap.length? cursor.rest with
  | none => rfl
  | some gap => rfl

/-- **A reading leaves one event.**  Whatever journal is kept, the next token is taken as without one, and
then its event has been noted. -/
theorem Work.on_nextToken (keywords : Keywords) (cursor : Cursor) (journal : Journal) :
    (nextToken keywords).on ⟨cursor, journal⟩ = (cursor.read keywords).noted journal := by
  rw [on_nextToken_match, Cursor.read_eq]
  cases Gap.length? cursor.rest with
  | none => rfl
  | some gap => rfl

/-! ### Progress -/

theorem Symbol.spelling_ne_nil (symbol : Symbol) : symbol.spelling ≠ [] := by
  cases symbol <;> simp [spelling]

theorem Numeral.text_ne_nil_of_read? {text : List Char} {numeral : Numeral}
    (h : read? text = some numeral) : numeral.text ≠ [] := by
  simp only [read?] at h
  split at h
  · simp at h
  · rename_i some_part
    cases h
    intro nothing
    simp only [Numeral.text, List.append_eq_nil_iff] at nothing
    rw [nothing.1.2, nothing.1.1] at some_part
    exact some_part rfl

/-- A lexeme is found only in a text that is not empty, and it is not empty itself. -/
theorem Lexeme.ne_nil_of_read_eq_found {text : List Char} {lexeme : Lexeme}
    (h : read text = .found lexeme) : text ≠ [] ∧ lexeme.text ≠ [] := by
  cases text with
  | nil => simp [read] at h
  | cons c text =>
    refine ⟨by simp, ?_⟩
    simp only [read] at h
    split at h
    · rename_i w word
      cases h
      simp only [readWord?] at word
      split at word
      · cases word
        simp [Lexeme.text]
      · simp at word
    · split at h
      · rename_i n number
        simp only [ofNumeral] at h
        split at h
        · simp at h
        · cases h
          exact Numeral.text_ne_nil_of_read? number
      · split at h
        · rename_i s _
          cases h
          exact Symbol.spelling_ne_nil s
        · simp at h

theorem Cursor.rest_readLexeme_lt (keywords : Keywords) (cursor : Cursor)
    (h : (cursor.readLexeme keywords).isLast = false) :
    (cursor.readLexeme keywords).cursor.rest.length < cursor.rest.length := by
  rw [readLexeme_eq] at h ⊢
  split at h
  · simp [Reading.token, Reading.isLast, Token.isFinal] at h
  · rename_i lexeme found
    have ⟨some_text, some_lexeme⟩ := Lexeme.ne_nil_of_read_eq_found found
    have text_pos := List.length_pos_iff.2 some_text
    have lexeme_pos := List.length_pos_iff.2 some_lexeme
    simp only [Reading.token, advance_rest, List.length_drop]
    omega
  · simp [Reading.fault, Reading.isLast] at h
  · simp [Reading.fault, Reading.isLast] at h

/-- A reading that is not the last leaves less to be read. -/
theorem Cursor.rest_read_lt (keywords : Keywords) (cursor : Cursor)
    (h : (cursor.read keywords).isLast = false) :
    (cursor.read keywords).cursor.rest.length < cursor.rest.length := by
  rw [read_eq] at h ⊢
  split at h
  · have shorter := rest_readLexeme_lt keywords _ h
    simp only [advance_rest, List.length_drop] at shorter
    omega
  · simp [Reading.fault, Reading.isLast] at h

end CurlyLex
