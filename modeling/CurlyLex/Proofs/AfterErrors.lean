import CurlyLex.Proofs.Counting
import CurlyLex.Proofs.ReadingSequence

/-!
# What comes after errors

A scanner may be asked for more after an error.  Each fault leaves the cursor somewhere else: before
the character with which nothing begins, where the same error is met again; at the end of the source,
which an open comment reaches; or behind an exponent mark, where reading goes on.  A reading that does
not leave less to be read finds its cursor at rest, so a sequence of readings comes to rest after as
many of them as there are characters.

* `Final`, `Cursor.Rests` — outcomes that repeat themselves, and cursors that do not move any more.
* `Cursor.rest_read_lt_or_rests` — what a reading does to what is left.
* `Cursor.read_unrecognized`, `Cursor.read_unterminated`, `Cursor.read_malformed` — where the three
  faults leave the cursor.
* `Bench.Stays`, `Bench.stays_of_rests` — whatever is done, a cursor at rest stays.
* `Scanner.exists_nthRead_eq` — sequences of readings come to rest.
* `Cursor.Weighs` — the bytes before and behind a cursor.
* `Bench.cursor_run_keeps` — what a cursor keeps when it moves forward holds whatever is done.
* `Bench.GoesOn`, `Bench.goesOn_run` — what becomes of a scanner after an error.
-/

namespace CurlyLex

/-! ### Cursors at rest -/

/-- The outcomes that repeat themselves: the end of the input, without a text, and a character with
which nothing begins. -/
inductive Final (position : Position) : Except LexicalError Token → Prop
  | finish : Final position (.ok ⟨.endOfInput, none, position⟩)
  | nothing {c : Char} : Final position (.error ⟨.unrecognizedCharacter c, position⟩)

/-- A cursor is at rest when a reading leaves it where it is, with an outcome that repeats itself. -/
structure Cursor.Rests (keywords : Keywords) (cursor : Cursor)
    (outcome : Except LexicalError Token) : Prop where
  read : cursor.read keywords = ⟨outcome, cursor⟩
  final : Final cursor.position outcome

namespace Cursor

variable {keywords : Keywords} {cursor : Cursor}

theorem rests_end (h : cursor.rest = []) :
    cursor.Rests keywords (.ok ⟨.endOfInput, none, cursor.position⟩) :=
  ⟨read_end keywords h, .finish⟩

theorem rests_nothing {c : Char} (h : StartsNothing c cursor.rest) :
    cursor.Rests keywords (.error ⟨.unrecognizedCharacter c, cursor.position⟩) :=
  ⟨read_faults keywords (.nothing h), .nothing⟩

theorem rest_advance_lt {front rest : List Char} (h : cursor.rest = front ++ rest)
    (hfront : front ≠ []) : (cursor.advance front.length).rest.length < cursor.rest.length := by
  have hlength := List.length_pos_iff.2 hfront
  rw [advance_text h, h, List.length_append]
  omega

end Cursor

/-- A fault that is met without going over anything is a character with which nothing begins. -/
theorem Faults.exists_nothing {text passed : List Char} {fault : Fault}
    (h : Faults text passed fault) (hpassed : passed = []) : ∃ c, StartsNothing c text := by
  cases h with
  | unclosed h =>
    obtain ⟨body, rfl, -⟩ := h
    simp at hpassed
  | mark h => simp at hpassed
  | nothing h => exact ⟨_, h⟩

namespace Cursor

variable (keywords : Keywords) (cursor : Cursor)

/-- **A reading leaves less to be read, or its cursor is at rest.** -/
theorem rest_read_lt_or_rests :
    (cursor.read keywords).cursor.rest.length < cursor.rest.length ∨
      ∃ outcome, cursor.Rests keywords outcome := by
  have hmeets := cursor.meets_read keywords
  generalize cursor.read keywords = reading at hmeets
  cases hmeets with
  | finish hgap =>
    by_cases hnil : cursor.rest = []
    · exact .inr ⟨_, rests_end hnil⟩
    · exact .inl (rest_advance_lt (List.append_nil _).symm hnil)
  | @lexeme gap rest found hrest hgap hlexeme =>
    rw [← List.append_assoc] at hrest
    have hsome : gap ++ found.text ≠ [] :=
      List.append_ne_nil_of_right_ne_nil gap hlexeme.longest.holds.ne_nil
    exact .inl (rest_advance_lt hrest hsome)
  | @fault gap rest passed fault hrest hgap hfaults =>
    by_cases hnil : gap ++ passed = []
    · obtain ⟨rfl, hpassed⟩ := List.append_eq_nil_iff.1 hnil
      obtain ⟨c, hc⟩ := hfaults.exists_nothing hpassed
      rw [List.nil_append] at hrest
      exact .inr ⟨_, rests_nothing (hrest ▸ hc)⟩
    · obtain ⟨tail, rfl⟩ := hfaults.passed_isPrefix
      rw [← List.append_assoc] at hrest
      exact .inl (rest_advance_lt hrest hnil)

/-! ### Where faults leave the cursor -/

variable {keywords : Keywords} {cursor : Cursor} {position : Position}

/-- An error of a reading is a fault behind a gap. -/
theorem exists_faults {error : LexicalError}
    (h : (cursor.read keywords).outcome = .error error) :
    ∃ gap rest passed, cursor.rest = gap ++ rest ∧ IsGap gap rest ∧
      Faults rest passed error.fault ∧
      (cursor.read keywords).cursor = cursor.advance (gap ++ passed).length ∧
      (cursor.read keywords).cursor.position = error.position := by
  have hmeets := cursor.meets_read keywords
  generalize cursor.read keywords = reading at hmeets h
  cases hmeets with
  | finish hgap => cases h
  | lexeme hrest hgap hlexeme => cases h
  | fault hrest hgap hfaults =>
    cases h
    exact ⟨_, _, _, hrest, hgap, hfaults, rfl, rfl⟩

/-- **Before a character with which nothing begins the cursor is at rest**, with the same error. -/
theorem read_unrecognized {c : Char}
    (h : (cursor.read keywords).outcome = .error ⟨.unrecognizedCharacter c, position⟩) :
    (cursor.read keywords).cursor.Rests keywords
      (.error ⟨.unrecognizedCharacter c, position⟩) := by
  obtain ⟨gap, rest, passed, hrest, -, hfaults, hcursor, rfl⟩ := exists_faults h
  cases hfaults with
  | nothing hnothing =>
    rw [List.append_nil] at hcursor
    apply rests_nothing
    rw [hcursor, advance_text hrest]
    exact hnothing

/-- **An open comment leaves nothing to be read.** -/
theorem read_unterminated
    (h : (cursor.read keywords).outcome = .error ⟨.unterminatedComment, position⟩) :
    (cursor.read keywords).cursor.rest = [] ∧
      (cursor.read keywords).cursor.Rests keywords (.ok ⟨.endOfInput, none, position⟩) := by
  obtain ⟨gap, rest, passed, hrest, -, hfaults, hcursor, rfl⟩ := exists_faults h
  cases hfaults with
  | unclosed _ =>
    have hnil : (cursor.read keywords).cursor.rest = [] := by
      rw [hcursor, ← hrest, advance_rest, List.drop_length]
    exact ⟨hnil, rests_end hnil⟩

/-- From a cursor a gap and a number with an exponent mark are gone over, and the later cursor stands
just behind the mark. -/
inductive PassesMark (cursor : Cursor) : String → Cursor → Prop
  | intro {gap number rest : List Char} {mark : Char} :
      cursor.rest = gap ++ (number ++ mark :: rest) →
      IsGap gap (number ++ mark :: rest) →
      RunsIntoMark number mark (number ++ mark :: rest) →
      PassesMark cursor (String.ofList (number ++ [mark]))
        ⟨rest, cursor.offset + byteLength (gap ++ (number ++ [mark])),
          cursor.position.after (gap ++ (number ++ [mark]))⟩

theorem PassesMark.offset_lt {later : Cursor} {literal : String}
    (h : cursor.PassesMark literal later) : cursor.offset < later.offset := by
  cases h with
  | @intro gap number rest mark hrest hgap hmark =>
    have hsize := mark.utf8Size_pos
    simp only [byteLength_append, byteLength_cons, byteLength_nil]
    omega

/-- **Behind an exponent mark reading goes on.** -/
theorem read_malformed {literal : String}
    (h : (cursor.read keywords).outcome = .error ⟨.malformedExponent literal, position⟩) :
    cursor.PassesMark literal (cursor.read keywords).cursor ∧
      (cursor.read keywords).cursor.position = position := by
  obtain ⟨gap, rest, passed, hrest, hgap, hfaults, hcursor, hposition⟩ := exists_faults h
  refine ⟨?_, hposition⟩
  cases hfaults with
  | @mark number mark hmark =>
    obtain ⟨tail, rfl, -⟩ := hmark.no_power
    have hfront : cursor.rest = (gap ++ (number ++ [mark])) ++ tail := by simp [hrest]
    have hplace : cursor.advance (gap ++ (number ++ [mark])).length =
        ⟨tail, cursor.offset + byteLength (gap ++ (number ++ [mark])),
          cursor.position.after (gap ++ (number ++ [mark]))⟩ := by
      rw [advance, hfront, List.drop_left, List.take_left]
    rw [hcursor, hplace]
    exact .intro hrest hgap hmark

end Cursor

/-! ### Staying at rest -/

/-- Readings in a row do not move a cursor at rest. -/
theorem Cursor.Consecutive.past_eq {keywords : Keywords} {cursor : Cursor} {readings : List Reading}
    {outcome : Except LexicalError Token} (h : cursor.Consecutive keywords readings)
    (hrests : cursor.Rests keywords outcome) : cursor.past readings = cursor := by
  induction h with
  | nil => rfl
  | @cons cursor readings _ _ ih =>
    have hsame : (cursor.read keywords).cursor = cursor := by rw [hrests.read]
    rw [hsame] at ih
    show (cursor.read keywords).cursor.past readings = cursor
    rw [hsame]
    exact ih hrests

/-- A scan from a cursor at rest returns the outcome that repeats itself, and nothing else. -/
theorem Cursor.Rests.gather_readings {keywords : Keywords} {cursor : Cursor}
    {outcome : Except LexicalError Token} (h : cursor.Rests keywords outcome) :
    gather (cursor.readings keywords) = outcome.map fun token => [token] := by
  have hlast : (cursor.read keywords).isLast = true := by
    rw [h.read]
    cases h.final with
    | finish => rfl
    | nothing => rfl
  rw [readings_eq, hlast, h.read]
  cases outcome with
  | ok token => rfl
  | error error => rfl

namespace Bench

/-- Whatever is done but going back to a copy, the cursor stays where it is, and every reading and
every scan has the same outcome. -/
structure Stays (bench : Bench) (outcome : Except LexicalError Token) : Prop where
  cursor : ∀ moves, (∀ index, .restore index ∉ moves) →
    (bench.run moves).scanner.cursor = bench.scanner.cursor
  read : ∀ moves, (∀ index, .restore index ∉ moves) →
    (bench.run moves).scanner.read.1.outcome = outcome
  scan : ∀ moves, (∀ index, .restore index ∉ moves) →
    (bench.run moves).scanner.scanned.1 = outcome.map fun token => [token]

/-- **Whatever is done, a cursor at rest stays.** -/
theorem stays_of_rests {bench : Bench} {outcome : Except LexicalError Token}
    (h : bench.scanner.cursor.Rests bench.scanner.keywords outcome) : bench.Stays outcome := by
  have hkept : ∀ moves, (∀ index, .restore index ∉ moves) →
      (bench.run moves).scanner.cursor = bench.scanner.cursor ∧
        (bench.run moves).scanner.keywords = bench.scanner.keywords := by
    intro moves hforth
    apply run_forth_keeps (fun scanner => scanner.cursor = bench.scanner.cursor ∧
      scanner.keywords = bench.scanner.keywords) bench _ ⟨rfl, rfl⟩ hforth
    intro scanner later readings hproceeds hsame
    obtain ⟨hcursor, hkeywords⟩ := hsame
    rw [← hcursor, ← hkeywords] at h
    refine ⟨?_, hproceeds.keywords.trans hkeywords⟩
    rw [hproceeds.cursor, hproceeds.consecutive.past_eq h, hcursor]
  refine ⟨fun moves hforth => (hkept moves hforth).1, ?_, ?_⟩
  · intro moves hforth
    obtain ⟨hcursor, hkeywords⟩ := hkept moves hforth
    show ((bench.run moves).scanner.cursor.read (bench.run moves).scanner.keywords).outcome = outcome
    rw [hcursor, hkeywords, h.read]
  · intro moves hforth
    obtain ⟨hcursor, hkeywords⟩ := hkept moves hforth
    rw [Scanner.scanned_eq, Scanner.scan, hcursor, hkeywords, h.gather_readings]

end Bench

/-! ### Sequences of readings -/

namespace Scanner

variable (scanner : Scanner)

/-- Readings that come before rest use up what is to be read. -/
theorem rest_afterReads_add_le_or_rests (n : Nat) :
    (scanner.afterReads n).cursor.rest.length + n ≤ scanner.cursor.rest.length ∨
      ∃ outcome, (scanner.afterReads n).cursor.Rests scanner.keywords outcome := by
  induction n with
  | zero => exact .inl le_rfl
  | succ n ih =>
    have hsucc : (scanner.afterReads (n + 1)).cursor =
        ((scanner.afterReads n).cursor.read scanner.keywords).cursor := by
      rw [cursor_afterReads_succ, nthRead_eq_read]
    have hrests : ∀ outcome, (scanner.afterReads n).cursor.Rests scanner.keywords outcome →
        (scanner.afterReads (n + 1)).cursor.Rests scanner.keywords outcome := by
      intro outcome h
      rw [hsucc, h.read]
      exact h
    rcases ih with hless | ⟨outcome, h⟩
    · have hread := (scanner.afterReads n).cursor.rest_read_lt_or_rests scanner.keywords
      rcases hread with hread | ⟨outcome, h⟩
      · rw [hsucc]
        exact .inl (by omega)
      · exact .inr ⟨outcome, hrests outcome h⟩
    · exact .inr ⟨outcome, hrests outcome h⟩

/-- After as many readings as there are characters to be read, the cursor is at rest. -/
theorem exists_rests {n : Nat} (h : scanner.cursor.rest.length ≤ n) :
    ∃ outcome, (scanner.afterReads n).cursor.Rests scanner.keywords outcome := by
  rcases scanner.rest_afterReads_add_le_or_rests n with hless | hrests
  · have hnil : (scanner.afterReads n).cursor.rest = [] :=
      List.length_eq_zero_iff.1 (by omega)
    exact ⟨_, Cursor.rests_end hnil⟩
  · exact hrests

/-- **A sequence of readings comes to rest** after as many of them as there are characters. -/
theorem exists_nthRead_eq :
    ∃ reading, Final reading.cursor.position reading.outcome ∧
      ∀ n, scanner.cursor.rest.length ≤ n → scanner.nthRead n = reading := by
  obtain ⟨outcome, h⟩ := scanner.exists_rests le_rfl
  have hcursor : ∀ n, scanner.cursor.rest.length ≤ n → (scanner.afterReads n).cursor =
      (scanner.afterReads scanner.cursor.rest.length).cursor := by
    intro n hn
    induction n, hn using Nat.le_induction with
    | base => rfl
    | succ n hn ih => rw [cursor_afterReads_succ, nthRead_eq_read, ih, h.read]
  refine ⟨⟨outcome, _⟩, h.final, ?_⟩
  intro n hn
  rw [nthRead_eq_read, hcursor n hn, h.read]

end Scanner

/-! ### After an error -/

/-- The bytes behind a cursor and those before it are the bytes of the source. -/
def Cursor.Weighs (source : String) (cursor : Cursor) : Prop :=
  cursor.offset + byteLength cursor.rest = source.utf8ByteSize

theorem Cursor.Weighs.advance {source : String} {cursor : Cursor} (h : cursor.Weighs source)
    (n : Nat) : (cursor.advance n).Weighs source := by
  have hsplit := congrArg byteLength (List.take_append_drop n cursor.rest)
  rw [byteLength_append] at hsplit
  rw [Weighs] at h ⊢
  rw [advance_offset, advance_rest, Nat.add_assoc, hsplit, h]

/-- A cursor with nothing left is behind all bytes of the source. -/
theorem Cursor.Weighs.atEnd {source : String} {cursor : Cursor} (h : cursor.Weighs source)
    (hnil : cursor.rest = []) : cursor.atEnd = true ∧ cursor.offset = source.utf8ByteSize := by
  rw [Weighs, hnil, byteLength_nil, Nat.add_zero] at h
  exact ⟨List.isEmpty_iff.2 hnil, h⟩

/-- A reading only moves the cursor forward. -/
theorem Cursor.exists_advance (keywords : Keywords) (cursor : Cursor) :
    ∃ n, (cursor.read keywords).cursor = cursor.advance n := by
  have hmeets := cursor.meets_read keywords
  generalize cursor.read keywords = reading at hmeets
  cases hmeets with
  | finish _ => exact ⟨_, rfl⟩
  | lexeme _ _ _ => exact ⟨_, rfl⟩
  | fault _ _ _ => exact ⟨_, rfl⟩

/-- **What a cursor keeps when it moves forward, readings keep.** -/
theorem Cursor.Consecutive.keeps {property : Cursor → Prop} {keywords : Keywords} {cursor : Cursor}
    {readings : List Reading} (h : cursor.Consecutive keywords readings)
    (hadvance : ∀ cursor n, property cursor → property (Cursor.advance cursor n))
    (hcursor : property cursor) : property (cursor.past readings) := by
  induction h with
  | nil => exact hcursor
  | @cons cursor readings _ _ ih =>
    obtain ⟨n, hn⟩ := cursor.exists_advance keywords
    exact ih (hn ▸ hadvance cursor n hcursor)

namespace Bench

/-- What a cursor keeps when it moves forward holds of every cursor that there is, whatever is done. -/
theorem cursor_run_keeps (property : Cursor → Prop) (source : String) (keywords : Keywords)
    (hadvance : ∀ cursor n, property cursor → property (Cursor.advance cursor n))
    (hstart : property (.ofText source.toList)) (moves : List Move) :
    property ((ofSource source keywords).run moves).scanner.cursor := by
  have hkept := run_keeps (fun scanner => property scanner.cursor) (ofSource source keywords)
    (fun _ _ _ hproceeds h => hproceeds.cursor ▸ hproceeds.consecutive.keeps hadvance h) hstart
    (by simp [ofSource]) moves
  exact hkept.1

/-- No byte gets lost, whatever is done. -/
theorem weighs_run (source : String) (keywords : Keywords) (moves : List Move) :
    ((ofSource source keywords).run moves).scanner.cursor.Weighs source := by
  have hstart : (Cursor.ofText source.toList).Weighs source := by
    have hsize := utf8ByteSize_ofList source.toList
    rw [String.ofList_toList] at hsize
    rw [Cursor.Weighs, hsize]
    exact Nat.zero_add _
  exact cursor_run_keeps _ source keywords (fun _ n h => h.advance n) hstart moves

/-- What becomes of a bench when a single reading has met an error.  At a character with which
nothing begins the same error stays.  After an open comment the source is at its end, and the end of
the input stays, at the position of the error.  After a malformed exponent reading goes on just behind
the mark, where the error is reported. -/
def GoesOn (source : String) (bench : Bench) : LexicalError → Prop
  | ⟨.unrecognizedCharacter c, position⟩ =>
    (bench.move .read).2.Stays (.error ⟨.unrecognizedCharacter c, position⟩)
  | ⟨.unterminatedComment, position⟩ =>
    (bench.move .read).2.scanner.cursor.atEnd = true ∧
      (bench.move .read).2.scanner.cursor.offset = source.utf8ByteSize ∧
      (bench.move .read).2.Stays (.ok ⟨.endOfInput, none, position⟩)
  | ⟨.malformedExponent literal, position⟩ =>
    bench.scanner.cursor.PassesMark literal (bench.move .read).2.scanner.cursor ∧
      bench.scanner.cursor.offset < (bench.move .read).2.scanner.cursor.offset ∧
      (bench.move .read).2.scanner.cursor.position = position ∧
      (bench.move .read).2.scanner.scanned.1 =
        gather ((bench.move .read).2.scanner.cursor.readings bench.scanner.keywords)

/-- An error of a single reading, wherever the cursor stands. -/
theorem goesOn_of_weighs {source : String} {bench : Bench}
    (hweighs : bench.scanner.cursor.Weighs source) {error : LexicalError}
    (h : bench.scanner.read.1.outcome = .error error) : bench.GoesOn source error := by
  obtain ⟨fault, position⟩ := error
  cases fault with
  | unrecognizedCharacter c => exact stays_of_rests (Cursor.read_unrecognized h)
  | unterminatedComment =>
    obtain ⟨hnil, hrests⟩ := Cursor.read_unterminated h
    obtain ⟨n, hn⟩ := bench.scanner.cursor.exists_advance bench.scanner.keywords
    have hlater := hweighs.advance n
    rw [← hn] at hlater
    obtain ⟨hend, hoffset⟩ := hlater.atEnd hnil
    exact ⟨hend, hoffset, stays_of_rests hrests⟩
  | malformedExponent literal =>
    obtain ⟨hpasses, hposition⟩ := Cursor.read_malformed h
    refine ⟨hpasses, hpasses.offset_lt, hposition, ?_⟩
    rw [Scanner.scanned_eq]
    rfl

/-- **What a scanner does after an error, and where it comes to rest.**  In every state that moves
lead to, the fault tells how reading goes on after it.  The readings of a fresh scanner are all the
same once as many have been taken as the source has characters: the end of the input, or a character
with which nothing begins. -/
theorem goesOn_run (source : String) (keywords : Keywords) (moves : List Move) :
    (∀ error, ((ofSource source keywords).run moves).scanner.read.1.outcome = .error error →
        ((ofSource source keywords).run moves).GoesOn source error) ∧
      ∃ reading, Final reading.cursor.position reading.outcome ∧
        ∀ n, source.length ≤ n → (Scanner.ofSource source keywords).nthRead n = reading := by
  refine ⟨fun error h => goesOn_of_weighs (weighs_run source keywords moves) h, ?_⟩
  obtain ⟨reading, hfinal, hsame⟩ := (Scanner.ofSource source keywords).exists_nthRead_eq
  refine ⟨reading, hfinal, ?_⟩
  intro n hn
  apply hsame n
  show source.toList.length ≤ n
  rw [String.length_toList]
  exact hn

/-- A malformed exponent and then a comment that is not closed; and a character with which nothing
begins, behind a word. -/
theorem goesOn_run_comment :
    ((ofSource "1e /*" .reserved).run []).GoesOn "1e /*" ⟨.malformedExponent "1e", ⟨1, 3⟩⟩ ∧
      ((ofSource "1e /*" .reserved).run [.read]).GoesOn "1e /*" ⟨.unterminatedComment, ⟨1, 6⟩⟩ ∧
      ((ofSource "a @" .reserved).run [.read]).GoesOn "a @" ⟨.unrecognizedCharacter '@', ⟨1, 3⟩⟩ :=
  ⟨(goesOn_run "1e /*" .reserved []).1 _ (by decide +kernel),
    (goesOn_run "1e /*" .reserved [.read]).1 _ (by decide +kernel),
    (goesOn_run "a @" .reserved [.read]).1 _ (by decide +kernel)⟩

end Bench

end CurlyLex
