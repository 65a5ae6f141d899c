import CurlyLex.Proofs.Bench
import CurlyLex.Proofs.Counting
import CurlyLex.Proofs.CursorReading

/-!
# Cursors know where they stand

A cursor counts what lies behind it twice, in bytes and by line and column.  However a scanner is
used, both counts agree with one and the same part of the source, which ends between two characters.
Tokens are reported where their text begins, and errors where the cursor is left.

* `Cursor.StandsAfter` — a cursor stands behind a part of the source, and both counts are right.
* `Cursor.StandsAfter.advance` — moving keeps them right.
* `Reading.Placed` — a reading reports its token or error where it should.
* `Cursor.StandsAfter.read`, `Cursor.Consecutive.placed` — one reading does, and so do readings in a
  row.
* `Bench.Sound`, `Bench.MoveSound` — what holds of the state between moves, and of a move.
* `Bench.sound_run` — both hold after any moves from a fresh scanner.
* `Session.sound_of_run` — so the scanners of a session know where they stand.
-/

namespace CurlyLex

/-! ### Where a cursor stands -/

/-- A cursor stands behind the part `passed` of `source`.  Its offset is the byte length of this part
and a boundary between characters, its position counts this part, and no counter wraps on the
way. -/
structure Cursor.StandsAfter (cursor : Cursor) (source passed : String) : Prop where
  source_eq : source = passed ++ String.ofList cursor.rest
  offset : cursor.offset = passed.utf8ByteSize
  boundary : (⟨cursor.offset⟩ : String.Pos.Raw).IsValid source
  position : cursor.position = Position.start.after passed.toList
  marks : cursor.position.Marks passed.toList
  counts : ∀ front c, front ++ [c] <+: passed.toList → (Position.start.after front).Counts c

namespace Cursor.StandsAfter

variable {cursor : Cursor} {source passed : String}

/-- In a source that is not too long the position follows from the steps to it. -/
theorem intro (hshort : source.length < 2 ^ 32 - 1)
    (hsource : source = passed ++ String.ofList cursor.rest)
    (hoffset : cursor.offset = passed.utf8ByteSize)
    (hposition : cursor.position = Position.start.after passed.toList) :
    cursor.StandsAfter source passed := by
  have hpassed : passed.toList.length < 2 ^ 32 - 1 := by
    rw [hsource, String.length_append] at hshort
    rw [String.length_toList]
    omega
  refine ⟨hsource, hoffset, ?_, hposition, ?_, ?_⟩
  · rw [hoffset, hsource]
    exact String.Pos.Raw.isValid_rawEndPos.append_right _
  · rw [hposition]
    exact Position.marks_after hpassed
  · intro front c hfront
    exact Position.counts_after hpassed hfront

/-- A fresh cursor stands before its source. -/
theorem start (hshort : source.length < 2 ^ 32 - 1) :
    (Cursor.ofText source.toList).StandsAfter source "" := by
  apply intro hshort
  · show source = "" ++ String.ofList source.toList
    rw [String.empty_append, String.ofList_toList]
  · rfl
  · rfl

/-- **A cursor that moves over a text stands behind this text as well.** -/
theorem advance (h : cursor.StandsAfter source passed) (hshort : source.length < 2 ^ 32 - 1)
    {front rest : List Char} (hrest : cursor.rest = front ++ rest) :
    (cursor.advance front.length).StandsAfter source (passed ++ String.ofList front) := by
  apply intro hshort
  · rw [advance_text hrest, h.source_eq, hrest, String.ofList_append, String.append_assoc]
  · rw [advance_offset, hrest, List.take_left, h.offset, String.utf8ByteSize_append,
      utf8ByteSize_ofList]
  · rw [position_advance_text hrest, h.position, String.toList_append, String.toList_ofList,
      Position.after_append]

end Cursor.StandsAfter

/-! ### Where a reading reports -/

/-- The position of a token counts what comes before its text, and the cursor is left behind the
text; the mark of the end comes behind the whole source.  An error is reported where the cursor is
left. -/
structure Reading.Placed (reading : Reading) (source : String) : Prop where
  stands : ∃ passed, reading.cursor.StandsAfter source passed
  valued : ∀ kind text position, reading.outcome = .ok ⟨kind, some text, position⟩ →
    ∃ before, position.Marks before.toList ∧ reading.cursor.StandsAfter source (before ++ text)
  finish : ∀ kind position, reading.outcome = .ok ⟨kind, none, position⟩ →
    position.Marks source.toList ∧ reading.cursor.StandsAfter source source
  error : ∀ error, reading.outcome = .error error → error.position = reading.cursor.position

theorem Reading.placed_valued {source before text : String} {cursor : Cursor} {position : Position}
    (kind : Kind) (hmarks : position.Marks before.toList)
    (h : cursor.StandsAfter source (before ++ text)) :
    (Reading.token ⟨kind, some text, position⟩ cursor).Placed source := by
  refine ⟨⟨_, h⟩, ?_, ?_, ?_⟩
  · intro kind text position houtcome
    cases houtcome
    exact ⟨before, hmarks, h⟩
  · intro kind position houtcome
    simp [Reading.token] at houtcome
  · intro error houtcome
    simp [Reading.token] at houtcome

theorem Reading.placed_finish {source : String} {cursor : Cursor} {position : Position}
    (kind : Kind) (hmarks : position.Marks source.toList) (h : cursor.StandsAfter source source) :
    (Reading.token ⟨kind, none, position⟩ cursor).Placed source := by
  refine ⟨⟨_, h⟩, ?_, ?_, ?_⟩
  · intro kind text position houtcome
    simp [Reading.token] at houtcome
  · intro kind position houtcome
    cases houtcome
    exact ⟨hmarks, h⟩
  · intro error houtcome
    simp [Reading.token] at houtcome

theorem Reading.placed_fault {source passed : String} {cursor : Cursor} (fault : Fault)
    (h : cursor.StandsAfter source passed) : (Reading.fault fault cursor).Placed source := by
  refine ⟨⟨passed, h⟩, ?_, ?_, ?_⟩
  · intro kind text position houtcome
    simp [Reading.fault] at houtcome
  · intro kind position houtcome
    simp [Reading.fault] at houtcome
  · intro error houtcome
    cases houtcome
    rfl

/-- **A reading reports where it should**, when the cursor knows where it stands. -/
theorem Cursor.StandsAfter.read (keywords : Keywords) {cursor : Cursor} {source passed : String}
    (h : cursor.StandsAfter source passed) (hshort : source.length < 2 ^ 32 - 1) :
    (cursor.read keywords).Placed source := by
  have hmeets := cursor.meets_read keywords
  generalize cursor.read keywords = reading at hmeets ⊢
  cases hmeets with
  | finish hgap =>
    have hfront : cursor.rest = cursor.rest ++ [] := (List.append_nil _).symm
    have hstands := h.advance hshort hfront
    rw [← h.source_eq] at hstands
    apply Reading.placed_finish _ ?_ hstands
    rw [← position_advance_text hfront]
    exact hstands.marks
  | @lexeme gap rest found hrest hgap hlexeme =>
    have hbefore := h.advance hshort hrest
    have hfront : cursor.rest = (gap ++ found.text) ++ rest := by
      rw [hrest, List.append_assoc]
    have hstands := h.advance hshort hfront
    rw [String.ofList_append, ← String.append_assoc] at hstands
    apply Reading.placed_valued _ ?_ hstands
    rw [← position_advance_text hrest]
    exact hbefore.marks
  | @fault gap rest passed fault hrest hgap hfaults =>
    obtain ⟨left, rfl⟩ := hfaults.passed_isPrefix
    have hfront : cursor.rest = (gap ++ passed) ++ left := by
      rw [hrest, List.append_assoc]
    exact Reading.placed_fault fault (h.advance hshort hfront)

/-- A reading moves the cursor forward. -/
theorem Cursor.offset_le_read (keywords : Keywords) (cursor : Cursor) :
    cursor.offset ≤ (cursor.read keywords).cursor.offset := by
  have hmeets := cursor.meets_read keywords
  generalize cursor.read keywords = reading at hmeets ⊢
  cases hmeets with
  | finish _ => exact Nat.le_add_right _ _
  | lexeme _ _ _ => exact Nat.le_add_right _ _
  | fault _ _ _ => exact Nat.le_add_right _ _

/-! ### Readings in a row -/

/-- Consecutive readings report where they should, and leave a cursor that knows where it stands. -/
theorem Cursor.Consecutive.placed {keywords : Keywords} {cursor : Cursor} {source : String}
    {readings : List Reading} (h : cursor.Consecutive keywords readings)
    (hstands : ∃ passed, cursor.StandsAfter source passed) (hshort : source.length < 2 ^ 32 - 1) :
    (∀ reading ∈ readings, reading.Placed source) ∧
      ∃ passed, (cursor.past readings).StandsAfter source passed := by
  induction h with
  | nil => exact ⟨by simp, hstands⟩
  | @cons cursor readings _ _ ih =>
    obtain ⟨passed, hstands⟩ := hstands
    have hplaced := hstands.read keywords hshort
    obtain ⟨hreadings, hpast⟩ := ih hplaced.stands
    refine ⟨?_, hpast⟩
    intro reading hmem
    rcases List.mem_cons.1 hmem with rfl | hmem
    · exact hplaced
    · exact hreadings reading hmem

/-- Consecutive readings move the cursor forward. -/
theorem Cursor.Consecutive.offset_le {keywords : Keywords} {cursor : Cursor}
    {readings : List Reading} (h : cursor.Consecutive keywords readings) :
    cursor.offset ≤ (cursor.past readings).offset := by
  induction h with
  | nil => exact Nat.le_refl _
  | @cons cursor readings _ _ ih => exact Nat.le_trans (cursor.offset_le_read keywords) ih

/-- The error of some readings is that of the first, or that of the others. -/
theorem gather_cons_error {reading : Reading} {readings : List Reading} {error : LexicalError}
    (h : gather (reading :: readings) = .error error) :
    reading.outcome = .error error ∨
      (∃ token, reading.outcome = .ok token) ∧ gather readings = .error error := by
  rw [gather_cons] at h
  cases houtcome : reading.outcome with
  | error fault =>
    rw [houtcome] at h
    obtain rfl := Except.error.inj h
    exact .inl rfl
  | ok token =>
    refine .inr ⟨⟨token, rfl⟩, ?_⟩
    rw [houtcome] at h
    cases hrest : gather readings with
    | error fault =>
      rw [hrest] at h
      exact h
    | ok tokens =>
      rw [hrest] at h
      simp [Except.map] at h

/-- The error of consecutive readings is reported where they leave the cursor, because the reading
that meets it is the last. -/
theorem Cursor.Consecutive.error_position {keywords : Keywords} {cursor : Cursor} {source : String}
    {readings : List Reading} {error : LexicalError} (h : cursor.Consecutive keywords readings)
    (hplaced : ∀ reading ∈ readings, reading.Placed source)
    (herror : gather readings = .error error) :
    error.position = (cursor.past readings).position := by
  induction h with
  | nil => simp [gather, pure, Except.pure] at herror
  | @cons cursor readings hlast _ ih =>
    rcases gather_cons_error herror with hfirst | ⟨-, hothers⟩
    · have hnil : readings = [] := by
        apply hlast
        rw [Reading.isLast, hfirst]
      subst hnil
      exact (hplaced _ List.mem_cons_self).error error hfirst
    · exact ih (fun reading hmem => hplaced reading (List.mem_cons_of_mem _ hmem)) hothers

/-! ### Whatever is done with a scanner -/

/-- A scanner reads `source`, and its cursor knows where it stands. -/
structure Scanner.Sound (scanner : Scanner) (source : String) : Prop where
  source_eq : scanner.source = source
  stands : ∃ passed, scanner.cursor.StandsAfter source passed

theorem Scanner.Proceeds.sound {scanner later : Scanner} {readings : List Reading} {source : String}
    (h : scanner.Proceeds readings later) (hsound : scanner.Sound source)
    (hshort : source.length < 2 ^ 32 - 1) : later.Sound source := by
  have hplaced := h.consecutive.placed hsound.stands hshort
  refine ⟨h.source.trans hsound.source_eq, ?_⟩
  rw [h.cursor]
  exact hplaced.2

namespace Bench

/-- The scanner in use and every copy know where they stand. -/
structure Sound (bench : Bench) (source : String) : Prop where
  scanner : bench.scanner.Sound source
  copies : ∀ copy ∈ bench.copies, copy.Sound source

/-- What a move takes is reported where it should be, and an error is reported where the scanner is
left.  Unless the move goes back to a copy, the scanner is left where its last reading leaves the
cursor, and never further back than before. -/
structure MoveSound (bench : Bench) (source : String) (move : Move) : Prop where
  placed : ∀ reading ∈ (bench.move move).1, reading.Placed source
  error : ∀ error, gather (bench.move move).1 = .error error →
    error.position = (bench.move move).2.scanner.cursor.position
  cursor : (∀ index, move ≠ .restore index) →
    (bench.move move).2.scanner.cursor = bench.scanner.cursor.past (bench.move move).1
  offset : (∀ index, move ≠ .restore index) →
    bench.scanner.cursor.offset ≤ (bench.move move).2.scanner.cursor.offset

variable {bench : Bench} {source : String}

/-- A move from a state in which every scanner knows where it stands reports where it should. -/
theorem Sound.moveSound (h : bench.Sound source) (hshort : source.length < 2 ^ 32 - 1)
    (move : Move) : bench.MoveSound source move := by
  by_cases hback : ∃ index, move = .restore index
  · obtain ⟨index, rfl⟩ := hback
    have hnone := (bench.move_restore index).1
    refine ⟨?_, ?_, fun hforth => absurd rfl (hforth index), fun hforth => absurd rfl (hforth index)⟩
    · rw [hnone]
      simp
    · rw [hnone]
      intro error herror
      simp [gather, pure, Except.pure] at herror
  · have hforth : ∀ index, move ≠ .restore index := fun index hmove => hback ⟨index, hmove⟩
    have hproceeds := bench.proceeds_move hforth
    have hplaced := (hproceeds.consecutive.placed h.scanner.stands hshort).1
    refine ⟨hplaced, ?_, fun _ => hproceeds.cursor, ?_⟩
    · intro error herror
      rw [hproceeds.cursor]
      exact hproceeds.consecutive.error_position hplaced herror
    · intro _
      rw [hproceeds.cursor]
      exact hproceeds.consecutive.offset_le

/-- A fresh scanner stands before its source. -/
theorem sound_ofSource (keywords : Keywords) (hshort : source.length < 2 ^ 32 - 1) :
    (Bench.ofSource source keywords).Sound source :=
  ⟨⟨rfl, "", Cursor.StandsAfter.start hshort⟩, by simp [Bench.ofSource]⟩

/-- **Whatever was done with a scanner**, it knows where it stands, and so do its copies. -/
theorem Sound.run (h : bench.Sound source) (hshort : source.length < 2 ^ 32 - 1)
    (moves : List Move) : (bench.run moves).Sound source := by
  have hkept := run_keeps (fun scanner => scanner.Sound source) bench
    (fun _ _ _ hproceeds hsound => hproceeds.sound hsound hshort) h.scanner h.copies moves
  exact ⟨hkept.1, hkept.2⟩

/-- **After any moves from a fresh scanner, every cursor knows where it stands, and the next move
reports its tokens and errors where it should.** -/
theorem sound_run (source : String) (keywords : Keywords) (hshort : source.length < 2 ^ 32 - 1)
    (moves : List Move) (move : Move) :
    ((Bench.ofSource source keywords).run moves).Sound source ∧
      ((Bench.ofSource source keywords).run moves).MoveSound source move := by
  have hsound := (sound_ofSource keywords hshort).run hshort moves
  exact ⟨hsound, hsound.moveSound hshort move⟩

/-- A scanner that has gone back over a line to a copy reads on from there. -/
theorem sound_run_restored :
    ((Bench.ofSource "a\n/*" .reserved).run [.read, .copy, .scan, .restore 0]).Sound "a\n/*" ∧
      ((Bench.ofSource "a\n/*" .reserved).run [.read, .copy, .scan, .restore 0]).MoveSound
        "a\n/*" .read :=
  sound_run "a\n/*" .reserved (by decide) [.read, .copy, .scan, .restore 0] .read

end Bench

/-- Whatever a session is asked for, its scanner and the one it remembers know where they stand. -/
theorem Session.sound_of_run {source : String} (keywords : Keywords)
    (hshort : source.length < 2 ^ 32 - 1) (requests : List Request) :
    ∀ answer ∈ (Session.ofSource source keywords).run requests,
      answer.session.scanner.Sound source ∧ answer.session.saved.Sound source := by
  intro answer hanswer
  obtain ⟨moves, hholds⟩ := Session.exists_moves source keywords requests answer hanswer
  have hsound := (Bench.sound_ofSource keywords hshort).run hshort moves
  have hscanner := hsound.scanner
  rw [hholds.scanner] at hscanner
  exact ⟨hscanner, hsound.copies _ hholds.saved⟩

end CurlyLex
