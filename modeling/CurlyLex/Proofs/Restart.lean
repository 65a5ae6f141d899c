import CurlyLex.Proofs.CursorTracking

/-!
# Scanning may start anywhere

Nothing that lies before a cursor has a part in what is read behind it, but for the place where the
cursor stands.  So a scan from a cursor in the middle of a source is a scan of the text that is left,
as a source of its own, moved to that place: on the first line so many columns to the right, and on
the lines below so many lines down.

* `Position.relocate` — a position of a text, in a source in which the text begins somewhere else;
  `Token.relocate`, `LexicalError.relocate`, `Cursor.relocate`, `Reading.relocate` likewise.
* `Position.relocate_after` — moving over a text is the same in both places.
* `Cursor.StandsAfter.read_relocate`, `Cursor.StandsAfter.readings_relocate` — so is a reading, and
  so is a scan.
* `Position.Relocates` — no counter wraps on the way to another place.
* `Bench.scan_restart` — a scan from any cursor that can be reached.
-/

namespace CurlyLex

/-! ### Places in a larger source -/

/-- A position of a text, in a source in which the text begins at `origin`. -/
def Position.relocate (origin position : Position) : Position :=
  if position.line = 1 then ⟨origin.line, origin.column + position.column - 1⟩
  else ⟨origin.line + position.line - 1, position.column⟩

/-- A token of a text that begins at `origin`. -/
def Token.relocate (origin : Position) (token : Token) : Token :=
  { token with position := origin.relocate token.position }

/-- An error in a text that begins at `origin`. -/
def LexicalError.relocate (origin : Position) (error : LexicalError) : LexicalError :=
  { error with position := origin.relocate error.position }

/-- A cursor of the text that is left at `origin`. -/
def Cursor.relocate (origin cursor : Cursor) : Cursor :=
  ⟨cursor.rest, origin.offset + cursor.offset, origin.position.relocate cursor.position⟩

/-- A reading of the text that is left at `origin`. -/
def Reading.relocate (origin : Cursor) (reading : Reading) : Reading where
  outcome := match reading.outcome with
    | .ok token => .ok (token.relocate origin.position)
    | .error error => .error (error.relocate origin.position)
  cursor := origin.relocate reading.cursor

namespace Position

/-- A text begins where it begins. -/
theorem relocate_start (origin : Position) : origin.relocate start = origin := by
  have hcolumn : origin.column + 1 - 1 = origin.column := by grind
  show (⟨origin.line, origin.column + 1 - 1⟩ : Position) = origin
  rw [hcolumn]

/-- One character further on, as long as lines are counted from one. -/
theorem relocate_next (origin : Position) {position : Position} (c : Char)
    (hline : position.line ≠ 0) :
    origin.relocate (position.next c) = (origin.relocate position).next c := by
  have hbelow : position.line + 1 ≠ 1 := by grind
  by_cases hc : c = '\n'
  · subst hc
    rw [next, next, if_pos rfl, if_pos rfl, relocate, if_neg hbelow, relocate]
    by_cases hfirst : position.line = 1
    · rw [if_pos hfirst, hfirst]
      have hsum : origin.line + (1 + 1) - 1 = origin.line + 1 := by grind
      rw [hsum]
    · rw [if_neg hfirst]
      have hsum : origin.line + (position.line + 1) - 1 = origin.line + position.line - 1 + 1 := by
        grind
      rw [hsum]
  · rw [next, next, if_neg hc, if_neg hc, relocate, relocate]
    by_cases hfirst : position.line = 1
    · rw [if_pos hfirst, if_pos hfirst]
      have hsum : origin.column + (position.column + 1) - 1 =
          origin.column + position.column - 1 + 1 := by grind
      rw [hsum]
    · rw [if_neg hfirst, if_neg hfirst]

theorem Marks.line_ne_zero {position : Position} {before : List Char} (h : position.Marks before) :
    position.line ≠ 0 := by
  intro hzero
  have hline : 0 = 1 + before.count '\n' := by
    rw [← h.line, hzero]
    rfl
  omega

/-- **Moving over a text is the same in both places**, as long as lines are counted from one. -/
theorem relocate_after (origin : Position) {position : Position} {before text : List Char}
    (h : position.Marks before) (hshort : before.length + text.length < 2 ^ 32 - 1) :
    origin.relocate (position.after text) = (origin.relocate position).after text := by
  induction text generalizing position before with
  | nil => rfl
  | cons c text ih =>
    rw [List.length_cons] at hshort
    have hnext := h.next (h.counts (by omega) c)
    rw [after_cons, after_cons, ← relocate_next origin c h.line_ne_zero]
    apply ih hnext
    rw [List.length_append, List.length_singleton]
    omega

/-- Between a position of a text and the place to which it is moved no counter wraps: lines and
columns are those that one finds by adding. -/
structure Relocates (origin position : Position) : Prop where
  line : (origin.relocate position).line.toNat = origin.line.toNat + position.line.toNat - 1
  column : (origin.relocate position).column.toNat =
    if position.line = 1 then origin.column.toNat + position.column.toNat - 1
    else position.column.toNat

theorem toNat_add_sub_one (m n : UInt32) (hpos : 0 < n.toNat)
    (hshort : m.toNat + n.toNat ≤ 2 ^ 32) :
    (m + n - 1).toNat = m.toNat + n.toNat - 1 := by
  have hn : n - 1 + 1 = n := by grind
  have hsum : m + n - 1 = m + (n - 1) := by grind
  have hless : (n - 1).toNat = n.toNat - 1 := by
    rw [UInt32.toNat_sub_of_le]
    · rfl
    · rw [UInt32.le_iff_toNat_le]
      exact hpos
  rw [hsum, UInt32.toNat_add, hless]
  have := Nat.mod_eq_of_lt (show m.toNat + (n.toNat - 1) < 2 ^ 32 by omega)
  omega

/-- In a source that is not too long no counter wraps. -/
theorem Marks.relocates {origin position : Position} {passed before : List Char}
    (h : origin.Marks passed) (h' : position.Marks before)
    (hshort : passed.length + before.length < 2 ^ 32 - 1) : origin.Relocates position := by
  have hlines : passed.count '\n' ≤ passed.length := List.count_le_length
  have hlines' : before.count '\n' ≤ before.length := List.count_le_length
  have hcolumns : (passed.rtakeWhile fun c => c != '\n').length ≤ passed.length :=
    (List.rtakeWhile_suffix _ _).length_le
  have hcolumns' : (before.rtakeWhile fun c => c != '\n').length ≤ before.length :=
    (List.rtakeWhile_suffix _ _).length_le
  have hline := h.line
  have hline' := h'.line
  have hcolumn := h.column
  have hcolumn' := h'.column
  have hsum := toNat_add_sub_one origin.line position.line (by omega) (by omega)
  have hsum' := toNat_add_sub_one origin.column position.column (by omega) (by omega)
  by_cases hfirst : position.line = 1
  · have hone : position.line.toNat = 1 := by
      rw [hfirst]
      rfl
    refine ⟨?_, ?_⟩
    · rw [relocate, if_pos hfirst, hone]
      rfl
    · rw [relocate, if_pos hfirst, if_pos hfirst]
      exact hsum'
  · refine ⟨?_, ?_⟩
    · rw [relocate, if_neg hfirst]
      exact hsum
    · rw [relocate, if_neg hfirst, if_neg hfirst]

end Position

/-! ### Readings in a larger source -/

@[simp]
theorem Reading.isLast_relocate (origin : Cursor) (reading : Reading) :
    (reading.relocate origin).isLast = reading.isLast := by
  obtain ⟨outcome, cursor⟩ := reading
  cases outcome with
  | ok token => rfl
  | error error => rfl

@[simp]
theorem Cursor.rest_relocate (origin cursor : Cursor) : (origin.relocate cursor).rest = cursor.rest :=
  rfl

/-- The text that is left at a cursor begins there. -/
theorem Cursor.relocate_ofText (origin : Cursor) : origin.relocate (.ofText origin.rest) = origin := by
  show (⟨origin.rest, origin.offset + 0, origin.position.relocate Position.start⟩ : Cursor) = origin
  rw [Position.relocate_start]
  rfl

namespace Cursor.StandsAfter

variable {cursor : Cursor} {source passed : String}

/-- The text before a cursor and the text behind it are the source. -/
theorem length_eq (h : cursor.StandsAfter source passed) :
    passed.toList.length + cursor.rest.length = source.length := by
  rw [h.source_eq, String.length_append, String.length_ofList, String.length_toList]

/-- A cursor may be moved over any number of characters. -/
theorem advance_any (h : cursor.StandsAfter source passed) (hshort : source.length < 2 ^ 32 - 1)
    (n : Nat) : ∃ further, (cursor.advance n).StandsAfter source further := by
  have hsplit : cursor.rest = cursor.rest.take n ++ cursor.rest.drop n :=
    (List.take_append_drop n cursor.rest).symm
  have hstands := h.advance hshort hsplit
  have hsame : cursor.advance (cursor.rest.take n).length = cursor.advance n := by
    rw [List.length_take, Cursor.advance, Cursor.advance, ← List.take_eq_take_min,
      ← List.drop_eq_drop_min]
  rw [hsame] at hstands
  exact ⟨_, hstands⟩

theorem advance_relocate (h : cursor.StandsAfter source passed) (hshort : source.length < 2 ^ 32 - 1)
    (origin : Cursor) (n : Nat) :
    (origin.relocate cursor).advance n = origin.relocate (cursor.advance n) := by
  have hlength := h.length_eq
  have htext : passed.toList.length + (cursor.rest.take n).length < 2 ^ 32 - 1 := by
    rw [List.length_take]
    omega
  have hposition := Position.relocate_after origin.position h.marks htext
  simp only [Cursor.advance, Cursor.relocate, hposition, Nat.add_assoc]

/-- **A reading of the text that is left is a reading of the source**, moved to its place. -/
theorem read_relocate (h : cursor.StandsAfter source passed) (hshort : source.length < 2 ^ 32 - 1)
    (keywords : Keywords) (origin : Cursor) :
    (origin.relocate cursor).read keywords = (cursor.read keywords).relocate origin := by
  rw [Cursor.read_eq, Cursor.read_eq, Cursor.rest_relocate]
  cases Gap.length? cursor.rest with
  | none => exact congrArg (Reading.fault _) (h.advance_relocate hshort origin _)
  | some gap =>
    obtain ⟨further, hfurther⟩ := h.advance_any hshort gap
    show ((origin.relocate cursor).advance gap).readLexeme keywords =
      ((cursor.advance gap).readLexeme keywords).relocate origin
    rw [h.advance_relocate hshort, Cursor.readLexeme_eq, Cursor.readLexeme_eq, Cursor.rest_relocate]
    cases Lexeme.read (cursor.advance gap).rest with
    | exhausted => rfl
    | found lexeme =>
      exact congrArg (Reading.token _) (hfurther.advance_relocate hshort origin _)
    | malformedExponent literal =>
      exact congrArg (Reading.fault _) (hfurther.advance_relocate hshort origin _)
    | unrecognized c => rfl

/-- **A scan of the text that is left is a scan of the source**, moved to its place. -/
theorem readings_relocate (h : cursor.StandsAfter source passed)
    (hshort : source.length < 2 ^ 32 - 1) (keywords : Keywords) (origin : Cursor) :
    (origin.relocate cursor).readings keywords =
      (cursor.readings keywords).map (Reading.relocate origin) := by
  -- on what is left to be read
  induction hlen : cursor.rest.length using Nat.strongRecOn generalizing cursor passed with
  | _ n ih =>
    subst hlen
    rw [Cursor.readings_eq, Cursor.readings_eq keywords cursor, h.read_relocate hshort,
      Reading.isLast_relocate]
    cases hlast : (cursor.read keywords).isLast with
    | true => rfl
    | false =>
      obtain ⟨further, hfurther⟩ := (h.read keywords hshort).stands
      have hrest := ih _ (cursor.rest_read_lt keywords hlast) hfurther rfl
      exact congrArg (List.cons _) hrest

end Cursor.StandsAfter

/-! ### What is returned -/

theorem gather_relocate (origin : Cursor) (readings : List Reading) :
    gather (readings.map (Reading.relocate origin)) =
      match gather readings with
      | .ok tokens => .ok (tokens.map (Token.relocate origin.position))
      | .error error => .error (error.relocate origin.position) := by
  induction readings with
  | nil => rfl
  | cons reading readings ih =>
    rw [List.map_cons, gather_cons, gather_cons, ih, Reading.relocate]
    cases reading.outcome with
    | error error => rfl
    | ok token =>
      cases gather readings with
      | error error => rfl
      | ok tokens => rfl

theorem Cursor.past_relocate (origin cursor : Cursor) (readings : List Reading) :
    (origin.relocate cursor).past (readings.map (Reading.relocate origin)) =
      origin.relocate (cursor.past readings) := by
  induction readings generalizing cursor with
  | nil => rfl
  | cons reading readings ih => exact ih reading.cursor

/-- The tokens that are gathered are outcomes, and so is the error. -/
theorem mem_outcomes_of_gather {readings : List Reading} :
    (∀ tokens, gather readings = .ok tokens →
      ∀ token ∈ tokens, ∃ reading ∈ readings, reading.outcome = .ok token) ∧
    ∀ error, gather readings = .error error →
      ∃ reading ∈ readings, reading.outcome = .error error := by
  induction readings with
  | nil =>
    refine ⟨?_, fun error herror => by simp [gather, pure, Except.pure] at herror⟩
    intro tokens htokens token htoken
    obtain rfl : [] = tokens := Except.ok.inj htokens
    simp at htoken
  | cons reading readings ih =>
    rw [gather_cons]
    cases houtcome : reading.outcome with
    | error error =>
      refine ⟨fun tokens htokens => by simp at htokens, ?_⟩
      intro other hother
      obtain rfl := Except.error.inj hother
      exact ⟨reading, List.mem_cons_self, houtcome⟩
    | ok first =>
      cases hrest : gather readings with
      | error error =>
        refine ⟨fun tokens htokens => by simp [Except.map] at htokens, ?_⟩
        intro other hother
        obtain ⟨later, hlater, hsame⟩ := ih.2 other (hrest.trans hother)
        exact ⟨later, List.mem_cons_of_mem _ hlater, hsame⟩
      | ok more =>
        refine ⟨?_, fun error herror => by simp [Except.map] at herror⟩
        intro tokens htokens token htoken
        obtain rfl := Except.ok.inj htokens
        rcases List.mem_cons.1 htoken with rfl | hmore
        · exact ⟨reading, List.mem_cons_self, houtcome⟩
        · obtain ⟨later, hlater, hsame⟩ := ih.1 more hrest token hmore
          exact ⟨later, List.mem_cons_of_mem _ hlater, hsame⟩

/-- A reading that reports where it should reports behind a part of its source. -/
theorem Reading.Placed.exists_marks {reading : Reading} {source : String}
    (h : reading.Placed source) :
    (∀ token, reading.outcome = .ok token →
      ∃ before, token.position.Marks before ∧ before.length ≤ source.length) ∧
    ∀ error, reading.outcome = .error error →
      ∃ before, error.position.Marks before ∧ before.length ≤ source.length := by
  refine ⟨?_, ?_⟩
  · intro token htoken
    obtain ⟨kind, text, position⟩ := token
    cases text with
    | none =>
      obtain ⟨hmarks, -⟩ := h.finish kind position htoken
      exact ⟨_, hmarks, by rw [String.length_toList]⟩
    | some text =>
      obtain ⟨before, hmarks, hstands⟩ := h.valued kind text position htoken
      refine ⟨_, hmarks, ?_⟩
      have hlength := hstands.length_eq
      rw [String.toList_append, List.length_append] at hlength
      omega
  · intro error herror
    obtain ⟨passed, hstands⟩ := h.stands
    refine ⟨passed.toList, ?_, ?_⟩
    · rw [h.error error herror]
      exact hstands.marks
    · have hlength := hstands.length_eq
      omega

/-- **Reading on from a cursor is reading the text that is left there.**  A scan returns the tokens or
the error of a fresh scan of `tail`, each relocated to where the scanner stands, and goes over as
many bytes. -/
structure Scanner.ReadsOn (scanner : Scanner) (tail : String) : Prop where
  tokens : ∀ tokens, (Scanner.ofSource tail scanner.keywords).scanned.1 = .ok tokens →
    scanner.scanned.1 = .ok (tokens.map (Token.relocate scanner.cursor.position)) ∧
      ∀ token ∈ tokens, scanner.cursor.position.Relocates token.position
  error : ∀ error, (Scanner.ofSource tail scanner.keywords).scanned.1 = .error error →
    scanner.scanned.1 = .error (error.relocate scanner.cursor.position) ∧
      scanner.cursor.position.Relocates error.position
  offset : scanner.scanned.2.cursor.offset =
    scanner.cursor.offset + (Scanner.ofSource tail scanner.keywords).scanned.2.cursor.offset

/-- **A scanner that knows where it stands reads on from there.** -/
theorem Cursor.StandsAfter.readsOn {scanner : Scanner} {source passed : String}
    (h : scanner.cursor.StandsAfter source passed) (hshort : source.length < 2 ^ 32 - 1) :
    scanner.ReadsOn (String.ofList scanner.cursor.rest) := by
  have hlength := h.length_eq
  generalize htext : String.ofList scanner.cursor.rest = tail
  have hrest : scanner.cursor.rest = tail.toList := by rw [← htext, String.toList_ofList]
  simp only [hrest, String.length_toList] at hlength
  have hfresh : (Cursor.ofText tail.toList).StandsAfter tail "" := .start (by omega)
  have hplaced := ((Cursor.consecutive_readings scanner.keywords _).placed ⟨_, hfresh⟩ (by omega)).1
  have hstart : scanner.cursor.relocate (.ofText tail.toList) = scanner.cursor := by
    rw [← hrest, Cursor.relocate_ofText]
  have hreadings : scanner.scan.1 =
      (Scanner.ofSource tail scanner.keywords).scan.1.map (Reading.relocate scanner.cursor) := by
    have hmoved := hfresh.readings_relocate (by omega) scanner.keywords scanner.cursor
    rw [hstart] at hmoved
    exact hmoved
  have hplace : ∀ {position : Position},
      (∃ before, position.Marks before ∧ before.length ≤ tail.length) →
      scanner.cursor.position.Relocates position := by
    intro position hposition
    obtain ⟨before, hbefore, hle⟩ := hposition
    apply h.marks.relocates hbefore
    rw [String.length_toList]
    omega
  have hgather := gather_relocate scanner.cursor (Scanner.ofSource tail scanner.keywords).scan.1
  rw [← hreadings] at hgather
  refine ⟨?_, ?_, ?_⟩ <;> simp only [Scanner.scanned_eq]
  · intro tokens htokens
    rw [htokens] at hgather
    refine ⟨hgather, ?_⟩
    intro token htoken
    obtain ⟨reading, hreading, houtcome⟩ := mem_outcomes_of_gather.1 tokens htokens token htoken
    exact hplace ((hplaced reading hreading).exists_marks.1 token houtcome)
  · intro error herror
    rw [herror] at hgather
    obtain ⟨reading, hreading, houtcome⟩ := mem_outcomes_of_gather.2 error herror
    exact ⟨hgather, hplace ((hplaced reading hreading).exists_marks.2 error houtcome)⟩
  · have hpast := scanner.cursor.past_relocate (.ofText tail.toList)
      (Scanner.ofSource tail scanner.keywords).scan.1
    rw [hstart, ← hreadings] at hpast
    exact congrArg Cursor.offset hpast

/-! ### Whatever was done before -/

/-- **Scanning may start anywhere.**  Wherever a scanner stands after any moves, on tokens or behind
errors, the text behind its offset is a source of its own, and a scan reads on as a fresh scanner
reads that source. -/
theorem Bench.scan_restart (source : String) (keywords : Keywords)
    (hshort : source.length < 2 ^ 32 - 1) (moves : List Move) :
    ∃ passed tail, source = passed ++ tail ∧
      passed.utf8ByteSize = ((Bench.ofSource source keywords).run moves).scanner.cursor.offset ∧
      ((Bench.ofSource source keywords).run moves).scanner.keywords = keywords ∧
      ((Bench.ofSource source keywords).run moves).scanner.ReadsOn tail := by
  have hsound := (Bench.sound_ofSource keywords hshort).run hshort moves
  obtain ⟨passed, hstands⟩ := hsound.scanner.stands
  exact ⟨passed, _, hstands.source_eq, hstands.offset.symm, keywords_run source keywords moves,
    hstands.readsOn hshort⟩

/-- A scan goes on behind a malformed exponent on the second line, where a comment of more bytes than
characters stands above. -/
theorem Bench.scan_restart_behind_error :
    ((Bench.ofSource "/*é*/\n1e b\nc" .reserved).run [.read]).scanner.cursor.position = ⟨2, 3⟩ ∧
      ∃ passed tail, "/*é*/\n1e b\nc" = passed ++ tail ∧
        passed.utf8ByteSize =
          ((Bench.ofSource "/*é*/\n1e b\nc" .reserved).run [.read]).scanner.cursor.offset ∧
        ((Bench.ofSource "/*é*/\n1e b\nc" .reserved).run [.read]).scanner.keywords = .reserved ∧
        ((Bench.ofSource "/*é*/\n1e b\nc" .reserved).run [.read]).scanner.ReadsOn tail :=
  ⟨by decide +kernel, scan_restart "/*é*/\n1e b\nc" .reserved (by decide) [.read]⟩

end CurlyLex
