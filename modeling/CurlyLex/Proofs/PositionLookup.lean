import CurlyLex.Proofs.CursorTracking
import CurlyLex.Proofs.ReadingSequence
import CurlyLex.Proofs.SourceLines

/-!
# Reported positions can be looked up

The reader counts lines and columns on its way; a line is looked up by dividing the whole source at
its line feeds and taking a carriage return off its end.  The two agree on everything that is
reported: the line of a position exists, and what is reported stands in it where the column says.

* `Position.Finds` — a position finds a line, and a number of characters in front of it.
* `Position.Marks.finds` — the position behind a part of a source finds the line that goes on there.
* `Position.EndsSource` — a position stands at the end of the last line.
* `LexicalError.ShownIn`, `Reading.ShownIn` — what is found at the position of an error, and of a
  reading.
* `Faults.shownIn` — faults are found where they are met.
* `Cursor.StandsAfter.shownIn_read` — so is what a reading reports, if the cursor knows where it stands.
* `Scanner.shownIn_nthRead` — so is all that readings in a row report.
-/

namespace CurlyLex

open Text

/-! ### Lines and columns -/

/-- By a position one finds a line, and how many of its characters come before the position. -/
structure Position.Finds (position : Position) (source line : List Char) (index : Nat) : Prop where
  line : line? source position.line.toNat = some line
  column : position.column.toNat = index + 1

/-- **The position behind a part of a source finds the line that goes on there.** -/
theorem Position.Marks.finds {position : Position} {before : List Char} (h : position.Marks before)
    (after : List Char) :
    position.Finds (before ++ after) (chomp (lastLine before ++ firstLine after))
      (lastLine before).length := by
  refine ⟨h.line? after, ?_⟩
  rw [h.column, Nat.add_comm]
  rfl

/-- Within a line it does not matter where the line is divided. -/
theorem Text.lastLine_append_firstLine {text : List Char} (h : '\n' ∉ text)
    (before after : List Char) :
    lastLine before ++ firstLine (text ++ after) = lastLine (before ++ text) ++ firstLine after := by
  rw [firstLine_append h, lastLine_append h, List.append_assoc]

/-- **A text without blanks stands in its line as a whole**, behind what comes before it. -/
theorem Text.isPrefix_line {text : List Char} (hne : text ≠ []) (hsolid : ∀ c ∈ text, ¬ isBlank c)
    (before after : List Char) :
    lastLine before ++ text <+: chomp (lastLine before ++ firstLine (text ++ after)) := by
  have hfeed : '\n' ∉ text := fun hmem => hsolid _ hmem (by decide)
  apply isPrefix_chomp
  · rw [firstLine_append hfeed, ← List.append_assoc]
    exact List.prefix_append _ _
  · intro hlast
    rw [List.getLast?_append_of_ne_nil _ hne] at hlast
    exact hsolid _ (List.mem_of_getLast? hlast) (by decide)

/-- A position stands at the end of a source: it finds the last line, and comes behind all of its
characters, or behind these and the carriage return that was taken off. -/
def Position.EndsSource (position : Position) (source : List Char) : Prop :=
  position.line.toNat = 1 + source.count '\n' ∧
    ∃ line index, position.Finds source line index ∧
      (lastLine source = line ∧ index = line.length ∨
        lastLine source = line ++ ['\r'] ∧ index = line.length + 1)

/-- **The position behind a whole source stands at its end.** -/
theorem Position.Marks.endsSource {position : Position} {source : List Char}
    (h : position.Marks source) : position.EndsSource source := by
  have hfinds := h.finds []
  rw [List.append_nil, show firstLine [] = [] from rfl, List.append_nil] at hfinds
  refine ⟨h.line, _, _, hfinds, ?_⟩
  rcases chomp_cases (lastLine source) with hsame | hmore
  · exact .inl ⟨hsame.symm, by rw [hsame]⟩
  · refine .inr ⟨hmore, ?_⟩
    have hlength := congrArg List.length hmore
    rwa [List.length_append] at hlength

/-! ### Errors -/

/-- What is found at the position of an error.  A comment that is never closed is reported at the end
of the source, a malformed exponent behind the literal, and a character at its own place. -/
def LexicalError.ShownIn (source : List Char) : LexicalError → Prop
  | ⟨.unterminatedComment, position⟩ => position.EndsSource source
  | ⟨.malformedExponent literal, position⟩ =>
    ∃ row index, position.Finds source row index ∧ index ≤ row.length ∧
      literal.toList <:+ row.take index
  | ⟨.unrecognizedCharacter c, position⟩ =>
    ∃ row index, position.Finds source row index ∧ row[index]? = some c

/-- What a reading goes over when it meets an exponent mark has no blanks. -/
theorem RunsIntoMark.not_isBlank {number text : List Char} {mark c : Char}
    (h : RunsIntoMark number mark text) (hc : c ∈ number ++ [mark]) : ¬ isBlank c := by
  rcases List.mem_append.1 hc with hc | hc
  · exact (not_blank_of_mem (.inr (Pattern.number_of_plainNumber h.longest.holds)) hc).1
  · obtain rfl := List.mem_singleton.1 hc
    rcases h.isMark with rfl | rfl <;> decide

/-- **A fault is found where it is met.** -/
theorem Faults.shownIn {before rest passed : List Char} {fault : Fault} {position : Position}
    (h : Faults rest passed fault) (hmarks : position.Marks (before ++ passed)) :
    LexicalError.ShownIn (before ++ rest) ⟨fault, position⟩ := by
  cases h with
  | unclosed _ => exact hmarks.endsSource
  | @mark number mark hmark =>
    obtain ⟨tail, rfl, -⟩ := hmark.no_power
    have hsolid : ∀ c ∈ number ++ [mark], ¬ isBlank c := fun c hc => hmark.not_isBlank hc
    have hfeed : '\n' ∉ number ++ [mark] := fun hmem => hsolid _ hmem (by decide)
    have hfront := isPrefix_line (by simp) hsolid before tail
    have hfinds := hmarks.finds tail
    rw [← lastLine_append_firstLine hfeed, lastLine_append hfeed] at hfinds
    obtain ⟨behind, hline⟩ := hfront
    rw [← hline] at hfinds
    have hsource : before ++ (number ++ [mark]) ++ tail = before ++ (number ++ mark :: tail) := by
      simp
    rw [hsource] at hfinds
    refine ⟨_, _, hfinds, by simp, ?_⟩
    rw [List.take_left, String.toList_ofList]
    exact List.suffix_append _ _
  | @nothing c hnothing =>
    obtain ⟨tail, rfl⟩ := List.head?_eq_some_iff.1 hnothing.head
    have hsolid : ∀ d ∈ [c], ¬ isBlank d := by simpa using hnothing.not_blank
    obtain ⟨behind, hline⟩ := isPrefix_line (by simp) hsolid before tail
    rw [List.append_nil] at hmarks
    have hfinds := hmarks.finds (c :: tail)
    rw [← List.singleton_append, ← hline] at hfinds
    refine ⟨_, _, hfinds, ?_⟩
    rw [List.append_assoc, List.getElem?_append_right le_rfl, Nat.sub_self]
    rfl

/-! ### Readings -/

/-- What is found at the position of a reading.  The text of a token begins at its position, and the
mark of the end stands at the end of the source. -/
def Reading.ShownIn (source : List Char) (reading : Reading) : Prop :=
  match reading.outcome with
  | .ok ⟨_, some text, position⟩ =>
    ∃ line index, position.Finds source line index ∧ text.toList <+: line.drop index
  | .ok ⟨_, none, position⟩ => position.EndsSource source
  | .error error => error.ShownIn source

/-- **What a reading reports is found where it reports it**, when the cursor knows where it stands. -/
theorem Cursor.StandsAfter.shownIn_read (keywords : Keywords) {cursor : Cursor}
    {source passed : String} (h : cursor.StandsAfter source passed)
    (hshort : source.length < 2 ^ 32 - 1) : (cursor.read keywords).ShownIn source.toList := by
  have hmeets := cursor.meets_read keywords
  have hsource : source.toList = passed.toList ++ cursor.rest := by
    rw [h.source_eq, String.toList_append, String.toList_ofList]
  have hmarks : ∀ front rest, cursor.rest = front ++ rest →
      (cursor.position.after front).Marks (passed.toList ++ front) := by
    intro front rest hrest
    have hstands := (h.advance hshort hrest).marks
    rwa [position_advance_text hrest, String.toList_append, String.toList_ofList] at hstands
  generalize cursor.read keywords = reading at hmeets ⊢
  cases hmeets with
  | finish hgap =>
    have hend := hmarks cursor.rest [] (List.append_nil _).symm
    rw [← hsource] at hend
    exact hend.endsSource
  | @lexeme gap rest found hrest hgap hlexeme =>
    have hsolid : ∀ c ∈ found.text, ¬ isBlank c := fun c hc =>
      hlexeme.longest.holds.not_isBlank hc
    have hfinds := (hmarks gap _ hrest).finds (found.text ++ rest)
    obtain ⟨behind, hline⟩ :=
      isPrefix_line hlexeme.longest.holds.ne_nil hsolid (passed.toList ++ gap) rest
    rw [List.append_assoc, ← hrest, ← hsource, ← hline] at hfinds
    refine ⟨_, _, hfinds, ?_⟩
    rw [String.toList_ofList, List.append_assoc, List.drop_left]
    exact List.prefix_append _ _
  | @fault gap rest passed' fault hrest hgap hfaults =>
    obtain ⟨left, rfl⟩ := hfaults.passed_isPrefix
    have hfront : cursor.rest = (gap ++ passed') ++ left := by
      rw [hrest, List.append_assoc]
    have hstands := hmarks (gap ++ passed') left hfront
    rw [← List.append_assoc] at hstands
    have hshown := hfaults.shownIn hstands
    rw [List.append_assoc, ← hrest, ← hsource] at hshown
    show LexicalError.ShownIn source.toList ⟨fault, _⟩
    rw [position_advance_text hfront]
    exact hshown

namespace Scanner

/-- A fresh scanner knows where it stands, however many readings it has taken. -/
theorem standsAfter_afterReads (source : String) (keywords : Keywords)
    (hshort : source.length < 2 ^ 32 - 1) (n : Nat) :
    ∃ passed, ((ofSource source keywords).afterReads n).cursor.StandsAfter source passed := by
  induction n with
  | zero => exact ⟨"", Cursor.StandsAfter.start hshort⟩
  | succ n ih =>
    obtain ⟨passed, hstands⟩ := ih
    rw [cursor_afterReads_succ, nthRead_eq_read]
    exact (hstands.read _ hshort).stands

/-- **Everything that readings in a row report can be looked up** in the source: the text of a token
and a character at their own place, a malformed literal before the position, and the end of the
source on its last line. -/
theorem shownIn_nthRead (source : String) (keywords : Keywords)
    (hshort : source.length < 2 ^ 32 - 1) (n : Nat) :
    ((ofSource source keywords).nthRead n).ShownIn source.toList := by
  obtain ⟨passed, hstands⟩ := standsAfter_afterReads source keywords hshort n
  rw [nthRead_eq_read]
  exact hstands.shownIn_read _ hshort

/-- A word behind a comment of two lines, a number that runs into a mark at the end of a line with a
carriage return, and the end of a source whose last line has one too. -/
theorem shownIn_nthRead_comment :
    (∀ n, ((ofSource "/*\n*/x 1e\r\n@\r" .reserved).nthRead n).ShownIn
        "/*\n*/x 1e\r\n@\r".toList) ∧
      ((ofSource "/*\n*/x 1e\r\n@\r" .reserved).nthRead 1).outcome =
        .error ⟨.malformedExponent "1e", ⟨2, 7⟩⟩ :=
  ⟨shownIn_nthRead _ .reserved (by decide), by decide +kernel⟩

end Scanner

end CurlyLex
