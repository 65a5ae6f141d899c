import CurlyLex.Proofs.FirstFault
import CurlyLex.Proofs.PositionLookup

/-!
# The caret of a report

The last two rows of a report show a source line and point into it.  The bars of both rows stand under
each other, whatever the number of digits of the line, and the caret is as far behind its bar as the
column of the error says, less the blanks that were taken off the front of the line.  So the caret
stands under the character that is reported, or just behind the literal that is.

* `Text.exists_trimmed` — a line is its blanks in front, what is shown of it, and blanks behind.
* `Text.getElem?_trimmed` — what is not blank is shown, further left by the blanks in front.
* `LexicalError.toList_sourceRow`, `LexicalError.toList_caretRow` — the two rows.
* `FailsAt.exists_marked` — where an error of a scan is on its line.
* `LexicalError.Aligned` — what is right about the last two rows of a report.
* `report_aligned` — the rows of every error of a scan are aligned.
-/

namespace CurlyLex

open Text

/-! ### What is shown of a line -/

namespace Text

/-- **A line is its blanks in front, what is shown of it, and blanks behind.** -/
theorem exists_trimmed (line : List Char) :
    ∃ trailing, line = line.takeWhile isBlank ++ (trimEnd (trimStart line) ++ trailing) ∧
      ∀ c ∈ trailing, isBlank c := by
  refine ⟨((trimStart line).reverse.takeWhile isBlank).reverse, ?_, ?_⟩
  · rw [trimEnd, ← List.reverse_append, List.takeWhile_append_dropWhile, List.reverse_reverse,
      trimStart, List.takeWhile_append_dropWhile]
  · intro c hc
    exact List.mem_takeWhile_imp (List.mem_reverse.1 hc)

end Text

/-- As many blanks are taken off a line as it begins with. -/
theorem LexicalError.indentation_eq (line : List Char) :
    indentation line = (line.takeWhile isBlank).length := by
  have hsplit := congrArg List.length (List.takeWhile_append_dropWhile (p := isBlank) (l := line))
  rw [List.length_append] at hsplit
  rw [indentation, trimStart]
  omega

/-- **What is not blank is shown**, further left by the blanks in front of the row. -/
theorem Text.getElem?_trimmed {row : List Char} {i : Nat} {c : Char} (h : row[i]? = some c)
    (hc : ¬ isBlank c) :
    (row.takeWhile isBlank).length ≤ i ∧
      (trimEnd (trimStart row))[i - (row.takeWhile isBlank).length]? = some c := by
  obtain ⟨trailing, hrow, htrailing⟩ := exists_trimmed row
  generalize hblanks : row.takeWhile isBlank = blanks at hrow ⊢
  have hfront : blanks.length ≤ i := by
    by_contra hless
    rw [hrow, List.getElem?_append_left (by omega)] at h
    have hmem := List.mem_of_getElem? h
    rw [← hblanks] at hmem
    exact hc (List.mem_takeWhile_imp hmem)
  refine ⟨hfront, ?_⟩
  rw [hrow, List.getElem?_append_right hfront, List.getElem?_append] at h
  split at h
  · exact h
  · exact absurd (htrailing c (List.mem_of_getElem? h)) hc

/-! ### The place of an error on its line -/

/-- A fault is marked in a row: a character that begins nothing stands at the index, and an exponent
mark, with which the literal ends, just before it.  A comment that is never closed has no mark. -/
def Fault.MarkedAt (row : List Char) (index : Nat) : Fault → Prop
  | .unterminatedComment => True
  | .malformedExponent literal => ∃ mark, (mark = 'e' ∨ mark = 'E') ∧
      literal.toList.getLast? = some mark ∧ 0 < index ∧ row[index - 1]? = some mark
  | .unrecognizedCharacter c => ¬ isBlank c ∧ row[index]? = some c

namespace Fault.MarkedAt

variable {fault : Fault} {row : List Char} {index : Nat}

/-- What is marked in a row is marked as much further right behind another text. -/
theorem append (h : fault.MarkedAt row index) (front : List Char) :
    fault.MarkedAt (front ++ row) (front.length + index) := by
  cases fault with
  | unterminatedComment => trivial
  | malformedExponent literal =>
    obtain ⟨mark, hmark, hliteral, hpos, hrow⟩ := h
    refine ⟨mark, hmark, hliteral, by omega, ?_⟩
    rw [List.getElem?_append_right (by omega),
      show front.length + index - 1 - front.length = index - 1 by omega]
    exact hrow
  | unrecognizedCharacter c =>
    refine ⟨h.1, ?_⟩
    rw [List.getElem?_append_right (by omega), Nat.add_sub_cancel_left]
    exact h.2

/-- What is marked in a line is marked in what is shown of it, further left by the blanks in front. -/
theorem trimmed (h : fault.MarkedAt row index) :
    fault.MarkedAt (trimEnd (trimStart row)) (index - (row.takeWhile isBlank).length) := by
  cases fault with
  | unterminatedComment => trivial
  | malformedExponent literal =>
    obtain ⟨mark, hmark, hliteral, hpos, hrow⟩ := h
    have hletter : ¬ isBlank mark := by
      rcases hmark with rfl | rfl <;> decide
    obtain ⟨hle, hshown⟩ := getElem?_trimmed hrow hletter
    refine ⟨mark, hmark, hliteral, by omega, ?_⟩
    rw [Nat.sub_right_comm]
    exact hshown
  | unrecognizedCharacter c => exact ⟨h.1, (getElem?_trimmed h.2 h.1).2⟩

end Fault.MarkedAt

/-- **An error of a scan is on its line, behind the blanks in front.** -/
theorem FailsAt.exists_marked {source lead rest passed : List Char} {pieces : List Piece}
    {error : LexicalError} (h : FailsAt source lead pieces rest passed error) :
    ∃ row index, error.position.Finds source row index ∧
      (row.takeWhile isBlank).length ≤ index ∧ error.fault.MarkedAt row index ∧
      (error.fault = .unterminatedComment → index = (lastLine source).length) := by
  have hshown := h.faults.shownIn h.marks
  rw [List.append_assoc, ← h.cut.text_eq] at hshown
  obtain ⟨fault, position⟩ := error
  have hfaults : Faults rest passed fault := h.faults
  cases hfaults with
  | unclosed _ =>
    obtain ⟨-, row, index, hfinds, hend⟩ := hshown
    have hle : (row.takeWhile isBlank).length ≤ row.length :=
      (List.takeWhile_prefix isBlank).length_le
    refine ⟨row, index, hfinds, by omega, trivial, ?_⟩
    intro _
    rcases hend with ⟨hsame, hindex⟩ | ⟨hmore, hindex⟩
    · rw [hsame, hindex]
    · rw [hmore, hindex, List.length_append, List.length_singleton]
  | @mark number mark hmark =>
    obtain ⟨row, index, hfinds, hle, hliteral⟩ := hshown
    rw [String.toList_ofList] at hliteral
    obtain ⟨front, hfront⟩ := hliteral
    rw [← List.append_assoc] at hfront
    have hlength := congrArg List.length hfront
    rw [List.length_take_of_le hle, List.length_append, List.length_singleton] at hlength
    have hlast : row[index - 1]? = some mark := by
      rw [← List.getElem?_take_of_lt (show index - 1 < index by omega), ← hfront,
        ← hlength, Nat.add_sub_cancel, List.getElem?_concat_length]
    have hletter : ¬ isBlank mark := hmark.not_isBlank (by simp)
    have htrimmed := getElem?_trimmed hlast hletter
    refine ⟨row, index, hfinds, by omega, ⟨mark, hmark.isMark, ?_, by omega, hlast⟩, by simp⟩
    rw [String.toList_ofList, List.getLast?_concat]
  | @nothing c hnothing =>
    obtain ⟨row, index, hfinds, hc⟩ := hshown
    have htrimmed := getElem?_trimmed hc hnothing.not_blank
    exact ⟨row, index, hfinds, htrimmed.1, ⟨hnothing.not_blank, hc⟩, by simp⟩

/-! ### The rows of a report -/

namespace LexicalError

variable (error : LexicalError) (source : String)

/-- The row of the source line: the number of the line, the bar, and what is shown of the line. -/
theorem toList_sourceRow : (error.sourceRow source).toList =
    (decimal error.position.line.toNat).toList ++
      ' ' :: '|' :: ' ' :: trimEnd (trimStart (error.sourceLine source)) := by
  rw [sourceRow, String.toList_append, String.toList_append, String.toList_ofList]
  simp

/-- The row of the caret: blanks, the bar, and dashes up to the caret. -/
theorem toList_caretRow : (error.caretRow source).toList =
    List.replicate ((decimal error.position.line.toNat).length + 1) ' ' ++
      '|' :: ' ' :: (List.replicate (error.caretWidth source - 1) '-' ++ ['^']) := by
  rw [caretRow, String.toList_append, String.toList_append, margin, caret, String.toList_ofList,
    String.toList_ofList, marginWidth]
  simp

/-- The caret is as far behind the bar as there are dashes, and a blank. -/
theorem getElem?_caretRow : (error.caretRow source).toList[(decimal
    error.position.line.toNat).length + 1 + 2 + (error.caretWidth source - 1)]? = some '^' := by
  have hfront : (error.caretRow source).toList =
      (List.replicate ((decimal error.position.line.toNat).length + 1) ' ' ++ ['|', ' '] ++
        List.replicate (error.caretWidth source - 1) '-') ++ ['^'] := by
    rw [toList_caretRow]
    simp
  generalize hdashes : error.caretWidth source - 1 = dashes at *
  generalize (decimal error.position.line.toNat).length + 1 = bar at *
  have hlength : (List.replicate bar ' ' ++ ['|', ' '] ++ List.replicate dashes '-').length =
      bar + 2 + dashes := by
    simp only [List.length_append, List.length_replicate, List.length_cons, List.length_nil]
  rw [hfront, ← hlength, List.getElem?_concat_length]

/-- **The bars of both rows stand under each other**, behind the digits of the line and a blank. -/
theorem idxOf_bar :
    (error.sourceRow source).toList.idxOf '|' = (decimal error.position.line.toNat).length + 1 ∧
      (error.caretRow source).toList.idxOf '|' = (decimal error.position.line.toNat).length + 1 := by
  refine ⟨?_, ?_⟩
  · have hdigits : '|' ∉ (decimal error.position.line.toNat).toList := not_mem_decimal (by decide) _
    rw [toList_sourceRow, List.idxOf_append_of_notMem hdigits, List.idxOf_cons_ne _ (by decide),
      List.idxOf_cons_self, String.length_toList]
  · rw [toList_caretRow, List.idxOf_append_of_notMem (by simp), List.idxOf_cons_self,
      List.length_replicate, Nat.add_zero]

/-- Neither row has a line feed in it. -/
theorem not_mem_rows :
    '\n' ∉ (error.sourceRow source).toList ∧ '\n' ∉ (error.caretRow source).toList := by
  refine ⟨?_, ?_⟩
  · have hdigits : '\n' ∉ (decimal error.position.line.toNat).toList := not_mem_decimal (by decide) _
    have hline : '\n' ∉ error.sourceLine source := by
      rw [sourceLine]
      cases hfound : line? source.toList error.position.line.toNat with
      | none => simp
      | some line => exact not_mem_of_line? hfound
    obtain ⟨trailing, hsplit, -⟩ := exists_trimmed (error.sourceLine source)
    rw [hsplit] at hline
    rw [toList_sourceRow]
    simp only [List.mem_append, List.mem_cons, not_or] at hline ⊢
    exact ⟨hdigits, by decide, by decide, by decide, hline.2.1⟩
  · rw [toList_caretRow]
    simp

/-- A report ends with these two rows. -/
theorem exists_front_of_report? {file rendered : String}
    (h : error.report? source file = some rendered) :
    ∃ front, rendered.toList = front ++ '\n' :: ((error.sourceRow source).toList ++
      '\n' :: ((error.caretRow source).toList ++ ['\n'])) := by
  rw [report?] at h
  split at h
  · obtain rfl := Option.some.inj h
    have hrows : error.reportRows source file =
        ("Error: " ++ error.fault.name ++ " (" ++ error.message ++ ")") :: error.tipRows ++
          ["-> " ++ file] ++
          [margin error.marginWidth '|', error.sourceRow source, error.caretRow source] := by
      simp [reportRows]
    generalize ("Error: " ++ error.fault.name ++ " (" ++ error.message ++ ")") :: error.tipRows ++
      ["-> " ++ file] = above at hrows
    refine ⟨(above.map fun row => row ++ "\n").flatMap String.toList ++
      (margin error.marginWidth '|').toList, ?_⟩
    rw [String.toList_join, hrows, List.map_append, List.flatMap_append]
    simp
  · simp at h

/-! ### Alignment -/

/-- What is right about the last two rows of a report, the row of the source line and the row of the
caret.  The report ends with them, and both have their first bar at the same index.  Behind the bar of
the caret row there are a blank, dashes and the caret.  The dashes, the caret and the blanks that were
taken off the front of the line make up the column of the error; the row of the line shows the rest of
it, perhaps without blanks at its end.  The fault is marked in this row at the index of the caret, and
a comment that is never closed is reported one column behind the last line. -/
structure Aligned (error : LexicalError) (source rendered sourceRow caretRow : List Char)
    (bar dashes : Nat) : Prop where
  lastRows : ∃ front, rendered =
    front ++ '\n' :: (sourceRow ++ '\n' :: (caretRow ++ ['\n']))
  oneRow : '\n' ∉ sourceRow ∧ '\n' ∉ caretRow
  bars : '|' ∈ sourceRow ∧ sourceRow.idxOf '|' = bar ∧ caretRow.idxOf '|' = bar
  caretRow_eq : caretRow =
    List.replicate bar ' ' ++ '|' :: ' ' :: (List.replicate dashes '-' ++ ['^'])
  caret : caretRow[bar + 2 + dashes]? = some '^'
  column : ∃ line shown trailing, line? source error.position.line.toNat = some line ∧
    line = line.takeWhile isBlank ++ (shown ++ trailing) ∧ (∀ c ∈ trailing, isBlank c) ∧
    sourceRow = (decimal error.position.line.toNat).toList ++ ' ' :: '|' :: ' ' :: shown ∧
    dashes + 1 + (line.takeWhile isBlank).length = error.position.column.toNat
  marked : error.fault.MarkedAt sourceRow (bar + 2 + dashes)
  unclosed : error.fault = .unterminatedComment →
    error.position.column.toNat = (lastLine source).length + 1

end LexicalError

/-- **The caret of a report is aligned**, for every error of a scan and whenever there is a report. -/
theorem report_aligned (source file rendered : String) (error : LexicalError)
    (hshort : source.length < 2 ^ 32 - 1) (herror : tokenize source = .error error)
    (hreport : error.report? source file = some rendered) :
    ∃ sourceRow caretRow bar dashes,
      error.Aligned source.toList rendered.toList sourceRow caretRow bar dashes := by
  obtain ⟨lead, pieces, rest, passed, hfails⟩ := FailsAt.exists_of_error herror hshort
  obtain ⟨line, index, hfinds, hindent, hmarked, hunclosed⟩ := hfails.exists_marked
  obtain ⟨trailing, hline, htrailing⟩ := exists_trimmed line
  have hsourceLine : error.sourceLine source = line := by
    rw [LexicalError.sourceLine, hfinds.line]
    rfl
  have hwidth : error.caretWidth source - 1 = index - (line.takeWhile isBlank).length := by
    rw [LexicalError.caretWidth, hsourceLine, LexicalError.indentation_eq, hfinds.column]
    omega
  have hrow := error.toList_sourceRow source
  have hcaret := error.toList_caretRow source
  rw [hsourceLine] at hrow
  rw [hwidth] at hcaret
  have hbars := error.idxOf_bar source
  refine ⟨_, _, _, _, error.exists_front_of_report? source hreport, error.not_mem_rows source,
    ⟨?_, hbars.1, hbars.2⟩, hcaret, ?_, ?_, ?_, ?_⟩
  · rw [hrow]
    simp
  · rw [← hwidth]
    exact error.getElem?_caretRow source
  · refine ⟨line, _, trailing, hfinds.line, hline, htrailing, hrow, ?_⟩
    rw [hfinds.column]
    omega
  · have hmarkedRow := hmarked.trimmed.append
      ((decimal error.position.line.toNat).toList ++ [' ', '|', ' '])
    rw [List.append_assoc, List.length_append, String.length_toList] at hmarkedRow
    rw [hrow]
    exact hmarkedRow
  · intro hfault
    rw [hfinds.column, hunclosed hfault]

/-- A character that begins nothing, on an indented line with a number of two digits, in front of a
blank and a carriage return. -/
theorem report_aligned_indented :
    tokenize "\n\n\n\n\n\n\n\n\n\t a@ \r\n" = .error ⟨.unrecognizedCharacter '@', ⟨10, 4⟩⟩ ∧
    ∃ sourceRow caretRow bar dashes,
      (⟨.unrecognizedCharacter '@', ⟨10, 4⟩⟩ : LexicalError).Aligned
        "\n\n\n\n\n\n\n\n\n\t a@ \r\n".toList
        ("Error: UnrecognizedCharacter (unrecognized character '@' at 10:4)\n-> m.c\n" ++
          "   |\n10 | a@\n   | -^\n").toList sourceRow caretRow bar dashes := by
  have herror : tokenize "\n\n\n\n\n\n\n\n\n\t a@ \r\n" =
      .error ⟨.unrecognizedCharacter '@', ⟨10, 4⟩⟩ := by decide +kernel
  have hreport : (⟨.unrecognizedCharacter '@', ⟨10, 4⟩⟩ : LexicalError).report?
      "\n\n\n\n\n\n\n\n\n\t a@ \r\n" "m.c" =
        some ("Error: UnrecognizedCharacter (unrecognized character '@' at 10:4)\n-> m.c\n" ++
          "   |\n10 | a@\n   | -^\n") := by decide +kernel
  exact ⟨herror, report_aligned _ _ _ _ (by decide) herror hreport⟩

end CurlyLex
