import CurlyLex.Proofs.CaretAlignment

/-!
# Which errors have a report

A report pads two of its parts to a width that is known only when it is written: the margin, which has
room for the digits of the line number, and the row of dashes with the caret.  No width may be more than
`caretLimit`.  The margin never comes near it, and the caret stands on the line of the error or just
behind it, so lines with fewer characters than the limit always have a report.  One character more is
too many: a comment that is opened at the front of such a line and never closed has none.

* `LexicalError.marginWidth_le` — the margin is narrow.
* `FailsAt.exists_line` — an error is on one of the lines of its source, or just behind it.
* `exists_caretWidth_of_unclosed` — how far away the caret is when the source is an open comment.
* `exists_unreported` — so a line with as many characters as the limit may be too long.
* `report_within_limit` — short lines have reports, and a line of `caretLimit` characters has none.
-/

namespace CurlyLex

open Text

/-! ### Widths -/

namespace LexicalError

/-- A line number has ten digits at most, so the margin is narrow. -/
theorem marginWidth_le (error : LexicalError) : error.marginWidth ≤ 12 := by
  have hline : error.position.line.toNat < 10 ^ 10 :=
    error.position.line.toNat_lt.trans (by decide)
  have hdigits := (Nat.length_toDigits_le_iff (by decide) (by decide)).2 hline
  rw [marginWidth, decimal, String.length_ofList]
  omega

/-- The caret is no further away than the column, because the blanks in front only bring it nearer. -/
theorem caretWidth_le {error : LexicalError} {bound : Nat} (source : String) (hpos : 1 ≤ bound)
    (hcolumn : error.position.column.toNat ≤ bound) : error.caretWidth source ≤ bound :=
  Nat.max_le.2 ⟨hpos, (Nat.sub_le _ _).trans hcolumn⟩

/-- **There is a report exactly when the caret is not too far away.** -/
theorem exists_report?_iff (error : LexicalError) (source file : String) :
    (∃ rendered, error.report? source file = some rendered) ↔
      error.caretWidth source ≤ caretLimit := by
  rw [report?]
  split
  · rename_i hle
    exact ⟨fun _ => hle, fun _ => ⟨_, rfl⟩⟩
  · rename_i hmore
    refine ⟨fun hsome => ?_, fun hle => absurd hle hmore⟩
    obtain ⟨rendered, hrendered⟩ := hsome
    simp at hrendered

end LexicalError

/-! ### Short lines -/

/-- **An error of a scan is on one of the lines of its source**, or just behind it. -/
theorem FailsAt.exists_line {source lead rest passed : List Char} {pieces : List Piece}
    {error : LexicalError} (h : FailsAt source lead pieces rest passed error) :
    ∃ line ∈ source.splitOn '\n', error.position.column.toNat ≤ line.length + 1 := by
  obtain ⟨after, rfl⟩ := h.faults.passed_isPrefix
  have hsource : source = lead ++ Piece.join pieces ++ passed ++ after := by
    rw [h.cut.text_eq]
    simp
  have hline := h.marks.exists_line after
  rwa [← hsource] at hline

/-! ### A line that is an open comment -/

/-- The caret stands under the last column when the line before it begins with something visible. -/
theorem LexicalError.caretWidth_of_visible {error : LexicalError} {source : String} {c : Char}
    {tail : List Char} (hline : error.sourceLine source = c :: tail) (hvisible : ¬ isBlank c)
    (hcolumn : 1 ≤ error.position.column.toNat) :
    error.caretWidth source = error.position.column.toNat := by
  rw [caretWidth, hline, indentation_eq, List.takeWhile_cons_of_neg hvisible, List.length_nil,
    Nat.sub_zero]
  exact Nat.max_eq_right hcolumn

/-- **The caret of an open comment stands just behind it**, when the comment is all of the source and
on a single line. -/
theorem exists_caretWidth_of_unclosed {body : List Char} (hclose : ¬ ['*', '/'] <:+: body)
    (hfeed : '\n' ∉ body) (hshort : body.length + 2 < 2 ^ 32 - 1) :
    ∃ error, tokenize (String.ofList ('/' :: '*' :: body)) = .error error ∧
      error.caretWidth (String.ofList ('/' :: '*' :: body)) = body.length + 3 := by
  generalize hrow : '/' :: '*' :: body = row
  have hlength : row.length = body.length + 2 := by
    rw [← hrow]
    rfl
  have hlast : lastLine row = row := by
    have hnone : '\n' ∉ row := by
      rw [← hrow]
      simpa using hfeed
    exact lastLine_append hnone []
  have hcut : Cut (String.ofList row).toList [] [] row := by
    rw [String.toList_ofList]
    exact ⟨rfl, .nil, .nil⟩
  have hfaults : Faults row row .unterminatedComment := .unclosed ⟨body, hrow.symm, hclose⟩
  have herror : tokenize (String.ofList row) =
      .error ⟨.unterminatedComment, Position.start.after row⟩ := hcut.tokenize_error hfaults
  have hmarks : (Position.start.after row).Marks row := Position.marks_after (by omega)
  have hcolumn : (Position.start.after row).column.toNat = 1 + (lastLine row).length := hmarks.column
  have hsource : (String.ofList row).toList = row ++ [] := by
    rw [String.toList_ofList, List.append_nil]
  have hline : LexicalError.sourceLine ⟨.unterminatedComment, Position.start.after row⟩
      (String.ofList row) = chomp (lastLine row ++ []) := LexicalError.sourceLine_eq hmarks hsource
  rw [hlast] at hcolumn
  rw [hlast, List.append_nil] at hline
  obtain ⟨shown, hshown⟩ : ['/'] <+: chomp row :=
    isPrefix_chomp ⟨'*' :: body, hrow⟩ (by simp)
  refine ⟨_, herror, ?_⟩
  have hpos : 1 ≤ (Position.start.after row).column.toNat := by omega
  rw [LexicalError.caretWidth_of_visible (hline.trans hshown.symm) (by decide) hpos]
  exact hcolumn.trans (by omega)

/-- **A line of as many characters as the limit may have an error without a report**, and so may any
longer line. -/
theorem exists_unreported {n : Nat} (hlong : caretLimit ≤ n) (hshort : n < 2 ^ 32 - 1) :
    ∃ source error, source.toList.splitOn '\n' = [source.toList] ∧ source.length = n ∧
      tokenize source = .error error ∧ caretLimit < error.caretWidth source := by
  obtain ⟨m, rfl⟩ : ∃ m, n = m + 2 := ⟨n - 2, by rw [caretLimit] at hlong; omega⟩
  have hletters : ∀ c, c ≠ 'x' → c ∉ List.replicate m 'x' :=
    fun c hc hmem => hc (List.eq_of_mem_replicate hmem)
  have hclose : ¬ ['*', '/'] <:+: List.replicate m 'x' :=
    fun hclose => hletters '*' (by decide) (hclose.subset List.mem_cons_self)
  obtain ⟨error, herror, hwidth⟩ := exists_caretWidth_of_unclosed hclose
    (hletters '\n' (by decide)) (by rw [List.length_replicate]; exact hshort)
  rw [List.length_replicate] at hwidth
  refine ⟨_, error, List.splitOn_eq_singleton ?_, ?_, herror, by omega⟩
  · rw [String.toList_ofList]
    simp
  · rw [String.length_ofList, List.length_cons, List.length_cons, List.length_replicate]

/-! ### The limit -/

/-- **Every error of a scan has a report when no line has more than 65534 characters**, and no width
in it goes beyond the limit.  This is as long as lines may be: there is a source of a single line, with
one character more, that has an error without a report. -/
theorem report_within_limit :
    (∀ (source file : String) (error : LexicalError), source.length < 2 ^ 32 - 1 →
      (∀ line ∈ source.toList.splitOn '\n', line.length ≤ 65534) →
      tokenize source = .error error →
      error.marginWidth ≤ caretLimit ∧ error.caretWidth source ≤ caretLimit ∧
        ∃ rendered, error.report? source file = some rendered) ∧
    ∃ source error, source.toList.splitOn '\n' = [source.toList] ∧ source.length = 65535 ∧
      tokenize source = .error error ∧ caretLimit < error.caretWidth source ∧
      ∀ file, error.report? source file = none := by
  refine ⟨?_, ?_⟩
  · intro source file error hshort hlines herror
    obtain ⟨lead, pieces, rest, passed, hfails⟩ := FailsAt.exists_of_error herror hshort
    obtain ⟨line, hmem, hcolumn⟩ := hfails.exists_line
    have hline := hlines line hmem
    have hwidth : error.caretWidth source ≤ caretLimit :=
      LexicalError.caretWidth_le source (by decide) (hcolumn.trans (Nat.succ_le_succ hline))
    exact ⟨error.marginWidth_le.trans (by decide), hwidth,
      (error.exists_report?_iff source file).2 hwidth⟩
  · obtain ⟨source, error, hline, hlength, herror, hfar⟩ :=
      exists_unreported (n := 65535) (Nat.le_refl _) (by decide)
    refine ⟨source, error, hline, hlength, herror, hfar, fun file => ?_⟩
    rw [LexicalError.report?, if_neg (Nat.not_le.2 hfar)]

/-- A number that runs into an exponent mark, on an indented line behind a line feed. -/
theorem report_within_limit_indented :
    tokenize "x\n\t 1.5e+" = .error ⟨.malformedExponent "1.5e", ⟨2, 7⟩⟩ ∧
      ∃ rendered, (⟨.malformedExponent "1.5e", ⟨2, 7⟩⟩ : LexicalError).report?
        "x\n\t 1.5e+" "m.c" = some rendered := by
  have herror : tokenize "x\n\t 1.5e+" = .error ⟨.malformedExponent "1.5e", ⟨2, 7⟩⟩ := by
    decide +kernel
  exact ⟨herror, (report_within_limit.1 _ "m.c" _ (by decide) (by decide +kernel) herror).2.2⟩

end CurlyLex
