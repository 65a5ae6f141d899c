import CurlyLex.Proofs.Counting
import CurlyLex.Report

/-!
# The source line of a position

The line that a position stands on consists of what lies between the last line feed before the
position and the first one after it.  A report quotes this line without its blanks, and points with
a caret whose place depends on the blanks at the front; of the source it shows nothing else.

* `Text.lastLine` — what comes behind the last line feed.
* `Text.dropLines_count` — as many lines as there are line feeds are dropped up to the last of them.
* `Text.getElem?_splitOn`, `Text.mem_splitOn` — the lines are the parts between the line feeds.
* `Position.Marks.line?` — the line that the number of a position finds; `Position.Marks.exists_line` —
  its column lies on that line.
* `LexicalError.LooksLike` — lines that look alike in a report; `LexicalError.looksLike_chomp` — a
  carriage return at the end of a line cannot be seen.
* `LexicalError.report?_congr` — where the lines look alike, the reports are the same.
* `LexicalError.sourceLine_eq` — an error is shown beside the line it stands on.
-/

namespace CurlyLex

namespace Text

/-! ### Lines before and behind -/

/-- The characters behind the last line feed. -/
def lastLine (text : List Char) : List Char :=
  text.rtakeWhile fun c => c != '\n'

theorem firstLine_append {front : List Char} (h : '\n' ∉ front) (rest : List Char) :
    firstLine (front ++ rest) = front ++ firstLine rest := by
  apply List.takeWhile_append_of_pos
  intro c hc
  simpa using fun heq : c = '\n' => h (heq ▸ hc)

theorem not_mem_lastLine (text : List Char) : '\n' ∉ lastLine text := by
  intro h
  simpa using List.mem_rtakeWhile_imp h

theorem lastLine_append {back : List Char} (h : '\n' ∉ back) (text : List Char) :
    lastLine (text ++ back) = lastLine text ++ back := by
  have hback : ∀ c ∈ back.reverse, (c != '\n') = true := by
    intro c hc
    simpa using fun heq : c = '\n' => h (heq ▸ List.mem_reverse.1 hc)
  rw [lastLine, List.rtakeWhile, List.reverse_append, List.takeWhile_append_of_pos hback,
    List.reverse_append, List.reverse_reverse]
  rfl

theorem lastLine_feed (text : List Char) : lastLine (text ++ ['\n']) = [] :=
  List.rtakeWhile_concat_neg _ _ _ (by simp)

theorem lastLine_append_feed (text back : List Char) :
    lastLine (text ++ '\n' :: back) = lastLine back := by
  induction back using List.reverseRecOn with
  | nil => exact lastLine_feed text
  | append_singleton back c ih =>
    rw [← List.cons_append, ← List.append_assoc]
    by_cases hc : c = '\n'
    · rw [hc, lastLine_feed, lastLine_feed]
    · have hmem : '\n' ∉ [c] := by simpa using Ne.symm hc
      rw [lastLine_append hmem, lastLine_append hmem, ih]

/-- **As many lines as there are line feeds in a text are dropped with it**, up to its last line. -/
theorem dropLines_count (before after : List Char) :
    dropLines (before.count '\n') (before ++ after) = some (lastLine before ++ after) := by
  induction before with
  | nil =>
    rw [List.count_nil, dropLines]
    rfl
  | cons c before ih =>
    by_cases hc : c = '\n'
    · subst hc
      rw [List.count_cons_self, List.cons_append, dropLines, if_pos rfl, ih,
        ← lastLine_append_feed [] before]
      rfl
    · rw [List.count_cons_of_ne hc, List.cons_append]
      cases hcount : before.count '\n' with
      | zero =>
        have hbefore : '\n' ∉ c :: before := by
          simpa [Ne.symm hc] using List.count_eq_zero.1 hcount
        have hline := lastLine_append hbefore []
        rw [List.nil_append] at hline
        rw [hline]
        rfl
      | succ n =>
        have hfeed : '\n' ∈ before := List.count_pos_iff.1 (by omega)
        obtain ⟨front, back, rfl⟩ := List.append_of_mem hfeed
        rw [hcount, lastLine_append_feed] at ih
        rw [dropLines, if_neg hc, ih, ← List.cons_append, lastLine_append_feed]

/-- The line behind so many line feeds, with the next number. -/
theorem line?_count (before after : List Char) :
    line? (before ++ after) (1 + before.count '\n') =
      some (chomp (lastLine before ++ firstLine after)) := by
  rw [Nat.add_comm, line?, dropLines_count, Option.map_some,
    firstLine_append (not_mem_lastLine before)]

/-- The first part of a text that is split at its line feeds is its first line. -/
theorem head?_splitOn (text : List Char) : (text.splitOn '\n').head? = some (firstLine text) := by
  induction text with
  | nil => rfl
  | cons c text ih =>
    rw [List.splitOn_cons_eq_if_modifyHead]
    by_cases hc : c = '\n'
    · subst hc
      rfl
    · have hmem : '\n' ∉ [c] := by simpa using Ne.symm hc
      rw [if_neg (by simpa using hc), List.head?_modifyHead, ih, ← List.singleton_append,
        firstLine_append hmem]
      rfl

/-- **The parts of a text that is split at its line feeds are its lines**, in order. -/
theorem getElem?_splitOn (text : List Char) (n : Nat) :
    (text.splitOn '\n')[n]? = (dropLines n text).map firstLine := by
  fun_induction dropLines n text with
  | case1 text =>
    rw [← List.head?_eq_getElem?, head?_splitOn]
    rfl
  | case2 n => rfl
  | case3 n text ih =>
    rw [List.splitOn_cons_eq_if_modifyHead, if_pos (by simp), List.getElem?_cons_succ, ih]
  | case4 n c text hc ih =>
    rw [List.splitOn_cons_eq_if_modifyHead, if_neg (by simpa using hc), ← ih]
    cases text.splitOn '\n' with
    | nil => rfl
    | cons first others => rfl

/-- Wherever a text is divided, the line on which this happens is one of its lines. -/
theorem mem_splitOn (before after : List Char) :
    lastLine before ++ firstLine after ∈ (before ++ after).splitOn '\n' := by
  have hline := getElem?_splitOn (before ++ after) (before.count '\n')
  rw [dropLines_count, Option.map_some, firstLine_append (not_mem_lastLine before)] at hline
  exact List.mem_of_getElem? hline

/-! ### What can be seen of a line -/

/-- A line ends with one carriage return more than without it, or with none. -/
theorem chomp_cases (line : List Char) : chomp line = line ∨ line = chomp line ++ ['\r'] := by
  rw [chomp]
  split
  · rename_i hlast
    obtain ⟨front, rfl⟩ := List.getLast?_eq_some_iff.1 hlast
    right
    rw [List.dropLast_concat]
  · exact .inl rfl

theorem chomp_concat (line : List Char) : chomp (line ++ ['\r']) = line := by
  rw [chomp, if_pos List.getLast?_concat, List.dropLast_concat]

/-- What stands at the front of a line and does not end with a carriage return is not cut off. -/
theorem isPrefix_chomp {front line : List Char} (h : front <+: line)
    (hlast : front.getLast? ≠ some '\r') : front <+: chomp line := by
  rcases chomp_cases line with hsame | hmore
  · rw [hsame]
    exact h
  · rw [hmore] at h
    rcases List.prefix_concat_iff.1 h with hall | hfront
    · rw [hall, List.getLast?_concat] at hlast
      exact absurd rfl hlast
    · exact hfront

/-- A line has no line feed. -/
theorem not_mem_of_line? {text line : List Char} {n : Nat} (h : line? text n = some line) :
    '\n' ∉ line := by
  cases n with
  | zero => simp [line?] at h
  | succ n =>
    rw [line?, Option.map_eq_some_iff] at h
    obtain ⟨rest, -, rfl⟩ := h
    intro hmem
    have hfirst : '\n' ∈ firstLine rest := by
      rcases chomp_cases (firstLine rest) with hsame | hmore
      · rwa [hsame] at hmem
      · rw [hmore]
        exact List.mem_append_left _ hmem
    simpa using List.mem_takeWhile_imp hfirst

theorem trimStart_concat {c d : Char} {line : List Char} (hd : d ∈ line) (hvisible : ¬ isBlank d) :
    trimStart (line ++ [c]) = trimStart line ++ [c] := by
  rw [trimStart, List.dropWhile_append, if_neg]
  · rfl
  · rw [List.isEmpty_iff, List.dropWhile_eq_nil_iff]
    exact fun hall => hvisible (hall d hd)

theorem trimEnd_concat {c : Char} (hc : isBlank c) (line : List Char) :
    trimEnd (line ++ [c]) = trimEnd line := by
  rw [trimEnd, List.reverse_append, List.reverse_singleton, List.singleton_append,
    List.dropWhile_cons_of_pos hc, trimEnd]

end Text

/-- **The line of a position** is found by its number. -/
theorem Position.Marks.line? {position : Position} {before : List Char} (h : position.Marks before)
    (after : List Char) :
    Text.line? (before ++ after) position.line.toNat =
      some (Text.chomp (Text.lastLine before ++ Text.firstLine after)) := by
  rw [h.line, Text.line?_count]

/-- **The column of a position lies on a line of the source**, or just behind it. -/
theorem Position.Marks.exists_line {position : Position} {before : List Char}
    (h : position.Marks before) (after : List Char) :
    ∃ line ∈ (before ++ after).splitOn '\n', position.column.toNat ≤ line.length + 1 := by
  have hcolumn : position.column.toNat = 1 + (Text.lastLine before).length := h.column
  refine ⟨_, Text.mem_splitOn before after, ?_⟩
  rw [hcolumn, List.length_append]
  omega

namespace LexicalError

open Text

/-- Two lines look alike when they are as far indented as each other and show the same text. -/
structure LooksLike (line other : List Char) : Prop where
  indentation : indentation line = indentation other
  shown : trimEnd (trimStart line) = trimEnd (trimStart other)

theorem LooksLike.refl (line : List Char) : LooksLike line line :=
  ⟨rfl, rfl⟩

/-- A blank behind something visible cannot be seen. -/
theorem looksLike_concat {c d : Char} {line : List Char} (hd : d ∈ line) (hvisible : ¬ isBlank d)
    (hc : isBlank c) : LooksLike (line ++ [c]) line := by
  have hstart := trimStart_concat (c := c) hd hvisible
  refine ⟨?_, ?_⟩
  · rw [LexicalError.indentation, hstart, LexicalError.indentation, List.length_append,
      List.length_append, Nat.add_sub_add_right]
  · rw [hstart, trimEnd_concat hc]

/-- **A carriage return at the end of a line cannot be seen**, if anything can be seen of the line. -/
theorem looksLike_chomp {d : Char} {line : List Char} (hd : d ∈ line) (hvisible : ¬ isBlank d) :
    LooksLike line (chomp line) := by
  rcases chomp_cases line with hsame | hmore
  · rw [hsame]
    exact .refl line
  · rw [hmore] at hd
    have hfront : d ∈ chomp line := by
      rcases List.mem_append.1 hd with hfront | hreturn
      · exact hfront
      · obtain rfl := List.mem_singleton.1 hreturn
        exact absurd (by decide) hvisible
    have hlooks := looksLike_concat hfront hvisible (show isBlank '\r' by decide)
    rwa [← hmore] at hlooks

/-! ### What a report shows of its source -/

/-- **Where the lines of an error look alike, its reports are the same.** -/
theorem report?_congr {error : LexicalError} {source other : String}
    (h : LooksLike (error.sourceLine source) (error.sourceLine other)) (file : String) :
    error.report? source file = error.report? other file := by
  have hcaret : error.caretWidth source = error.caretWidth other := by
    rw [caretWidth, h.indentation, caretWidth]
  have hrows : error.reportRows source file = error.reportRows other file := by
    rw [reportRows, sourceRow, h.shown, caretRow, hcaret]
    rfl
  rw [report?, hcaret, hrows, report?]

/-- **An error is shown beside the line it stands on.** -/
theorem sourceLine_eq {error : LexicalError} {source : String} {before after : List Char}
    (hmarks : error.position.Marks before) (hsource : source.toList = before ++ after) :
    error.sourceLine source = chomp (lastLine before ++ firstLine after) := by
  rw [sourceLine, hsource, hmarks.line?]
  rfl

end LexicalError

end CurlyLex
