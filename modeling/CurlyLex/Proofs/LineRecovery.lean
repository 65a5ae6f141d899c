import CurlyLex.Proofs.SourceLines

/-!
# A text can be recovered from its lines

Looking up a line gives a part of the text between two of its line feeds, or before the first or behind
the last of them, without one carriage return at its end.  There is one line more than there are line
feeds, and nothing is lost: the lines make up the text again, when each of them gets back the carriage
return that was taken off and line feeds are put between them.

* `Text.isSome_dropLines`, `Text.isSome_line?_iff` — which lines there are.
* `Text.LineAt` — a line in its place in the text; `Text.line?_eq_some_iff` — this is what is looked up.
* `Text.Rows` — all lines of a text with what was taken off; `Text.exists_rows` — there are such rows,
  and `Text.Rows.map_eq` — they are the parts between the line feeds.
* `Text.lines_recover_text` — looking up lines undoes joining them.
-/

namespace CurlyLex

namespace Text

/-! ### Which lines there are -/

theorem isSome_dropLines (n : Nat) (text : List Char) :
    (dropLines n text).isSome ↔ n ≤ text.count '\n' := by
  fun_induction dropLines n text with
  | case1 text => simp
  | case2 n => simp
  | case3 n text ih => rw [ih, List.count_cons_self, Nat.succ_le_succ_iff]
  | case4 n c text hc ih => rw [ih, List.count_cons_of_ne hc]

/-- **There is one line more than there are line feeds**, and the first has the number one. -/
theorem isSome_line?_iff (text : List Char) (n : Nat) :
    (line? text n).isSome ↔ 1 ≤ n ∧ n ≤ 1 + text.count '\n' := by
  cases n with
  | zero => simp [line?]
  | succ n =>
    rw [line?, Option.isSome_map, isSome_dropLines]
    omega

/-! ### Lines in their places -/

/-- The part `line` of a text is its line of number `n`, and `ending` is the carriage return that was taken
off, if there was one.  What comes before is empty or ends with the last of `n - 1` line feeds, and what
comes behind is empty or begins with the next. -/
structure LineAt (text : List Char) (n : Nat) (before line ending after : List Char) : Prop where
  text_eq : text = before ++ ((line ++ ending) ++ after)
  number : n = 1 + before.count '\n'
  starts : before = [] ∨ before.getLast? = some '\n'
  whole : '\n' ∉ line
  taken : ending = [] ∨ ending = ['\r']
  chomped : line.getLast? = some '\r' → ending = ['\r']
  stops : after = [] ∨ after.head? = some '\n'

/-- What is dropped with so many lines is empty or ends with the last of as many line feeds. -/
theorem exists_before {n : Nat} {text rest : List Char} (h : dropLines n text = some rest) :
    ∃ before, text = before ++ rest ∧ before.count '\n' = n ∧
      (before = [] ∨ before.getLast? = some '\n') := by
  fun_induction dropLines n text with
  | case1 text =>
    obtain rfl := Option.some.inj h
    exact ⟨[], rfl, rfl, .inl rfl⟩
  | case2 n => simp at h
  | case3 n text ih =>
    obtain ⟨before, rfl, hcount, hstarts⟩ := ih h
    refine ⟨'\n' :: before, rfl, by rw [List.count_cons_self, hcount], .inr ?_⟩
    rcases hstarts with rfl | hlast
    · rfl
    · rw [List.getLast?_cons, hlast]
      rfl
  | case4 n c text hc ih =>
    obtain ⟨before, rfl, hcount, hstarts⟩ := ih h
    refine ⟨c :: before, rfl, by rw [List.count_cons_of_ne hc, hcount], .inr ?_⟩
    rcases hstarts with rfl | hlast
    · simp at hcount
    · rw [List.getLast?_cons, hlast]
      rfl

/-- What is taken off the end of a line. -/
def lineEnding (line : List Char) : List Char :=
  if line.getLast? = some '\r' then ['\r'] else []

theorem chomp_append_lineEnding (line : List Char) : chomp line ++ lineEnding line = line := by
  rw [chomp, lineEnding]
  split
  · rename_i hlast
    obtain ⟨front, rfl⟩ := List.getLast?_eq_some_iff.1 hlast
    rw [List.dropLast_concat]
  · exact List.append_nil line

theorem lineEnding_cases (line : List Char) : lineEnding line = [] ∨ lineEnding line = ['\r'] := by
  rw [lineEnding]
  split
  · exact .inr rfl
  · exact .inl rfl

/-- A carriage return is left at the end of a line only when another was taken off. -/
theorem lineEnding_of_getLast? {line : List Char} (h : (chomp line).getLast? = some '\r') :
    lineEnding line = ['\r'] := by
  rw [lineEnding, if_pos]
  by_contra hlast
  rw [chomp, if_neg hlast] at h
  exact hlast h

/-- What comes behind the first line is empty or begins with a line feed. -/
theorem behind_firstLine (text : List Char) :
    (text.dropWhile fun c => c != '\n') = [] ∨
      (text.dropWhile fun c => c != '\n').head? = some '\n' := by
  have hnot := List.head?_dropWhile_not (fun c => c != '\n') text
  cases hbehind : text.dropWhile fun c => c != '\n' with
  | nil => exact .inl rfl
  | cons c tail =>
    rw [hbehind] at hnot
    obtain rfl : c = '\n' := by simpa using hnot
    exact .inr rfl

/-- The characters of a line come before the first line feed, if there is one behind them. -/
theorem firstLine_append_stops {front after : List Char} (hfront : '\n' ∉ front)
    (hstops : after = [] ∨ after.head? = some '\n') : firstLine (front ++ after) = front := by
  have hnil : firstLine after = [] := by
    rcases hstops with rfl | hhead
    · rfl
    · obtain ⟨tail, rfl⟩ := List.head?_eq_some_iff.1 hhead
      rfl
  rw [firstLine_append hfront, hnil, List.append_nil]

namespace LineAt

variable {text before line ending after : List Char} {n : Nat}

/-- There is no line feed in what is taken off. -/
theorem not_mem (h : LineAt text n before line ending after) : '\n' ∉ line ++ ending := by
  intro hmem
  rcases List.mem_append.1 hmem with hline | hending
  · exact h.whole hline
  · rcases h.taken with hnil | hreturn
    · simp [hnil] at hending
    · simp [hreturn] at hending

/-- What is left when the lines before it are dropped begins with the line. -/
theorem dropLines_eq {k : Nat} (h : LineAt text (k + 1) before line ending after) :
    (dropLines k text).map firstLine = some (line ++ ending) := by
  have hcount : before.count '\n' = k := by
    have hnumber := h.number
    omega
  have hlast : lastLine before = [] := by
    rcases h.starts with rfl | hfeed
    · rfl
    · obtain ⟨front, rfl⟩ := List.getLast?_eq_some_iff.1 hfeed
      exact lastLine_feed front
  rw [h.text_eq, ← hcount, dropLines_count, hlast, List.nil_append, Option.map_some,
    firstLine_append_stops h.not_mem h.stops]

theorem chomp_eq (h : LineAt text n before line ending after) : chomp (line ++ ending) = line := by
  rcases h.taken with rfl | rfl
  · rw [List.append_nil, chomp, if_neg]
    intro hlast
    exact absurd (h.chomped hlast) (by simp)
  · exact chomp_concat line

end LineAt

/-- Behind so many lines the next one is in its place. -/
theorem exists_lineAt {n : Nat} {text rest : List Char} (h : dropLines n text = some rest) :
    ∃ before after,
      LineAt text (n + 1) before (chomp (firstLine rest)) (lineEnding (firstLine rest)) after := by
  obtain ⟨before, htext, hcount, hstarts⟩ := exists_before h
  have hline : line? text (n + 1) = some (chomp (firstLine rest)) := by
    rw [line?, h, Option.map_some]
  refine ⟨before, rest.dropWhile fun c => c != '\n', ?_, by omega, hstarts, not_mem_of_line? hline,
    lineEnding_cases _, lineEnding_of_getLast?, behind_firstLine rest⟩
  rw [chomp_append_lineEnding, firstLine, List.takeWhile_append_dropWhile, htext]

/-- **What is looked up is the line in its place**, with one carriage return taken off. -/
theorem line?_eq_some_iff {text line : List Char} {n : Nat} :
    line? text n = some line ↔ ∃ before ending after, LineAt text n before line ending after := by
  constructor
  · intro h
    cases n with
    | zero => simp [line?] at h
    | succ n =>
      rw [line?, Option.map_eq_some_iff] at h
      obtain ⟨rest, hdrop, rfl⟩ := h
      obtain ⟨before, after, hline⟩ := exists_lineAt hdrop
      exact ⟨before, _, after, hline⟩
  · intro h
    obtain ⟨before, ending, after, hline⟩ := h
    cases n with
    | zero =>
      have hnumber := hline.number
      omega
    | succ n =>
      obtain ⟨rest, hdrop, hfirst⟩ := Option.map_eq_some_iff.1 hline.dropLines_eq
      rw [line?, hdrop, Option.map_some, hfirst, hline.chomp_eq]

/-! ### All lines of a text -/

/-- The rows of a text: each of its lines, in order, with what was taken off where it was looked up. -/
structure Rows (text : List Char) (rows : List (List Char × List Char)) : Prop where
  length_eq : rows.length = 1 + text.count '\n'
  row : ∀ i line ending, rows[i]? = some (line, ending) →
    line? text (i + 1) = some line ∧ ∃ before after, LineAt text (i + 1) before line ending after

/-- **The rows of a text are the parts between its line feeds.** -/
theorem Rows.map_eq {text : List Char} {rows : List (List Char × List Char)} (h : Rows text rows) :
    (rows.map fun row => row.1 ++ row.2) = text.splitOn '\n' := by
  apply List.ext_getElem?
  intro i
  rw [List.getElem?_map, getElem?_splitOn]
  cases hrow : rows[i]? with
  | none =>
    have hlength := List.getElem?_eq_none_iff.1 hrow
    rw [h.length_eq] at hlength
    have hnone : dropLines i text = none := by
      rw [← Option.not_isSome_iff_eq_none, isSome_dropLines]
      omega
    rw [hnone]
    rfl
  | some row =>
    obtain ⟨line, ending⟩ := row
    obtain ⟨-, before, after, hline⟩ := h.row i line ending hrow
    rw [hline.dropLines_eq]
    rfl

/-- A text has as many parts as lines. -/
theorem length_splitOn (text : List Char) : (text.splitOn '\n').length = 1 + text.count '\n' := by
  induction text with
  | nil => rfl
  | cons c text ih =>
    rw [List.splitOn_cons_eq_if_modifyHead]
    by_cases hc : c = '\n'
    · subst hc
      rw [if_pos (by simp), List.length_cons, ih, List.count_cons_self]
      omega
    · rw [if_neg (by simpa using hc), List.length_modifyHead, ih, List.count_cons_of_ne hc]

/-- **Every text has rows.** -/
theorem exists_rows (text : List Char) : ∃ rows, Rows text rows := by
  refine ⟨(text.splitOn '\n').map fun part => (chomp part, lineEnding part), ?_, ?_⟩
  · rw [List.length_map, length_splitOn]
  · intro i line ending hrow
    rw [List.getElem?_map, getElem?_splitOn, Option.map_map, Option.map_eq_some_iff] at hrow
    obtain ⟨rest, hdrop, hparts⟩ := hrow
    obtain ⟨rfl, rfl⟩ := Prod.mk.inj hparts
    refine ⟨?_, exists_lineAt hdrop⟩
    rw [line?, hdrop]
    rfl

/-- **Looking up lines undoes joining them.** -/
theorem lines_recover_text (text : List Char) :
    (∀ n, (line? text n).isSome ↔ 1 ≤ n ∧ n ≤ 1 + text.count '\n') ∧
    (∀ n line, line? text n = some line ↔
      ∃ before ending after, LineAt text n before line ending after) ∧
    (∃ rows, Rows text rows) ∧
    ∀ rows, Rows text rows → ['\n'].intercalate (rows.map fun row => row.1 ++ row.2) = text := by
  refine ⟨isSome_line?_iff text, fun n line => line?_eq_some_iff, exists_rows text, ?_⟩
  intro rows hrows
  rw [hrows.map_eq, List.intercalate_splitOn]

/-- Of two carriage returns at the end of a line one is taken off, and behind the last line feed there is
a line without characters. -/
example : (List.range 4).map (line? "a\r\r\n\r\n".toList) =
    [none, some ['a', '\r'], some [], some []] := by
  decide

end Text

end CurlyLex
