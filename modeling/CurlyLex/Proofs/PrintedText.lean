import CurlyLex.Proofs.Counting
import CurlyLex.Proofs.Decomposition

/-!
# A printed text is read back

Lexemes may be printed with any gaps around them, as long as two conditions hold.  There is a gap
between any two lexemes, since otherwise they could run together; and no gap behind a slash begins
with a slash, since otherwise the two would open a comment.  The scan of such a text finds just the
lexemes that were printed, each where it was printed.

* `ClosedGap`, `LastGap` — the gaps that may be printed, inside a text and at its end.
* `Row`, `printed` — a lexeme with the gap behind it, and the text of such rows.
* `Printable` — the conditions on the rows.
* `IsLexeme.lexemeAt` — a lexeme is taken where a printed gap begins behind it.
* `Printable.exists_cut` — a printed text is cut just where it was put together.
* `tokenize_printed` — its scan reads back the lexemes.
-/

namespace CurlyLex

/-! ### Gaps that may be printed -/

/-- Blanks and comments in any order, where every line comment has its line feed. -/
inductive ClosedGap : List Char → Prop
  | nil : ClosedGap []
  | blank {c : Char} {gap : List Char} : Text.isBlank c → ClosedGap gap → ClosedGap (c :: gap)
  | line {body gap : List Char} :
      '\n' ∉ body → ClosedGap gap → ClosedGap ('/' :: '/' :: (body ++ '\n' :: gap))
  | block {body gap : List Char} :
      ¬ ['*', '/'] <:+: body → ClosedGap gap →
      ClosedGap ('/' :: '*' :: (body ++ '*' :: '/' :: gap))

/-- A gap at the end of a text may end in a line comment without a line feed. -/
inductive LastGap : List Char → Prop
  | closed {gap : List Char} : ClosedGap gap → LastGap gap
  | line {gap body : List Char} :
      ClosedGap gap → '\n' ∉ body → LastGap (gap ++ '/' :: '/' :: body)

/-- Where every line comment has its line feed, any gap may follow. -/
theorem ClosedGap.append {gap tail rest : List Char} (h : ClosedGap gap) (htail : IsGap tail rest) :
    IsGap (gap ++ tail) rest := by
  induction h with
  | nil => exact htail
  | blank hc _ ih => exact .blank hc ih
  | @line body gap hbody _ ih =>
    show IsGap ('/' :: '/' :: ((body ++ '\n' :: gap) ++ tail)) rest
    rw [List.append_assoc]
    apply IsGap.line hbody
    · intro c hc
      have hfeed : '\n' = c := by simpa using hc
      exact hfeed.symm
    · exact .blank (by decide) ih
  | @block body gap hbody _ ih =>
    show IsGap ('/' :: '*' :: ((body ++ '*' :: '/' :: gap) ++ tail)) rest
    rw [List.append_assoc]
    exact .block hbody ih

/-- A closed gap is a gap whatever comes behind it. -/
theorem ClosedGap.isGap {gap : List Char} (h : ClosedGap gap) (rest : List Char) :
    IsGap gap rest := by
  have hnil : IsGap [] rest := .nil
  have hgap := h.append hnil
  rw [List.append_nil] at hgap
  exact hgap

theorem LastGap.isGap {gap : List Char} (h : LastGap gap) : IsGap gap [] := by
  cases h with
  | closed h => exact h.isGap []
  | @line gap body h hbody =>
    apply h.append
    have hline : IsGap ('/' :: '/' :: (body ++ [])) [] := .line hbody (by simp) .nil
    rw [List.append_nil] at hline
    exact hline

/-- A gap begins with a blank or a slash. -/
theorem ClosedGap.head {gap : List Char} (h : ClosedGap gap) :
    ∀ c ∈ gap.head?, Text.isBlank c ∨ c = '/' := by
  intro c hc
  cases h with
  | nil => simp at hc
  | @blank d gap hd _ =>
    obtain rfl : d = c := by simpa using hc
    exact .inl hd
  | line _ _ => exact .inr (by simpa using hc.symm)
  | block _ _ => exact .inr (by simpa using hc.symm)

theorem LastGap.head {gap : List Char} (h : LastGap gap) :
    ∀ c ∈ gap.head?, Text.isBlank c ∨ c = '/' := by
  cases h with
  | closed h => exact h.head
  | @line gap body h _ =>
    cases gap with
    | nil =>
      intro c hc
      exact .inr (by simpa using hc.symm)
    | cons d gap => exact h.head

/-! ### Lexemes in front of gaps -/

/-- A lexeme opens no comment with the gap behind it, unless it is a slash and the gap begins with
another. -/
theorem IsLexeme.not_comment {lexeme rest : List Char} {c : Char} (h : IsLexeme lexeme)
    (hhead : ∀ c ∈ rest.head?, Text.isBlank c ∨ c = '/')
    (hslash : lexeme = ['/'] → rest.head? ≠ some '/') (hc : c = '/' ∨ c = '*') :
    ¬ ['/', c] <+: lexeme ++ rest := by
  intro hfront
  obtain ⟨d, tail, rfl⟩ := List.exists_cons_of_ne_nil h.ne_nil
  obtain rfl : '/' = d := head_eq_of_front hfront
  have hsingle := h.eq_slash List.mem_cons_self
  obtain rfl : tail = [] := (List.cons_eq_cons.1 hsingle).2
  obtain ⟨behind, hbehind⟩ := (List.prefix_cons_inj '/').1 hfront
  have hrest : rest.head? = some c := by
    rw [show rest = c :: behind from hbehind.symm]
    rfl
  rcases hc with rfl | rfl
  · exact hslash rfl hrest
  · exact absurd (hhead '*' hrest) (by decide)

/-- A lexeme is the longest where a gap begins behind it: a longer one would have a blank or a slash
in it. -/
theorem IsLexeme.longest {lexeme rest : List Char} (h : IsLexeme lexeme)
    (hhead : ∀ c ∈ rest.head?, Text.isBlank c ∨ c = '/') :
    Longest IsLexeme lexeme (lexeme ++ rest) := by
  refine ⟨List.prefix_append _ _, h, ?_⟩
  intro other hfront hother
  by_contra hlonger
  have hle : lexeme.length ≤ other.length := by omega
  obtain ⟨tail, rfl⟩ := List.prefix_of_prefix_length_le (List.prefix_append _ _) hfront hle
  have htail := (List.prefix_append_right_inj lexeme).1 hfront
  cases tail with
  | nil => simp at hlonger
  | cons c tail =>
    obtain ⟨behind, rfl⟩ := htail
    have hmem : c ∈ lexeme ++ c :: tail := by simp
    rcases hhead c rfl with hblank | rfl
    · exact hother.not_isBlank hmem hblank
    · have hlength := congrArg List.length (hother.eq_slash hmem)
      have hpos := List.length_pos_iff.2 h.ne_nil
      simp only [List.length_append, List.length_cons, List.length_nil] at hlength
      omega

/-- **A lexeme is taken where a gap begins behind it**, unless the two open a comment together. -/
theorem IsLexeme.lexemeAt {lexeme rest : List Char} (h : IsLexeme lexeme)
    (hhead : ∀ c ∈ rest.head?, Text.isBlank c ∨ c = '/')
    (hslash : lexeme = ['/'] → rest.head? ≠ some '/') : LexemeAt lexeme rest := by
  have hline := h.not_comment hhead hslash (.inl rfl)
  have hblock := h.not_comment hhead hslash (.inr rfl)
  refine ⟨h.longest hhead, hline, hblock, ?_⟩
  intro _ c hc
  rcases hhead c hc with hblank | rfl
  · refine ⟨?_, ?_⟩
    · intro hletter
      rw [hletter] at hblank
      exact absurd hblank (by decide)
    · intro hletter
      rw [hletter] at hblank
      exact absurd hblank (by decide)
  · exact ⟨by decide, by decide⟩

/-! ### Printed texts -/

/-- A lexeme and the gap that is printed behind it. -/
structure Row where
  /-- The lexeme. -/
  lexeme : List Char
  /-- The gap behind it. -/
  gap : List Char

/-- The text of some rows, behind a first gap. -/
def printed (lead : List Char) : List Row → List Char
  | [] => lead
  | row :: rows => lead ++ (row.lexeme ++ printed row.gap rows)

/-- Rows that may be printed behind a first gap.  Only the gap at the end may be without the line
feed of a comment, and only the first gap and the one at the end may be empty. -/
inductive Printable : List Char → List Row → Prop
  | last {lead : List Char} : LastGap lead → Printable lead []
  | cons {lead : List Char} {row : Row} {rows : List Row} :
      ClosedGap lead → IsLexeme row.lexeme →
      (row.lexeme = ['/'] → row.gap.head? ≠ some '/') → (rows ≠ [] → row.gap ≠ []) →
      Printable row.gap rows → Printable lead (row :: rows)

theorem Printable.head {lead : List Char} {rows : List Row} (h : Printable lead rows) :
    ∀ c ∈ lead.head?, Text.isBlank c ∨ c = '/' := by
  cases h with
  | last hlead => exact hlead.head
  | cons hlead _ _ _ _ => exact hlead.head

/-- A printed text begins with its first gap, when that is not empty. -/
theorem head?_printed {lead : List Char} {rows : List Row} (h : rows ≠ [] → lead ≠ []) :
    (printed lead rows).head? = lead.head? := by
  cases rows with
  | nil => rfl
  | cons row rows =>
    obtain ⟨c, lead, rfl⟩ := List.exists_cons_of_ne_nil (h (by simp))
    rfl

/-! ### Where a printed text is cut -/

namespace Piece

/-- The row that a piece was printed from. -/
def row (piece : Piece) : Row :=
  ⟨piece.text, piece.gap⟩

theorem printed_map_row (lead : List Char) (pieces : List Piece) :
    printed lead (pieces.map row) = lead ++ join pieces := by
  induction pieces generalizing lead with
  | nil => exact (List.append_nil lead).symm
  | cons piece pieces ih =>
    show lead ++ (piece.text ++ printed piece.gap (pieces.map row)) = _
    rw [ih, join]

end Piece

/-- **A printed text is cut just where it was put together.** -/
theorem Printable.exists_cut {lead : List Char} {rows : List Row} (h : Printable lead rows) :
    ∃ pieces : List Piece, pieces.map Piece.row = rows ∧
      (∀ piece ∈ pieces, piece.kind.Spells piece.text) ∧
      Cut (printed lead rows) lead pieces [] := by
  induction h with
  | @last lead hlead =>
    refine ⟨[], rfl, by simp, ?_, hlead.isGap, .nil⟩
    show lead = lead ++ []
    rw [List.append_nil]
  | @cons lead row rows hlead hlexeme hslash hgap hrows ih =>
    obtain ⟨pieces, hmap, hspells, hcut⟩ := ih
    obtain ⟨kind, hkind, -⟩ := Kind.existsUnique_spells hlexeme
    have hhead := head?_printed hgap
    have hat : LexemeAt row.lexeme (printed row.gap rows) := by
      apply hlexeme.lexemeAt
      · rw [hhead]
        exact hrows.head
      · rw [hhead]
        exact hslash
    refine ⟨⟨row.lexeme, kind, row.gap⟩ :: pieces, ?_, ?_, ?_⟩
    · rw [List.map_cons, hmap]
      rfl
    · intro piece hpiece
      rcases List.mem_cons.1 hpiece with rfl | hpiece
      · exact hkind
      · exact hspells piece hpiece
    · exact hcut.cons (hlead.isGap _) hat hkind

/-! ### What is read back -/

/-- The tokens of a printed text: one for each lexeme, with its text, its kind and the place where it
was printed, and the end of the input behind the whole text. -/
structure ReadsBack (lead : List Char) (rows : List Row) (tokens : List Token) : Prop where
  length : tokens.length = rows.length + 1
  lexeme : ∀ i (h : i < rows.length), ∃ kind position,
    tokens[i]? = some ⟨kind, some (String.ofList rows[i].lexeme), position⟩ ∧
      kind.Spells rows[i].lexeme ∧ position.Marks (printed lead (rows.take i))
  finish : ∃ position, tokens[rows.length]? = some ⟨.endOfInput, none, position⟩ ∧
    position.Marks (printed lead rows)

/-- The tokens of pieces that all have the kinds their lexemes spell. -/
theorem Piece.readsBack {lead : List Char} {pieces : List Piece}
    (hspells : ∀ piece ∈ pieces, piece.kind.Spells piece.text)
    (hshort : (lead ++ join pieces).length < 2 ^ 32 - 1) :
    ReadsBack lead (pieces.map row) (tokens (Position.start.after lead) pieces
      ++ [⟨.endOfInput, none, Position.start.after (lead ++ join pieces)⟩]) := by
  have hlength := length_tokens (Position.start.after lead) pieces
  refine ⟨?_, ?_, ?_⟩
  · rw [List.length_append, hlength, List.length_map, List.length_singleton]
  · intro i hi
    rw [List.length_map] at hi
    rw [List.getElem?_append_left (by omega), getElem?_tokens _ _ _ hi, List.getElem_map,
      ← List.map_take, printed_map_row, ← Position.after_append]
    refine ⟨_, _, rfl, hspells _ (List.getElem_mem hi), Position.marks_after ?_⟩
    have hle := length_join_take pieces i
    rw [List.length_append] at hshort ⊢
    omega
  · refine ⟨Position.start.after (lead ++ join pieces), ?_, ?_⟩
    · rw [List.length_map, ← hlength, List.getElem?_concat_length]
    · rw [printed_map_row]
      exact Position.marks_after hshort

/-- **A printed text is read back**: its scan finds the lexemes that were printed, and nothing
else. -/
theorem tokenize_printed (lead : List Char) (rows : List Row) (h : Printable lead rows)
    (hshort : (printed lead rows).length < 2 ^ 32 - 1) :
    ∃ tokens, tokenize (String.ofList (printed lead rows)) = .ok tokens ∧
      ReadsBack lead rows tokens := by
  obtain ⟨pieces, rfl, hspells, hcut⟩ := h.exists_cut
  rw [Piece.printed_map_row] at hshort hcut ⊢
  rw [← String.toList_ofList (l := lead ++ Piece.join pieces)] at hcut
  refine ⟨_, hcut.tokenize_ok, ?_⟩
  rw [String.toList_ofList]
  exact Piece.readsBack hspells hshort

/-- A word with a comment close behind it, and a slash with a blank between it and the next. -/
theorem tokenize_printed_slash :
    ∃ tokens, tokenize (String.ofList (printed [] [⟨['a'], ['/', '*', '*', '/']⟩,
        ⟨['/'], [' ', '/', '/', '\n']⟩, ⟨['<', '='], ['/', '/']⟩])) = .ok tokens ∧
      ReadsBack [] [⟨['a'], ['/', '*', '*', '/']⟩,
        ⟨['/'], [' ', '/', '/', '\n']⟩, ⟨['<', '='], ['/', '/']⟩] tokens := by
  have hblock : ClosedGap ['/', '*', '*', '/'] := @ClosedGap.block [] [] (by decide) .nil
  have hline : ClosedGap [' ', '/', '/', '\n'] :=
    .blank (by decide) (@ClosedGap.line [] [] (by simp) .nil)
  have hlast : LastGap ['/', '/'] := @LastGap.line [] [] .nil (by simp)
  have hword : IsLexeme ['a'] := .inl ⟨['a'], [], ⟨'a', by decide, rfl⟩, .inl rfl, rfl⟩
  have hslash : IsLexeme ['/'] := .inr (.inr ⟨.slash, rfl⟩)
  have hless : IsLexeme ['<', '='] := .inr (.inr ⟨.lessEqual, rfl⟩)
  apply tokenize_printed
  · apply Printable.cons .nil hword (by decide) (by simp)
    apply Printable.cons hblock hslash (by decide) (by simp)
    apply Printable.cons hline hless (by decide) (by simp)
    exact .last hlast
  · decide

end CurlyLex
