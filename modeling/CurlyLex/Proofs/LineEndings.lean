import CurlyLex.Proofs.Lookahead
import CurlyLex.Proofs.SourceLines

/-!
# Line endings

A source may end its lines with a line feed, or with a carriage return and a line feed.  The carriage
return is a column of its own, but the line feed behind it starts a new line.  Between lexemes it is
a blank, in comments it is a part of the comment, and at the end of a quoted line it is not shown.  So
scans and reports are the same for both.

* `Text.crlf` — a text with a carriage return before each line feed.
* `Text.clips_crlf`, `Text.close_crlf` — nothing new stands before the first blank, and no comment is
  closed earlier.
* `IsGap.crlf`, `Cut.crlf`, `Faults.crlf` — gaps, cuts and faults keep their places.
* `Position.Marks.crlf` — so do positions.
* `LexicalError.looksLike_crlf` — the line of an error looks the same.
* `tokenize_crlf` — scans and reports with both line endings.
-/

namespace CurlyLex

namespace Text

/-! ### Texts with carriage returns -/

/-- A text with a carriage return before each line feed. -/
def crlf (text : List Char) : List Char :=
  text.flatMap fun c => if c = '\n' then ['\r', '\n'] else [c]

theorem crlf_append (first second : List Char) :
    crlf (first ++ second) = crlf first ++ crlf second :=
  List.flatMap_append

theorem crlf_feed (text : List Char) : crlf ('\n' :: text) = '\r' :: '\n' :: crlf text := rfl

theorem crlf_cons {c : Char} (hc : c ≠ '\n') (text : List Char) :
    crlf (c :: text) = c :: crlf text := by
  rw [crlf, List.flatMap_cons, if_neg hc]
  rfl

theorem crlf_of_not_mem {text : List Char} (h : '\n' ∉ text) : crlf text = text := by
  induction text with
  | nil => rfl
  | cons c text ih =>
    have hc : c ≠ '\n' := fun heq => h (heq ▸ List.mem_cons_self)
    rw [crlf_cons hc, ih fun hmem => h (List.mem_cons_of_mem c hmem)]

/-- A text in which nothing is blank is left as it is. -/
theorem crlf_solid {text : List Char} (h : ∀ c ∈ text, ¬ isBlank c) : crlf text = text :=
  crlf_of_not_mem fun hfeed => h _ hfeed (by decide)

theorem length_le_crlf (text : List Char) : text.length ≤ (crlf text).length := by
  induction text with
  | nil => exact Nat.le_refl _
  | cons c text ih =>
    by_cases hc : c = '\n'
    · rw [hc, crlf_feed, List.length_cons, List.length_cons, List.length_cons]
      omega
    · rw [crlf_cons hc, List.length_cons, List.length_cons]
      omega

theorem count_crlf (text : List Char) : (crlf text).count '\n' = text.count '\n' := by
  induction text with
  | nil => rfl
  | cons c text ih =>
    by_cases hc : c = '\n'
    · rw [hc, crlf_feed, List.count_cons_of_ne (by decide), List.count_cons_self, ih,
        List.count_cons_self]
    · rw [crlf_cons hc, List.count_cons_of_ne hc, ih, List.count_cons_of_ne hc]

theorem lastLine_crlf (text : List Char) : lastLine (crlf text) = lastLine text := by
  induction text using List.reverseRecOn with
  | nil => rfl
  | append_singleton text c ih =>
    rw [crlf_append]
    by_cases hc : c = '\n'
    · subst hc
      rw [lastLine_feed, show crlf ['\n'] = ['\r'] ++ ['\n'] from rfl, ← List.append_assoc,
        lastLine_feed]
    · have hmem : '\n' ∉ [c] := by simpa using Ne.symm hc
      rw [crlf_of_not_mem hmem, lastLine_append hmem, lastLine_append hmem, ih]

theorem firstLine_crlf {text : List Char} (h : '\n' ∈ text) :
    firstLine (crlf text) = firstLine text ++ ['\r'] := by
  induction text with
  | nil => simp at h
  | cons c text ih =>
    by_cases hc : c = '\n'
    · rw [hc, crlf_feed]
      rfl
    · have hcons : ∀ rest, firstLine (c :: rest) = c :: firstLine rest :=
        fun rest => firstLine_append (by simpa using Ne.symm hc : '\n' ∉ [c]) rest
      have htext : '\n' ∈ text := by simpa [Ne.symm hc] using h
      rw [crlf_cons hc, hcons, ih htext, hcons, List.cons_append]

/-- Nothing new stands before the first blank. -/
theorem clips_crlf (text : List Char) : Clips text (crlf text) := by
  induction text with
  | nil => exact .of_isPrefix (List.prefix_refl _)
  | cons c text ih =>
    by_cases hc : c = '\n'
    · rw [hc, crlf_feed]
      exact .of_blank (by decide) _ _
    · rw [crlf_cons hc]
      exact ih.cons c

/-- No close of a comment is made. -/
theorem close_crlf {text : List Char} (h : ['*', '/'] <:+: crlf text) : ['*', '/'] <:+: text := by
  induction text with
  | nil => exact h
  | cons c text ih =>
    by_cases hc : c = '\n'
    · rw [hc, crlf_feed, List.infix_cons_iff, List.infix_cons_iff] at h
      have htail := (h.resolve_left (by simp)).resolve_left (by simp)
      exact List.infix_cons (ih htail)
    · rw [crlf_cons hc, List.infix_cons_iff, ← crlf_cons hc] at h
      rcases h with hfront | htail
      · exact ((clips_crlf (c :: text)).isPrefix_pair hfront (by decide) (by decide)).isInfix
      · exact List.infix_cons (ih htail)

end Text

open Text

/-! ### Positions -/

/-- The carriage return takes a column, and the line feed behind it starts a new line anyway. -/
theorem Position.after_crlf (position : Position) (text : List Char) :
    position.after (crlf text) = position.after text := by
  induction text generalizing position with
  | nil => rfl
  | cons c text ih =>
    by_cases hc : c = '\n'
    · rw [hc, crlf_feed, after_cons, after_cons, ih]
      rfl
    · rw [crlf_cons hc, after_cons, ih, after_cons]

/-- **A position counts the same lines and columns with both line endings.** -/
theorem Position.Marks.crlf {position : Position} {before : List Char} (h : position.Marks before) :
    position.Marks (crlf before) := by
  refine ⟨?_, ?_⟩
  · rw [h.line, count_crlf]
  · show _ = 1 + (lastLine (Text.crlf before)).length
    rw [lastLine_crlf]
    exact h.column

/-! ### Gaps and cuts -/

/-- Where no gap goes on there is no line feed. -/
theorem Gap.head_ne_feed {text : List Char} (h : Stops text ∨ Unclosed text) :
    text.head? ≠ some '\n' := by
  rcases h with hstops | ⟨body, rfl, -⟩
  · intro hhead
    exact hstops.not_blank '\n' hhead (by decide)
  · simp

theorem Gap.Unclosed.crlf {text : List Char} (h : Unclosed text) : Unclosed (crlf text) := by
  obtain ⟨body, rfl, hbody⟩ := h
  exact ⟨Text.crlf body, rfl, fun hclose => hbody (close_crlf hclose)⟩

/-- **A gap is one with both line endings.**  A line comment then ends with a carriage return. -/
theorem IsGap.crlf {gap rest : List Char} (h : IsGap gap rest) (hrest : rest.head? ≠ some '\n') :
    IsGap (crlf gap) (crlf rest) := by
  induction h with
  | nil => exact .nil
  | @blank c gap rest hc _ ih =>
    by_cases hfeed : c = '\n'
    · rw [hfeed]
      exact .blank (by decide) (.blank (by decide) (ih hrest))
    · rw [crlf_cons hfeed]
      exact .blank hc (ih hrest)
  | @line body gap rest hbody hend _ ih =>
    show IsGap ('/' :: '/' :: Text.crlf (body ++ gap)) (Text.crlf rest)
    rw [crlf_append, crlf_of_not_mem hbody]
    cases gap with
    | nil =>
      cases rest with
      | nil => exact .line hbody (by simp [Text.crlf]) .nil
      | cons c rest => exact absurd (congrArg some (hend c rfl)) hrest
    | cons c gap =>
      obtain rfl : c = '\n' := hend c rfl
      have hreturn : '\n' ∉ body ++ ['\r'] := by simpa using hbody
      have htail : IsGap ('\n' :: Text.crlf gap) (Text.crlf rest) := (ih hrest).of_blank (by decide)
      have hgap := IsGap.line hreturn (by simp) htail
      rw [List.append_assoc] at hgap
      exact hgap
  | @block body gap rest hbody _ ih =>
    show IsGap ('/' :: '*' :: Text.crlf (body ++ '*' :: '/' :: gap)) (Text.crlf rest)
    rw [crlf_append]
    exact .block (fun hclose => hbody (close_crlf hclose)) (ih hrest)

/-- A piece with a carriage return before each line feed of its gap. -/
def Piece.crlf (piece : Piece) : Piece :=
  { piece with gap := Text.crlf piece.gap }

/-- Pieces with both line endings are alike. -/
theorem alike_crlf (lead : List Char) (pieces : List Piece) :
    Alike lead (crlf lead) pieces (pieces.map Piece.crlf) := by
  induction pieces generalizing lead with
  | nil => exact Alike.nil.behind fun position => position.after_crlf lead
  | cons piece pieces ih =>
    exact (ih piece.gap).cons.behind fun position => position.after_crlf lead

/-- What stands behind the front gap is the same text with both line endings. -/
theorem Chain.join_crlf {pieces : List Piece} {rest : List Char} (h : Chain pieces rest) :
    Piece.join (pieces.map Piece.crlf) ++ crlf rest = crlf (Piece.join pieces ++ rest) := by
  induction h with
  | nil => rfl
  | @cons piece pieces rest hlexeme _ _ _ ih =>
    have htext : crlf piece.text = piece.text :=
      crlf_solid fun c hc => hlexeme.longest.holds.not_isBlank hc
    rw [List.map_cons, Piece.join, List.append_assoc, List.append_assoc, ih, Piece.join,
      List.append_assoc, List.append_assoc, crlf_append piece.text, htext, crlf_append piece.gap]
    rfl

/-- **Pieces in a row stay so with both line endings.** -/
theorem Chain.crlf {pieces : List Piece} {rest : List Char} (h : Chain pieces rest)
    (hends : Ends rest) : Chain (pieces.map Piece.crlf) (crlf rest) := by
  induction h with
  | nil => exact .nil
  | @cons piece pieces rest hlexeme hkind hgap hchain ih =>
    refine .cons ?_ hkind ?_ (ih hends)
    · rw [hchain.join_crlf]
      show LexemeAt piece.text (Text.crlf piece.gap ++ _)
      rw [← crlf_append]
      exact hlexeme.clips (clips_crlf _)
    · rw [hchain.join_crlf]
      exact hgap.crlf (Gap.head_ne_feed (hchain.stops_or_unclosed hends))

/-- **A cut is one with both line endings.** -/
theorem Cut.crlf {text lead rest : List Char} {pieces : List Piece} (h : Cut text lead pieces rest)
    (hends : Ends rest) :
    Cut (crlf text) (crlf lead) (pieces.map Piece.crlf) (crlf rest) := by
  refine ⟨?_, ?_, h.chain.crlf hends⟩
  · rw [h.chain.join_crlf, h.text_eq, crlf_append]
  · rw [h.chain.join_crlf]
    exact h.lead.crlf (Gap.head_ne_feed (h.chain.stops_or_unclosed hends))

/-- **A fault is met with both line endings.** -/
theorem Faults.crlf {text passed : List Char} {fault : Fault} (h : Faults text passed fault) :
    Faults (crlf text) (crlf passed) fault := by
  by_cases hfault : fault = .unterminatedComment
  · subst hfault
    cases h with
    | unclosed hunclosed => exact .unclosed hunclosed.crlf
  · obtain ⟨front, rest, rfl, -, hpassed, hsolid, hclips⟩ := h.exists_front hfault
    have hfront : Text.crlf front = front := crlf_solid fun c hc => (hsolid c hc).1
    have hsame : Text.crlf passed = passed := crlf_solid fun c hc => (hsolid c (hpassed.subset hc)).1
    rw [crlf_append, hfront, hsame]
    exact hclips _ (clips_crlf rest)

/-! ### The line of an error -/

/-- The line of an error looks the same with both line endings, when something can be seen of it or
it is the last one. -/
theorem LexicalError.looksLike_crlf {error : LexicalError} {source : String}
    {before after : List Char} (hmarks : error.position.Marks before) (hsource : source.toList = before ++ after)
    (hvisible : '\n' ∈ after → ∃ c ∈ lastLine before ++ firstLine after, ¬ isBlank c) :
    LooksLike (error.sourceLine (String.ofList (crlf source.toList))) (error.sourceLine source) := by
  have hother : (String.ofList (crlf source.toList)).toList = crlf before ++ crlf after := by
    rw [String.toList_ofList, hsource, crlf_append]
  rw [sourceLine_eq hmarks hsource, sourceLine_eq hmarks.crlf hother, lastLine_crlf]
  by_cases hfeed : '\n' ∈ after
  · obtain ⟨c, hc, hblank⟩ := hvisible hfeed
    rw [firstLine_crlf hfeed, ← List.append_assoc, chomp_concat]
    exact looksLike_chomp hc hblank
  · rw [crlf_of_not_mem hfeed]
    exact .refl _

/-- Where a reading meets a fault, something can be seen of the line, or it is the last one. -/
theorem Faults.exists_visible {before passed after : List Char} {fault : Fault}
    (h : Faults (passed ++ after) passed fault) (hfeed : '\n' ∈ after) :
    ∃ c ∈ lastLine (before ++ passed) ++ firstLine after, ¬ isBlank c := by
  by_cases hfault : fault = .unterminatedComment
  · subst hfault
    -- an open comment goes over everything that is left
    have hnil : after = [] := by
      generalize htext : passed ++ after = text at h
      cases h with
      | unclosed _ => exact List.append_right_eq_self.1 htext
    rw [hnil] at hfeed
    simp at hfeed
  · obtain ⟨front, rest, htext, hne, hpassed, hsolid, -⟩ := h.exists_front hfault
    have hclean : ∀ text : List Char, text <+: front → '\n' ∉ text :=
      fun text htext hmem => (hsolid _ (htext.subset hmem)).1 (by decide)
    obtain ⟨c, tail, rfl⟩ := List.exists_cons_of_ne_nil hne
    refine ⟨c, ?_, (hsolid c List.mem_cons_self).1⟩
    rw [lastLine_append (hclean _ hpassed), List.append_assoc, ← firstLine_append (hclean _ hpassed),
      htext, firstLine_append (hclean _ (List.prefix_refl _))]
    simp

/-! ### Scans and reports -/

/-- **Line endings make no difference.**  A source whose lines end with carriage returns and line
feeds has the same scan as with line feeds alone, and an error of the scan has the same report for
every file, or no report for both. -/
theorem tokenize_crlf (source : String) (hshort : (crlf source.toList).length < 2 ^ 32 - 1) :
    tokenize (String.ofList (crlf source.toList)) = tokenize source ∧
    ∀ error, tokenize source = .error error → ∀ file,
      error.report? (String.ofList (crlf source.toList)) file = error.report? source file := by
  refine ⟨?_, ?_⟩
  · obtain ⟨lead, pieces, rest, hcut, hends⟩ := Cut.exists_ends source.toList
    have hother := hcut.crlf hends
    rw [← String.toList_ofList (l := crlf source.toList)] at hother
    apply hcut.tokenize_eq hother (alike_crlf lead pieces)
    rcases hends with rfl | ⟨passed, fault, hfaults⟩
    · exact .inl ⟨rfl, rfl⟩
    · exact .inr ⟨passed, crlf passed, fault, hfaults, hfaults.crlf,
        fun position => position.after_crlf passed⟩
  · intro error herror file
    obtain ⟨lead, pieces, rest, passed, hcut, hfaults, hposition⟩ := Cut.exists_of_error herror
    obtain ⟨after, rfl⟩ := hfaults.passed_isPrefix
    have hsource : source.toList = lead ++ Piece.join pieces ++ passed ++ after := by
      rw [hcut.text_eq]
      simp only [List.append_assoc]
    have hmarks : error.position.Marks (lead ++ Piece.join pieces ++ passed) := by
      have hle := length_le_crlf source.toList
      have hparts := congrArg List.length hsource
      rw [List.length_append] at hparts
      rw [hposition]
      exact Position.marks_after (by omega)
    exact LexicalError.report?_congr
      (LexicalError.looksLike_crlf hmarks hsource hfaults.exists_visible) file

/-- A line comment, a source line that is indented, and a number without its exponent. -/
theorem tokenize_crlf_indented :
    tokenize "a //\r\n\t1e\r\r\n" = .error ⟨.malformedExponent "1e", ⟨2, 4⟩⟩ ∧
      (⟨.malformedExponent "1e", ⟨2, 4⟩⟩ : LexicalError).report? "a //\r\n\t1e\r\r\n" "m.c" =
        (⟨.malformedExponent "1e", ⟨2, 4⟩⟩ : LexicalError).report? "a //\n\t1e\r\n" "m.c" := by
  have hread : tokenize "a //\n\t1e\r\n" = .error ⟨.malformedExponent "1e", ⟨2, 4⟩⟩ := by
    decide +kernel
  have hcrlf := tokenize_crlf "a //\n\t1e\r\n" (by decide)
  have hsource : String.ofList (crlf "a //\n\t1e\r\n".toList) = "a //\r\n\t1e\r\r\n" := by decide
  rw [hsource] at hcrlf
  exact ⟨hcrlf.1.trans hread, hcrlf.2 _ hread "m.c"⟩

end CurlyLex
