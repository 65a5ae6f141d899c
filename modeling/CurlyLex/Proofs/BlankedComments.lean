import CurlyLex.Proofs.Counting
import CurlyLex.Proofs.Lookahead

/-!
# Comments are as good as spaces

A text can be freed of its comments before it is read: an automaton that knows nothing of lexemes
walks over the text and writes a space for every character of a comment, line feeds apart.  The scan
of the text that is left has the same outcome, in every detail.  If the automaton ends inside a block
comment, the scan of the text before that comment decides: its error comes first, and without one the
open comment is the error.

* `Comments.Mode`, `Comments.walk` — the automaton; `Comments.blanked` — what it writes, and
  `Comments.open?` — the text before the block comment that it ends in.
* `Comments.clips_walk` — it writes nothing new before the first blank.
* `Comments.writes_gap`, `Comments.writes_lexeme` — it writes blanks for a gap and leaves a lexeme as
  it is.
* `Chain.blanked`, `Cut.tokenize_without_comments` — so a cut text is cut in the same way afterwards.
* `tokenize_of_closed`, `tokenize_of_open` — the scans before and after; `tokenize_blanked` — both
  together.
-/

namespace CurlyLex

namespace Comments

/-! ### The automaton -/

/-- Where the automaton stands. -/
inductive Mode where
  /-- Outside comments. -/
  | code
  /-- Inside a line comment. -/
  | line
  /-- Inside a block comment, which was opened behind a part of the text. -/
  | block (before : List Char)

/-- What is written for a character of a comment. -/
def blot (c : Char) : Char :=
  if c = '\n' then '\n' else ' '

/-- Write something in front of a result. -/
def write (front : List Char) (result : List Char × Option (List Char)) :
    List Char × Option (List Char) :=
  (front ++ result.1, result.2)

/-- Walk over a text behind the part `passed`: what is written, and, if the walk ends inside a block
comment, what comes before its opener.  Comments are opened outside comments only; a line comment
ends before a line feed, and a block comment behind the first star and slash after its opener. -/
def walk : Mode → List Char → List Char → List Char × Option (List Char)
  | .code, _, [] => ([], none)
  | .code, passed, '/' :: '/' :: text => write [' ', ' '] (walk .line (passed ++ ['/', '/']) text)
  | .code, passed, '/' :: '*' :: text =>
    write [' ', ' '] (walk (.block passed) (passed ++ ['/', '*']) text)
  | .code, passed, c :: text => write [c] (walk .code (passed ++ [c]) text)
  | .line, _, [] => ([], none)
  | .line, passed, c :: text =>
    write [blot c] (walk (if c = '\n' then .code else .line) (passed ++ [c]) text)
  | .block before, _, [] => ([], some before)
  | .block _, passed, '*' :: '/' :: text =>
    write [' ', ' '] (walk .code (passed ++ ['*', '/']) text)
  | .block before, passed, c :: text => write [blot c] (walk (.block before) (passed ++ [c]) text)

/-- A text with its comments blanked. -/
def blanked (text : List Char) : List Char :=
  (walk .code [] text).1

/-- What comes before the block comment in which a text ends, if it ends in one. -/
def open? (text : List Char) : Option (List Char) :=
  (walk .code [] text).2

@[simp]
theorem write_fst (front : List Char) (result : List Char × Option (List Char)) :
    (write front result).1 = front ++ result.1 := rfl

@[simp]
theorem write_snd (front : List Char) (result : List Char × Option (List Char)) :
    (write front result).2 = result.2 := rfl

/-- Outside comments, behind `passed`, the walk writes `written` for `front` when `rest` comes
next. -/
def Writes (passed front rest written : List Char) : Prop :=
  walk .code passed (front ++ rest) = write written (walk .code (passed ++ front) rest)

theorem Writes.nil (passed rest : List Char) : Writes passed [] rest [] := by
  rw [Writes, List.append_nil]
  rfl

/-- What is written for a text is written part by part. -/
theorem Writes.append {passed first second rest written₁ written₂ : List Char}
    (h₁ : Writes passed first (second ++ rest) written₁)
    (h₂ : Writes (passed ++ first) second rest written₂) :
    Writes passed (first ++ second) rest (written₁ ++ written₂) := by
  rw [Writes, List.append_assoc, h₁, h₂, ← List.append_assoc]
  simp only [write, List.append_assoc]

/-! ### Outside comments -/

/-- A character that opens no comment with the next is written as it is. -/
theorem writes_char {c : Char} {rest : List Char}
    (hopen : c = '/' → rest.head? ≠ some '/' ∧ rest.head? ≠ some '*') (passed : List Char) :
    Writes passed [c] rest [c] := by
  apply walk.eq_4
  · intro tail hc hrest
    exact (hopen hc).1 (List.head?_eq_some_iff.2 ⟨tail, hrest⟩)
  · intro tail hc hrest
    exact (hopen hc).2 (List.head?_eq_some_iff.2 ⟨tail, hrest⟩)

/-- So is a text without slashes. -/
theorem writes_solid {front : List Char} (hfront : ∀ c ∈ front, c ≠ '/') (passed rest : List Char) :
    Writes passed front rest front := by
  induction front generalizing passed with
  | nil => exact .nil passed rest
  | cons c front ih =>
    have hc : c ≠ '/' := hfront c List.mem_cons_self
    have hothers : ∀ d ∈ front, d ≠ '/' := fun d hd => hfront d (List.mem_cons_of_mem c hd)
    exact (writes_char (fun h => absurd h hc) passed).append (ih hothers (passed ++ [c]))

/-- **A lexeme is written as it is**: if it is a slash, it opens no comment. -/
theorem writes_lexeme {lexeme rest : List Char} (h : LexemeAt lexeme rest) (passed : List Char) :
    Writes passed lexeme rest lexeme := by
  by_cases hslash : '/' ∈ lexeme
  · obtain rfl := h.longest.holds.eq_slash hslash
    apply writes_char
    intro _
    refine ⟨?_, ?_⟩
    · intro hhead
      obtain ⟨tail, rfl⟩ := List.head?_eq_some_iff.1 hhead
      exact h.not_line ⟨tail, rfl⟩
    · intro hhead
      obtain ⟨tail, rfl⟩ := List.head?_eq_some_iff.1 hhead
      exact h.not_block ⟨tail, rfl⟩
  · apply writes_solid
    intro c hc heq
    exact hslash (heq ▸ hc)

/-- **Nothing new is written before the first blank.** -/
theorem clips_walk (passed text : List Char) : Clips text (walk .code passed text).1 := by
  induction text generalizing passed with
  | nil => exact .of_isPrefix (List.prefix_refl _)
  | cons c text ih =>
    by_cases hopen : c = '/' → text.head? ≠ some '/' ∧ text.head? ≠ some '*'
    · have hwalk : walk .code passed (c :: text) = write [c] (walk .code (passed ++ [c]) text) :=
        writes_char hopen passed
      rw [hwalk]
      exact (ih _).cons c
    · -- where a comment is opened a space comes first
      have hspace : ∃ written, (walk .code passed (c :: text)).1 = ' ' :: written := by
        by_cases hline : c = '/' ∧ text.head? = some '/'
        · obtain ⟨rfl, hhead⟩ := hline
          obtain ⟨tail, rfl⟩ := List.head?_eq_some_iff.1 hhead
          exact ⟨_, rfl⟩
        · have hblock : c = '/' ∧ text.head? = some '*' := by tauto
          obtain ⟨rfl, hhead⟩ := hblock
          obtain ⟨tail, rfl⟩ := List.head?_eq_some_iff.1 hhead
          exact ⟨_, rfl⟩
      obtain ⟨written, hwritten⟩ := hspace
      rw [hwritten]
      exact .of_blank (by decide) _ _

/-! ### Over comments -/

theorem isBlank_blot (c : Char) : Text.isBlank (blot c) := by
  rw [blot]
  split <;> decide

/-- What is written for a comment takes as many lines and columns. -/
theorem after_map_blot (position : Position) (text : List Char) :
    position.after (text.map blot) = position.after text := by
  induction text generalizing position with
  | nil => rfl
  | cons c text ih =>
    have hnext : position.next (blot c) = position.next c := by
      by_cases hc : c = '\n'
      · rw [hc]
        rfl
      · rw [blot, if_neg hc, Position.next, Position.next, if_neg hc, if_neg (by decide)]
    rw [List.map_cons, Position.after_cons, hnext, ih, Position.after_cons]

/-- In a line comment everything up to the line feed is blanked. -/
theorem walk_line {body rest : List Char} (hbody : '\n' ∉ body)
    (hend : ∀ c ∈ rest.head?, c = '\n') (passed : List Char) :
    walk .line passed (body ++ rest) =
      write (body.map blot) (walk .code (passed ++ body) rest) := by
  induction body generalizing passed with
  | nil =>
    cases rest with
    | nil => rfl
    | cons c rest =>
      obtain rfl : c = '\n' := hend c rfl
      rw [List.append_nil]
      rfl
  | cons c body ih =>
    have hc : c ≠ '\n' := fun h => hbody (by rw [h]; exact List.mem_cons_self)
    rw [List.cons_append, walk, if_neg hc, ih (fun h => hbody (List.mem_cons_of_mem c h)),
      List.append_assoc]
    rfl

theorem writes_lineComment {body rest : List Char} (hbody : '\n' ∉ body)
    (hend : ∀ c ∈ rest.head?, c = '\n') (passed : List Char) :
    Writes passed ('/' :: '/' :: body) rest (('/' :: '/' :: body).map blot) := by
  rw [Writes, List.cons_append, List.cons_append, walk, walk_line hbody hend, List.append_assoc]
  rfl

/-- In a block comment everything up to the first close is blanked. -/
theorem walk_block {body : List Char} (hbody : ¬ ['*', '/'] <:+: body)
    (before passed rest : List Char) :
    walk (.block before) passed (body ++ '*' :: '/' :: rest) =
      write (body.map blot ++ [' ', ' ']) (walk .code (passed ++ body ++ ['*', '/']) rest) := by
  induction body generalizing passed with
  | nil =>
    rw [List.append_nil]
    rfl
  | cons c body ih =>
    rw [List.cons_append,
      walk.eq_9 _ _ _ _ (fun _ hc htail => Gap.no_early_close hbody hc htail),
      ih (Gap.no_close_tail hbody), List.append_assoc passed]
    rfl

theorem writes_blockComment {body : List Char} (hbody : ¬ ['*', '/'] <:+: body)
    (passed rest : List Char) :
    Writes passed ('/' :: '*' :: (body ++ ['*', '/'])) rest
      (('/' :: '*' :: (body ++ ['*', '/'])).map blot) := by
  have hwalk := walk_block hbody passed (passed ++ ['/', '*']) rest
  rw [Writes, List.cons_append, List.cons_append, List.append_assoc, walk]
  show write _ (walk _ _ (body ++ '*' :: '/' :: rest)) = _
  rw [hwalk, List.map_cons, List.map_cons, List.map_append]
  simp only [List.append_assoc]
  rfl

/-- In a block comment that is never closed the walk ends. -/
theorem walk_no_close {body : List Char} (hbody : ¬ ['*', '/'] <:+: body)
    (before passed : List Char) : (walk (.block before) passed body).2 = some before := by
  induction body generalizing passed with
  | nil => rfl
  | cons c body ih =>
    rw [walk.eq_9, write_snd]
    · exact ih (Gap.no_close_tail hbody) _
    · intro rest hc htext
      subst hc htext
      exact hbody ⟨[], rest, rfl⟩

theorem walk_unclosed {text : List Char} (h : Gap.Unclosed text) (passed : List Char) :
    (walk .code passed text).2 = some passed := by
  obtain ⟨body, rfl, hbody⟩ := h
  rw [walk, write_snd]
  exact walk_no_close hbody passed _

/-- `before` is `passed` with a part of `text`, behind which a block comment is opened. -/
def OpensBehind (before passed text : List Char) : Prop :=
  ∃ taken, before = passed ++ taken ∧ taken ++ ['/', '*'] <+: text

theorem OpensBehind.append {before passed front text : List Char}
    (h : OpensBehind before (passed ++ front) text) : OpensBehind before passed (front ++ text) := by
  obtain ⟨taken, rfl, hfront⟩ := h
  refine ⟨front ++ taken, List.append_assoc _ _ _, ?_⟩
  rw [List.append_assoc]
  exact (List.prefix_append_right_inj front).2 hfront

/-- The comment that the walk ends in is the one it begins in, or is opened on the way. -/
theorem walk_open {mode : Mode} {passed text before : List Char}
    (h : (walk mode passed text).2 = some before) :
    mode = .block before ∨ OpensBehind before passed text := by
  fun_induction walk mode passed text with
  | case1 passed => simp at h
  | case2 passed text ih =>
    have hopens := (ih h).resolve_left (by simp)
    exact .inr hopens.append
  | case3 passed text ih =>
    rcases ih h with hmode | hopens
    · obtain rfl : passed = before := Mode.block.inj hmode
      exact .inr ⟨[], (List.append_nil passed).symm, ⟨text, rfl⟩⟩
    · exact .inr hopens.append
  | case4 passed c text noLine noBlock ih =>
    have hopens := (ih h).resolve_left (by simp)
    exact .inr hopens.append
  | case5 passed => simp at h
  | case6 passed c text ih =>
    have hopens := (ih h).resolve_left (by split <;> simp)
    exact .inr hopens.append
  | case7 before' passed => exact .inl (by cases h; rfl)
  | case8 before' passed text ih =>
    have hopens := (ih h).resolve_left (by simp)
    exact .inr hopens.append
  | case9 before' passed c text noClose ih =>
    exact (ih h).imp_right OpensBehind.append

/-! ### Over gaps -/

/-- Blanks that take as many lines and columns as a gap. -/
structure Pads (blanks gap : List Char) : Prop where
  blank : ∀ c ∈ blanks, Text.isBlank c
  after : ∀ position : Position, position.after blanks = position.after gap

theorem Pads.append {blanks₁ blanks₂ gap₁ gap₂ : List Char} (h₁ : Pads blanks₁ gap₁)
    (h₂ : Pads blanks₂ gap₂) : Pads (blanks₁ ++ blanks₂) (gap₁ ++ gap₂) := by
  refine ⟨?_, ?_⟩
  · intro c hc
    exact (List.mem_append.1 hc).elim (h₁.blank c) (h₂.blank c)
  · intro position
    rw [Position.after_append, Position.after_append, h₁.after, h₂.after]

theorem pads_map_blot (comment : List Char) : Pads (comment.map blot) comment := by
  refine ⟨?_, fun position => after_map_blot position comment⟩
  intro c hc
  obtain ⟨d, -, rfl⟩ := List.mem_map.1 hc
  exact isBlank_blot d

/-- Blanks are written for a part of a gap, and for what is left of it. -/
theorem exists_blanks_append {passed first second rest blanks : List Char}
    (hpads : Pads blanks first) (hwrites : Writes passed first (second ++ rest) blanks)
    (h : ∃ others, Pads others second ∧ Writes (passed ++ first) second rest others) :
    ∃ others, Pads others (first ++ second) ∧ Writes passed (first ++ second) rest others := by
  obtain ⟨others, hothers, hwrites'⟩ := h
  exact ⟨blanks ++ others, hpads.append hothers, hwrites.append hwrites'⟩

/-- **A gap is blanked.** -/
theorem writes_gap {gap rest : List Char} (h : IsGap gap rest) (passed : List Char) :
    ∃ blanks, Pads blanks gap ∧ Writes passed gap rest blanks := by
  induction h generalizing passed with
  | nil => exact ⟨[], ⟨by simp, fun _ => rfl⟩, .nil _ _⟩
  | @blank c gap rest hc _ ih =>
    have hpads : Pads [c] [c] := ⟨by simpa using hc, fun _ => rfl⟩
    have hslash := Text.ne_slash_of_isBlank hc
    exact exists_blanks_append hpads (writes_char (fun h => absurd h hslash) passed) (ih _)
  | @line body gap rest hbody hend _ ih =>
    exact exists_blanks_append (pads_map_blot ('/' :: '/' :: body))
      (writes_lineComment hbody hend passed) (ih _)
  | @block body gap rest hbody _ ih =>
    have hgap := exists_blanks_append (pads_map_blot _)
      (writes_blockComment hbody passed (gap ++ rest)) (ih _)
    simp only [List.cons_append, List.append_assoc, List.nil_append] at hgap
    exact hgap

end Comments

/-! ### Over cuts -/

/-- **The pieces of a text are left as they are**, but for the gaps between them. -/
theorem Chain.blanked {pieces : List Piece} {rest : List Char} (h : Chain pieces rest)
    (passed : List Char) :
    ∃ others, Comments.Writes passed (Piece.join pieces) rest (Piece.join others) ∧
      Chain others (Comments.walk .code (passed ++ Piece.join pieces) rest).1 ∧
      Alike [] [] pieces others := by
  induction h generalizing passed with
  | nil => exact ⟨[], .nil _ _, .nil, ⟨fun _ => rfl, fun _ => rfl⟩⟩
  | @cons piece pieces rest hlexeme hkind hgap _ ih =>
    obtain ⟨blanks, hpads, hblanks⟩ := Comments.writes_gap hgap (passed ++ piece.text)
    obtain ⟨others, hothers, hchain, halike⟩ := ih (passed ++ piece.text ++ piece.gap)
    have hbehind := hblanks.append hothers
    have hlexeme' : Comments.Writes passed piece.text (piece.gap ++ Piece.join pieces ++ rest)
        piece.text := by
      rw [List.append_assoc]
      exact Comments.writes_lexeme hlexeme passed
    have hclips := Comments.clips_walk (passed ++ piece.text) (piece.gap ++ Piece.join pieces ++ rest)
    rw [hbehind, Comments.write_fst, List.append_assoc, List.append_assoc] at hclips
    have hafter : passed ++ piece.text ++ (piece.gap ++ Piece.join pieces)
        = passed ++ Piece.join (piece :: pieces) := by
      simp only [Piece.join, List.append_assoc]
    rw [hafter] at hclips
    rw [List.append_assoc (passed ++ piece.text), hafter] at hchain
    refine ⟨{ piece with gap := blanks } :: others, hlexeme'.append hbehind, ?_, ?_⟩
    · exact .cons (hlexeme.clips hclips) hkind (.of_blanks hpads.blank _) hchain
    · exact (halike.behind hpads.after).cons

/-- **A cut text is cut alike when its comments are blanked**, and the walk goes on behind the pieces
as from there. -/
theorem Cut.blanked {text lead rest : List Char} {pieces : List Piece}
    (h : Cut text lead pieces rest) :
    ∃ lead' others,
      Cut (Comments.blanked text) lead' others
        (Comments.walk .code (lead ++ Piece.join pieces) rest).1 ∧
      Comments.open? text = (Comments.walk .code (lead ++ Piece.join pieces) rest).2 ∧
      Alike lead lead' pieces others := by
  obtain ⟨blanks, hpads, hblanks⟩ := Comments.writes_gap h.lead []
  obtain ⟨others, hothers, hchain, halike⟩ := h.chain.blanked ([] ++ lead)
  have hall := hblanks.append hothers
  have hwalk : Comments.walk .code [] text = Comments.write (blanks ++ Piece.join others)
      (Comments.walk .code (lead ++ Piece.join pieces) rest) := by
    rw [h.text_eq, ← List.append_assoc, hall]
    rfl
  refine ⟨blanks, others, ⟨?_, .of_blanks hpads.blank _, hchain⟩, ?_, halike.behind hpads.after⟩
  · rw [Comments.blanked, hwalk, Comments.write_fst, List.append_assoc]
  · rw [Comments.open?, hwalk, Comments.write_snd]

/-- **The scan of a source is the same without its comments**, if it does not meet one that is never
closed. -/
theorem Cut.tokenize_without_comments {source : String} {lead rest : List Char} {pieces : List Piece}
    (h : Cut source.toList lead pieces rest)
    (hends : rest = [] ∨ ∃ passed fault, fault ≠ .unterminatedComment ∧ Faults rest passed fault) :
    tokenize (String.ofList (Comments.blanked source.toList)) = tokenize source := by
  obtain ⟨lead', others, hcut, -, halike⟩ := h.blanked
  rw [← String.toList_ofList (l := Comments.blanked source.toList)] at hcut
  apply h.tokenize_eq hcut halike
  rcases hends with rfl | ⟨passed, fault, hfault, hfaults⟩
  · exact .inl ⟨rfl, rfl⟩
  · obtain ⟨front, behind, rfl, -, -, hsolid, hclips⟩ := hfaults.exists_front hfault
    have hfront := Comments.writes_solid (fun c hc => (hsolid c hc).2) (lead ++ Piece.join pieces)
      behind
    have hfaults' := hclips _ (Comments.clips_walk (lead ++ Piece.join pieces ++ front) behind)
    refine .inr ⟨passed, passed, fault, hfaults, ?_, fun _ => rfl⟩
    rw [hfront, Comments.write_fst]
    exact hfaults'

/-! ### Before an open comment -/

/-- Where a scan meets the comment that the walk ends in, everything before it is read. -/
theorem Cut.tokenize_before_unclosed {text lead rest before : List Char} {pieces : List Piece}
    (h : Cut text lead pieces rest) (hunclosed : Gap.Unclosed rest)
    (hopen : Comments.open? text = some before) :
    ∃ tokens, tokenize (String.ofList (Comments.blanked before)) = .ok tokens := by
  obtain ⟨-, -, -, hsame, -⟩ := h.blanked
  rw [hopen, Comments.walk_unclosed hunclosed] at hsame
  obtain rfl := Option.some.inj hsame
  have hcut := h.extend (.of_isPrefix List.nil_prefix)
  rw [List.append_nil, ← String.toList_ofList (l := lead ++ Piece.join pieces)] at hcut
  have hblanked := hcut.tokenize_without_comments (.inl rfl)
  rw [String.toList_ofList, hcut.tokenize_ok] at hblanked
  exact ⟨_, hblanked⟩

/-- Where a scan meets a fault on the spot, the fault stands before the comment that the walk ends
in. -/
theorem Cut.tokenize_before_fault {source : String} {lead rest passed before : List Char}
    {pieces : List Piece} {fault : Fault} (h : Cut source.toList lead pieces rest)
    (hfaults : Faults rest passed fault) (hfault : fault ≠ .unterminatedComment)
    (hopen : Comments.open? source.toList = some before) :
    tokenize (String.ofList (Comments.blanked before)) = tokenize source := by
  obtain ⟨-, -, -, hsame, -⟩ := h.blanked
  rw [hopen] at hsame
  obtain ⟨front, behind, rfl, -, -, hsolid, hclips⟩ := hfaults.exists_front hfault
  have hfront := Comments.writes_solid (fun c hc => (hsolid c hc).2) (lead ++ Piece.join pieces)
    behind
  rw [hfront, Comments.write_snd] at hsame
  obtain ⟨taken, rfl, htaken⟩ := (Comments.walk_open hsame.symm).resolve_left (by simp)
  have hshorter : taken <+: behind := (List.prefix_append _ _).trans htaken
  have hcut := h.extend (.of_isPrefix ((List.prefix_append_right_inj front).2 hshorter))
  have hfaults' := hclips taken (.of_isPrefix hshorter)
  have hbefore : lead ++ (Piece.join pieces ++ (front ++ taken))
      = lead ++ Piece.join pieces ++ front ++ taken := by
    simp only [List.append_assoc]
  rw [hbefore, ← String.toList_ofList (l := lead ++ Piece.join pieces ++ front ++ taken)] at hcut
  have hblanked := hcut.tokenize_without_comments (.inr ⟨passed, fault, hfault, hfaults'⟩)
  rw [String.toList_ofList] at hblanked
  rw [hblanked, hcut.tokenize_error hfaults', h.tokenize_error hfaults]

/-! ### Scans before and after -/

/-- A source that does not end inside a block comment is read without its comments. -/
theorem tokenize_of_closed {source : String} (h : Comments.open? source.toList = none) :
    tokenize (String.ofList (Comments.blanked source.toList)) = tokenize source := by
  obtain ⟨lead, pieces, rest, hcut, hends⟩ := Cut.exists_ends source.toList
  apply hcut.tokenize_without_comments
  refine hends.imp_right fun ⟨passed, fault, hfaults⟩ => ⟨passed, fault, ?_, hfaults⟩
  -- a comment that is never closed would be the one that the walk ends in
  rintro rfl
  obtain ⟨-, -, -, hopen, -⟩ := hcut.blanked
  cases hfaults with
  | unclosed hunclosed =>
    rw [hopen, Comments.walk_unclosed hunclosed] at h
    simp at h

/-- A source that ends inside a block comment has the error of the text before that comment; when
that text has none, the open comment is reported at the end of the source. -/
theorem tokenize_of_open {source : String} {before : List Char}
    (h : Comments.open? source.toList = some before) :
    (∃ error, tokenize (String.ofList (Comments.blanked before)) = .error error ∧
      tokenize source = .error error) ∨
    (∃ tokens, tokenize (String.ofList (Comments.blanked before)) = .ok tokens) ∧
      tokenize source = .error ⟨.unterminatedComment, Position.start.after source.toList⟩ := by
  obtain ⟨lead, pieces, rest, hcut, hends⟩ := Cut.exists_ends source.toList
  rcases hends with rfl | ⟨passed, fault, hfaults⟩
  · obtain ⟨-, -, -, hopen, -⟩ := hcut.blanked
    rw [hopen] at h
    simp [Comments.walk] at h
  · have herror := hcut.tokenize_error hfaults
    by_cases hfault : fault = .unterminatedComment
    · subst hfault
      cases hfaults with
      | unclosed hunclosed =>
        rw [List.append_assoc, ← hcut.text_eq] at herror
        exact .inr ⟨hcut.tokenize_before_unclosed hunclosed h, herror⟩
    · exact .inl ⟨_, (hcut.tokenize_before_fault hfaults hfault h).trans herror, herror⟩

/-- **Comments are as good as spaces.**  A source that does not end inside a block comment has the same
scan when its comments are blanked.  In one that does, the text before that comment decides: when its
comments are blanked its error is the error of the source, and if it has none, the open comment is
reported at the end of the source. -/
theorem tokenize_blanked (source : String) (hshort : source.length < 2 ^ 32 - 1) :
    (Comments.open? source.toList = none →
      tokenize (String.ofList (Comments.blanked source.toList)) = tokenize source) ∧
    ∀ before, Comments.open? source.toList = some before →
      before ++ ['/', '*'] <+: source.toList ∧
      (∀ error, tokenize (String.ofList (Comments.blanked before)) = .error error →
        tokenize source = .error error) ∧
      ∀ tokens, tokenize (String.ofList (Comments.blanked before)) = .ok tokens →
        ∃ position : Position, position.Marks source.toList ∧
          tokenize source = .error ⟨.unterminatedComment, position⟩ := by
  refine ⟨tokenize_of_closed, ?_⟩
  intro before hbefore
  obtain ⟨taken, rfl, hopener⟩ := (Comments.walk_open hbefore).resolve_left (by simp)
  refine ⟨hopener, ?_, ?_⟩
  · intro error herror
    rcases tokenize_of_open hbefore with ⟨error', hother, hsource⟩ | ⟨⟨tokens, htokens⟩, -⟩
    · rw [hsource, ← hother, herror]
    · rw [htokens] at herror
      simp at herror
  · intro tokens htokens
    rcases tokenize_of_open hbefore with ⟨error, hother, -⟩ | ⟨-, hsource⟩
    · rw [hother] at htokens
      simp at htokens
    · exact ⟨_, Position.marks_after (by rwa [String.length_toList]), hsource⟩

/-- Comments beside a slash, an open comment behind a line feed, and one behind a malformed
exponent. -/
theorem tokenize_blanked_slashes :
    tokenize "a     /b   " = tokenize "a/*/*//b//*" ∧
      (∃ position : Position, position.Marks "1/**/e/*\n*".toList ∧
        tokenize "1/**/e/*\n*" = .error ⟨.unterminatedComment, position⟩) ∧
      tokenize "1e/*" = .error ⟨.malformedExponent "1e", ⟨1, 3⟩⟩ := by
  refine ⟨?_, ?_, ?_⟩
  · exact (tokenize_blanked "a/*/*//b//*" (by decide)).1 (by decide)
  · have hread : tokenize "1    e" = .ok [⟨.literal .integer, some "1", ⟨1, 1⟩⟩,
        ⟨.identifier, some "e", ⟨1, 6⟩⟩, ⟨.endOfInput, none, ⟨1, 7⟩⟩] := by decide +kernel
    exact ((tokenize_blanked "1/**/e/*\n*" (by decide)).2 "1/**/e".toList (by decide)).2.2 _ hread
  · have hread : tokenize "1e" = .error ⟨.malformedExponent "1e", ⟨1, 3⟩⟩ := by decide +kernel
    exact ((tokenize_blanked "1e/*" (by decide)).2 "1e".toList (by decide)).2.1 _ hread

end CurlyLex
