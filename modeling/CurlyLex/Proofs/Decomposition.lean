import CurlyLex.Proofs.CursorReading
import Mathlib.Data.List.Basic

/-!
# A scan cuts its source into gaps and lexemes

A text is cut by giving its first gap and then its pieces, each a lexeme with the gap behind it.  The
conditions on a piece look at everything that comes after it, up to the end of the text: its lexeme
is the longest there.  Every text can be cut up to a place where a scan ends, in one way only, and
a scan delivers the lexemes of the cut as its tokens.

* `Piece`, `Chain`, `Cut` — pieces, pieces in a row, and a text cut into them.
* `Cut.exists_ends` — every text can be cut up to a place where a scan ends.
* `Cut.unique` — in one way only.
* `Cut.outcomes` — what a scan delivers over the pieces of a cut.
* `Cut.tokenize_gap`, `Cut.tokenize_error` — what a scan returns over a cut; `Cut.exists_of_ok`,
  `Cut.exists_of_error` — the cut behind what it returns.
* `tokenize_eq_ok_iff_cut` — a source has tokens exactly when it can be cut to its end, and then
  they are the lexemes of its only cut.
-/

namespace CurlyLex

/-! ### Cuts -/

/-- A lexeme with its kind, and the gap behind it. -/
structure Piece where
  /-- The lexeme. -/
  text : List Char
  /-- Its kind. -/
  kind : Kind
  /-- What lies between it and the next lexeme. -/
  gap : List Char

namespace Piece

/-- The characters of pieces in a row. -/
def join : List Piece → List Char
  | [] => []
  | piece :: pieces => piece.text ++ (piece.gap ++ join pieces)

/-- The tokens of pieces in a row, the first of which stands at a position. -/
def tokens (position : Position) : List Piece → List Token
  | [] => []
  | piece :: pieces =>
    ⟨piece.kind, some (String.ofList piece.text), position⟩
      :: tokens (position.after (piece.text ++ piece.gap)) pieces

theorem length_tokens (position : Position) (pieces : List Piece) :
    (tokens position pieces).length = pieces.length := by
  induction pieces generalizing position with
  | nil => rfl
  | cons piece pieces ih =>
    show (tokens (position.after (piece.text ++ piece.gap)) pieces).length + 1 = _
    rw [ih, List.length_cons]

theorem join_append (first second : List Piece) :
    join (first ++ second) = join first ++ join second := by
  induction first with
  | nil => rfl
  | cons piece first ih =>
    rw [List.cons_append, join, join, ih, List.append_assoc, List.append_assoc]

/-- What comes before a piece is no longer than the whole text. -/
theorem length_join_take (pieces : List Piece) (i : Nat) :
    (join (pieces.take i)).length ≤ (join pieces).length := by
  have hjoin := join_append (pieces.take i) (pieces.drop i)
  rw [List.take_append_drop] at hjoin
  rw [hjoin, List.length_append]
  omega

/-- Each token of some pieces stands behind the pieces before it. -/
theorem getElem?_tokens (position : Position) (pieces : List Piece) (i : Nat)
    (h : i < pieces.length) :
    (tokens position pieces)[i]? = some ⟨pieces[i].kind, some (String.ofList pieces[i].text),
      position.after (join (pieces.take i))⟩ := by
  induction pieces generalizing position i with
  | nil => simp at h
  | cons piece pieces ih =>
    cases i with
    | zero => rfl
    | succ i =>
      have hless : i < pieces.length := by simpa using h
      show (tokens (position.after (piece.text ++ piece.gap)) pieces)[i]? = _
      rw [ih _ _ hless, List.take_succ_cons, join, ← List.append_assoc,
        Position.after_append _ (piece.text ++ piece.gap)]
      rfl

end Piece

/-- Pieces in a row, judged together with the text `rest` behind them. -/
inductive Chain : List Piece → List Char → Prop
  | nil {rest : List Char} : Chain [] rest
  | cons {piece : Piece} {pieces : List Piece} {rest : List Char} :
      LexemeAt piece.text (piece.gap ++ (Piece.join pieces ++ rest)) →
      piece.kind.Spells piece.text →
      IsGap piece.gap (Piece.join pieces ++ rest) →
      Chain pieces rest → Chain (piece :: pieces) rest

/-- A text is a gap, pieces in a row, and what is left. -/
structure Cut (text lead : List Char) (pieces : List Piece) (rest : List Char) : Prop where
  text_eq : text = lead ++ (Piece.join pieces ++ rest)
  lead : IsGap lead (Piece.join pieces ++ rest)
  chain : Chain pieces rest

/-! ### Every text can be cut -/

/-- A lexeme in front of a cut text, with a gap before it. -/
theorem Cut.cons {lead lexeme text gap rest : List Char} {pieces : List Piece} {kind : Kind}
    (hlead : IsGap lead (lexeme ++ text)) (hlexeme : LexemeAt lexeme text)
    (hkind : kind.Spells lexeme) (h : Cut text gap pieces rest) :
    Cut (lead ++ (lexeme ++ text)) lead (⟨lexeme, kind, gap⟩ :: pieces) rest := by
  obtain ⟨rfl, hgap, hchain⟩ := h
  have hjoin : Piece.join (⟨lexeme, kind, gap⟩ :: pieces) ++ rest
      = lexeme ++ (gap ++ (Piece.join pieces ++ rest)) := by
    simp only [Piece.join, List.append_assoc]
  refine ⟨?_, ?_, .cons hlexeme hkind hgap hchain⟩
  · rw [hjoin]
  · rw [hjoin]
    exact hlead

/-- **Every text can be cut up to a place where a scan ends.** -/
theorem Cut.exists_ends (text : List Char) :
    ∃ lead pieces rest, Cut text lead pieces rest ∧ Ends rest := by
  -- on the length of the text: what is left behind a lexeme is shorter
  induction hlen : text.length using Nat.strong_induction_on generalizing text with
  | _ n ih =>
    subst hlen
    obtain ⟨lead, after, rfl, hlead, hafter⟩ := Gap.exists_split text
    have hend : Ends after → ∃ gap pieces rest, Cut (lead ++ after) gap pieces rest ∧ Ends rest :=
      fun hends => ⟨lead, [], after, ⟨rfl, hlead, .nil⟩, hends⟩
    rcases hafter with hstops | hunclosed
    · by_cases hne : after = []
      · exact hend (.inl hne)
      rcases Lexeme.exhaustive hstops hne with ⟨lexeme, text, rfl, hlexeme⟩ | ⟨_, _, hmark⟩ | ⟨_, hc⟩
      · obtain ⟨kind, hkind, -⟩ := Kind.existsUnique_spells hlexeme.longest.holds
        have hshort : text.length < (lead ++ (lexeme ++ text)).length := by
          have hpos := List.length_pos_iff.2 hlexeme.longest.holds.ne_nil
          simp only [List.length_append]
          omega
        obtain ⟨gap, pieces, rest, hcut, hends⟩ := ih text.length hshort text rfl
        exact ⟨lead, _, rest, hcut.cons hlead hlexeme hkind, hends⟩
      · exact hend (.inr ⟨_, _, .mark hmark⟩)
      · exact hend (.inr ⟨_, _, .nothing hc⟩)
    · exact hend (.inr ⟨_, _, .unclosed hunclosed⟩)

/-! ### In one way only -/

/-- Behind the gap in front of a cut text no gap goes on. -/
theorem Chain.stops_or_unclosed {pieces : List Piece} {rest : List Char} (h : Chain pieces rest)
    (hends : Ends rest) :
    Gap.Stops (Piece.join pieces ++ rest) ∨ Gap.Unclosed (Piece.join pieces ++ rest) := by
  cases h with
  | nil => exact hends.stops_or_unclosed
  | cons hlexeme _ _ _ =>
    left
    rw [Piece.join, List.append_assoc, List.append_assoc]
    exact hlexeme.stops

/-- Two cuts of a text have the same gap in front, and go on with the same text. -/
theorem Cut.lead_unique {text lead₁ lead₂ rest₁ rest₂ : List Char} {pieces₁ pieces₂ : List Piece}
    (h₁ : Cut text lead₁ pieces₁ rest₁) (hends₁ : Ends rest₁)
    (h₂ : Cut text lead₂ pieces₂ rest₂) (hends₂ : Ends rest₂) :
    lead₁ = lead₂ ∧ Piece.join pieces₁ ++ rest₁ = Piece.join pieces₂ ++ rest₂ := by
  have heq := h₁.text_eq.symm.trans h₂.text_eq
  obtain rfl := h₁.lead.unique (h₁.chain.stops_or_unclosed hends₁) h₂.lead
    (h₂.chain.stops_or_unclosed hends₂) heq
  exact ⟨rfl, List.append_cancel_left heq⟩

/-- Where a piece is taken a scan does not end. -/
theorem Chain.not_ends {piece : Piece} {pieces : List Piece} {rest : List Char}
    (h : Chain (piece :: pieces) rest) : ¬ Ends (Piece.join (piece :: pieces) ++ rest) := by
  cases h with
  | cons hlexeme _ _ _ =>
    rw [Piece.join, List.append_assoc, List.append_assoc]
    exact hlexeme.not_ends

/-- **A text is cut in one way only.** -/
theorem Cut.unique {text lead₁ lead₂ rest₁ rest₂ : List Char} {pieces₁ pieces₂ : List Piece}
    (h₁ : Cut text lead₁ pieces₁ rest₁) (hends₁ : Ends rest₁)
    (h₂ : Cut text lead₂ pieces₂ rest₂) (hends₂ : Ends rest₂) :
    lead₁ = lead₂ ∧ pieces₁ = pieces₂ ∧ rest₁ = rest₂ := by
  induction pieces₁ generalizing text lead₁ lead₂ pieces₂ with
  | nil =>
    obtain ⟨hlead, hrest⟩ := h₁.lead_unique hends₁ h₂ hends₂
    rw [Piece.join, List.nil_append] at hrest
    cases pieces₂ with
    | nil => exact ⟨hlead, rfl, hrest⟩
    | cons piece₂ pieces₂ => exact absurd (hrest ▸ hends₁) h₂.chain.not_ends
  | cons piece₁ pieces₁ ih =>
    obtain ⟨hlead, hrest⟩ := h₁.lead_unique hends₁ h₂ hends₂
    cases pieces₂ with
    | nil =>
      rw [Piece.join, List.nil_append] at hrest
      exact absurd (hrest ▸ hends₂) h₁.chain.not_ends
    | cons piece₂ pieces₂ =>
      obtain ⟨text₁, kind₁, gap₁⟩ := piece₁
      obtain ⟨text₂, kind₂, gap₂⟩ := piece₂
      rw [Piece.join, Piece.join, List.append_assoc, List.append_assoc, List.append_assoc,
        List.append_assoc] at hrest
      cases h₁.chain with
      | cons hlexeme₁ hkind₁ hgap₁ hchain₁ =>
        cases h₂.chain with
        | cons hlexeme₂ hkind₂ hgap₂ hchain₂ =>
          obtain rfl : text₁ = text₂ := hlexeme₁.longest.unique (hrest ▸ hlexeme₂.longest)
          have hafter := List.append_cancel_left hrest
          have hsame := (Kind.existsUnique_spells hlexeme₂.longest.holds).unique hkind₁ hkind₂
          obtain rfl : kind₁ = kind₂ := hsame
          obtain ⟨rfl, rfl, rfl⟩ := ih ⟨rfl, hgap₁, hchain₁⟩ ⟨hafter, hgap₂, hchain₂⟩
          exact ⟨hlead, rfl, rfl⟩

/-! ### What a scan delivers -/

/-- **Over a chain a scan delivers the tokens of the pieces**, and then what it delivers behind
them. -/
theorem Chain.outcomes {pieces : List Piece} {rest : List Char} (h : Chain pieces rest) :
    ∀ cursor : Cursor, cursor.rest = Piece.join pieces ++ rest →
      (cursor.readings .reserved).map Reading.outcome =
        (Piece.tokens cursor.position pieces).map .ok ++
          ((cursor.advance (Piece.join pieces).length).readings .reserved).map Reading.outcome := by
  induction h with
  | nil =>
    intro cursor _
    rfl
  | @cons piece pieces rest hlexeme hkind hgap _ ih =>
    intro cursor hrest
    rw [Piece.join, List.append_assoc, List.append_assoc] at hrest
    have hread := Cursor.read_lexemeAt hlexeme hkind hrest
    have hmore : (cursor.read .reserved).isLast = false := by
      rw [hread]
      simpa [Reading.token, Reading.isLast, Token.isFinal] using hkind.ne_endOfInput
    have hbehind := Cursor.advance_text hrest
    have hnext := Cursor.advance_text hbehind
    rw [Cursor.readings_eq, hmore, if_neg (by simp), List.map_cons, hread]
    show .ok _ :: ((cursor.advance piece.text.length).readings .reserved).map Reading.outcome = _
    rw [Cursor.readings_gap _ hgap hbehind, ih _ hnext, Cursor.position_advance_text hbehind,
      Cursor.position_advance_text hrest, Cursor.advance_advance, Cursor.advance_advance]
    simp only [Piece.tokens, Piece.join, List.map_cons, List.cons_append, List.length_append,
      Position.after_append]

/-- **What a scan delivers over a cut text**: the tokens of its pieces, and then what it delivers
where the cut ends. -/
theorem Cut.outcomes {cursor : Cursor} {lead rest : List Char} {pieces : List Piece}
    (h : Cut cursor.rest lead pieces rest) :
    ∃ last : Cursor, last.rest = rest ∧
      last.position = cursor.position.after (lead ++ Piece.join pieces) ∧
      (cursor.readings .reserved).map Reading.outcome =
        (Piece.tokens (cursor.position.after lead) pieces).map .ok ++
          (last.readings .reserved).map Reading.outcome := by
  have hfirst := Cursor.advance_text h.text_eq
  refine ⟨_, Cursor.advance_text hfirst, ?_, ?_⟩
  · rw [Cursor.position_advance_text hfirst, Cursor.position_advance_text h.text_eq,
      Position.after_append]
  · rw [Cursor.readings_gap _ h.lead h.text_eq, h.chain.outcomes _ hfirst,
      Cursor.position_advance_text h.text_eq]

/-- The scan of a source that is cut up to its last gap returns the tokens of the cut and the end. -/
theorem Cut.tokenize_gap {source : String} {lead gap : List Char} {pieces : List Piece}
    (h : Cut source.toList lead pieces gap) (hgap : IsGap gap []) :
    tokenize source = .ok (Piece.tokens (Position.start.after lead) pieces
      ++ [⟨.endOfInput, none, Position.start.after source.toList⟩]) := by
  have hcut : Cut (Cursor.ofText source.toList).rest lead pieces gap := h
  obtain ⟨last, hrest, hposition, houtcomes⟩ := hcut.outcomes
  rw [← List.append_nil gap] at hrest
  have hread := Cursor.read_end .reserved (Cursor.advance_text hrest)
  have hlast : ((last.advance gap.length).read .reserved).isLast = true := by
    rw [hread]
    rfl
  have hend : (last.advance gap.length).position = Position.start.after source.toList := by
    rw [Cursor.position_advance_text hrest, hposition, ← Position.after_append, List.append_assoc,
      ← h.text_eq]
    rfl
  rw [tokenize_eq]
  apply gather_ok
  rw [houtcomes, Cursor.readings_gap _ hgap hrest, Cursor.readings_eq, hlast, if_pos rfl, hread, hend,
    List.map_append]
  rfl

/-- So does the scan of a source that is cut to its end. -/
theorem Cut.tokenize_ok {source : String} {lead : List Char} {pieces : List Piece}
    (h : Cut source.toList lead pieces []) :
    tokenize source = .ok (Piece.tokens (Position.start.after lead) pieces
      ++ [⟨.endOfInput, none, Position.start.after source.toList⟩]) :=
  h.tokenize_gap .nil

/-- The scan of a source that is cut up to a fault delivers the tokens of the cut and the fault, at
the position where the cursor then stands. -/
theorem Cut.outcomes_faults {source : String} {lead rest passed : List Char} {pieces : List Piece}
    {fault : Fault} (h : Cut source.toList lead pieces rest) (hfaults : Faults rest passed fault) :
    ((Cursor.ofText source.toList).readings .reserved).map Reading.outcome =
      (Piece.tokens (Position.start.after lead) pieces).map .ok ++
        [.error ⟨fault, Position.start.after (lead ++ Piece.join pieces ++ passed)⟩] := by
  have hcut : Cut (Cursor.ofText source.toList).rest lead pieces rest := h
  obtain ⟨last, hrest, hposition, houtcomes⟩ := hcut.outcomes
  have hread := Cursor.read_faults .reserved (hrest ▸ hfaults)
  have hlast : (last.read .reserved).isLast = true := by
    rw [hread]
    rfl
  obtain ⟨left, rfl⟩ := hfaults.passed_isPrefix
  have hstand := Cursor.position_advance_text hrest
  rw [hposition, ← Position.after_append] at hstand
  rw [houtcomes, Cursor.readings_eq, hlast, if_pos rfl, hread, List.map_singleton, Reading.fault,
    hstand]
  rfl

/-- The scan of a source that is cut up to a fault returns the fault, at the position where the cursor
then stands. -/
theorem Cut.tokenize_error {source : String} {lead rest passed : List Char} {pieces : List Piece}
    {fault : Fault} (h : Cut source.toList lead pieces rest) (hfaults : Faults rest passed fault) :
    tokenize source =
      .error ⟨fault, Position.start.after (lead ++ Piece.join pieces ++ passed)⟩ := by
  rw [tokenize_eq, gather_error (h.outcomes_faults hfaults)]

/-- A source that has tokens is cut to its end. -/
theorem Cut.exists_of_ok {source : String} {tokens : List Token} (h : tokenize source = .ok tokens) :
    ∃ lead pieces, Cut source.toList lead pieces [] ∧
      tokens = Piece.tokens (Position.start.after lead) pieces
        ++ [⟨.endOfInput, none, Position.start.after source.toList⟩] := by
  obtain ⟨lead, pieces, rest, hcut, hends⟩ := Cut.exists_ends source.toList
  rcases hends with rfl | ⟨passed, fault, hfaults⟩
  · rw [hcut.tokenize_ok] at h
    exact ⟨lead, pieces, hcut, (Except.ok.inj h).symm⟩
  · rw [hcut.tokenize_error hfaults] at h
    simp at h

/-- A source that has an error is cut up to its fault. -/
theorem Cut.exists_of_error {source : String} {error : LexicalError}
    (h : tokenize source = .error error) :
    ∃ lead pieces rest passed, Cut source.toList lead pieces rest ∧
      Faults rest passed error.fault ∧
      error.position = Position.start.after (lead ++ Piece.join pieces ++ passed) := by
  obtain ⟨lead, pieces, rest, hcut, hends⟩ := Cut.exists_ends source.toList
  rcases hends with rfl | ⟨passed, fault, hfaults⟩
  · rw [hcut.tokenize_ok] at h
    simp at h
  · rw [hcut.tokenize_error hfaults] at h
    obtain rfl := Except.error.inj h
    exact ⟨lead, pieces, rest, passed, hcut, hfaults, rfl⟩

/-! ### The grammar of a source -/

/-- **A source has tokens exactly when it can be cut to its end.**  There is one such cut at most,
and its lexemes are the tokens, each with its kind and the position of its first character; the end
of the input comes last. -/
theorem tokenize_eq_ok_iff_cut (source : String) :
    (∀ tokens, tokenize source = .ok tokens ↔
      ∃ lead pieces, Cut source.toList lead pieces [] ∧
        tokens = Piece.tokens (Position.start.after lead) pieces
          ++ [⟨.endOfInput, none, Position.start.after source.toList⟩]) ∧
    ∀ lead₁ pieces₁ lead₂ pieces₂, Cut source.toList lead₁ pieces₁ [] →
      Cut source.toList lead₂ pieces₂ [] → lead₁ = lead₂ ∧ pieces₁ = pieces₂ := by
  refine ⟨?_, ?_⟩
  · intro tokens
    constructor
    · exact Cut.exists_of_ok
    · intro h
      obtain ⟨lead, pieces, hcut, rfl⟩ := h
      exact hcut.tokenize_ok
  · intro lead₁ pieces₁ lead₂ pieces₂ h₁ h₂
    have hsame := h₁.unique (.inl rfl) h₂ (.inl rfl)
    exact ⟨hsame.1, hsame.2.1⟩

end CurlyLex
