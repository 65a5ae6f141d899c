import CurlyLex.Proofs.FirstFault
import CurlyLex.Proofs.Lookahead

/-!
# Sources one below the other

Two sources may be joined by a line feed.  A line feed ends a line comment, no lexeme goes over it,
and every fault but an open comment is met before it, so the scan of the first source is not altered
by what comes below.  Below it the second source is read as it is by itself, only so many lines
further down.

* `Position.down`, `Token.down`, `LexicalError.down` — the same place, so many lines further down.
* `Position.after_down`, `Piece.tokens_down` — what is read further down stands further down.
* `Position.after_feed` — behind a line feed one stands at the start of a line.
* `IsGap.join`, `Cut.join` — two cuts make one cut of the joined texts.
* `tokenize_joined` — the scan of joined sources.
-/

namespace CurlyLex

/-! ### Further down -/

/-- The same place, so many lines further down. -/
def Position.down (lines : Nat) (position : Position) : Position :=
  ⟨position.line + .ofNat lines, position.column⟩

/-- The same token, so many lines further down. -/
def Token.down (lines : Nat) (token : Token) : Token :=
  { token with position := token.position.down lines }

/-- The same error, so many lines further down. -/
def LexicalError.down (lines : Nat) (error : LexicalError) : LexicalError :=
  { error with position := error.position.down lines }

namespace Position

theorem next_down (position : Position) (lines : Nat) (c : Char) :
    (position.down lines).next c = (position.next c).down lines := by
  by_cases hc : c = '\n'
  · rw [next, next, if_pos hc, if_pos hc, down, down]
    simp only [UInt32.add_assoc, UInt32.add_comm 1]
  · rw [next, next, if_neg hc, if_neg hc]
    rfl

theorem after_down (position : Position) (lines : Nat) (text : List Char) :
    (position.down lines).after text = (position.after text).down lines := by
  induction text generalizing position with
  | nil => rfl
  | cons c text ih => rw [after_cons, next_down, ih, after_cons]

/-- Behind a text and a line feed one stands at the start of a line. -/
theorem after_feed (text : List Char) :
    start.after (text ++ ['\n']) = start.down (1 + text.count '\n') := by
  have hany : ∀ position : Position,
      position.after (text ++ ['\n']) = ⟨position.line + .ofNat (1 + text.count '\n'), 1⟩ := by
    induction text with
    | nil => exact fun _ => rfl
    | cons c text ih =>
      intro position
      rw [List.cons_append, after_cons, ih]
      by_cases hc : c = '\n'
      · subst hc
        have hcount : UInt32.ofNat (1 + (text.count '\n' + 1)) =
            1 + .ofNat (1 + text.count '\n') := by
          rw [Nat.add_comm _ 1, UInt32.ofNat_add]
          rfl
        rw [next, if_pos rfl, List.count_cons_self, hcount, ← UInt32.add_assoc]
      · rw [next, if_neg hc, List.count_cons_of_ne hc]
  exact hany start

/-- As long as no counter wraps, the line is that many lines further down. -/
theorem Marks.line_down {position : Position} {before : List Char} {lines : Nat}
    (h : position.Marks before) (hshort : before.length + lines < 2 ^ 32 - 1) :
    (position.down lines).line.toNat = position.line.toNat + lines := by
  have hline : before.count '\n' ≤ before.length := List.count_le_length
  have hlines : lines % 2 ^ 32 = lines := Nat.mod_eq_of_lt (by omega)
  show (position.line + .ofNat lines).toNat = _
  rw [UInt32.toNat_add, UInt32.toNat_ofNat', hlines, h.line]
  exact Nat.mod_eq_of_lt (by omega)

end Position

/-- Pieces that stand further down make tokens that stand further down. -/
theorem Piece.tokens_down (position : Position) (lines : Nat) (pieces : List Piece) :
    tokens (position.down lines) pieces = (tokens position pieces).map (Token.down lines) := by
  induction pieces generalizing position with
  | nil => rfl
  | cons piece pieces ih =>
    rw [tokens, Position.after_down, ih]
    rfl

/-- The tokens of a cut stand behind parts of the text. -/
theorem Cut.marks_of_mem_tokens {text lead rest : List Char} {pieces : List Piece} {token : Token}
    (h : Cut text lead pieces rest) (hshort : text.length < 2 ^ 32 - 1)
    (htoken : token ∈ Piece.tokens (Position.start.after lead) pieces) :
    ∃ before, token.position.Marks before ∧ before.length ≤ text.length := by
  obtain ⟨i, hi⟩ := List.mem_iff_getElem?.1 htoken
  have hless : i < pieces.length := by
    rw [← Piece.length_tokens (Position.start.after lead)]
    exact (List.getElem?_eq_some_iff.1 hi).1
  rw [Piece.getElem?_tokens _ _ _ hless, ← Position.after_append] at hi
  obtain rfl := Option.some.inj hi
  have hle : (lead ++ Piece.join (pieces.take i)).length ≤ text.length := by
    have htake := Piece.length_join_take pieces i
    rw [h.text_eq]
    simp only [List.length_append]
    omega
  exact ⟨_, Position.marks_after (by omega), hle⟩

/-! ### Cuts below cuts -/

/-- A gap at the end of a text, a line feed, and a gap. -/
theorem IsGap.join {first second rest : List Char} (h : IsGap first []) (h' : IsGap second rest) :
    IsGap (first ++ '\n' :: second) rest := by
  generalize hnil : ([] : List Char) = behind at h
  induction h with
  | nil => exact .blank (by decide) h'
  | blank hc _ ih => exact .blank hc (ih hnil)
  | @line body gap behind hbody hend _ ih =>
    subst hnil
    show IsGap ('/' :: '/' :: ((body ++ gap) ++ '\n' :: second)) rest
    rw [List.append_assoc]
    refine .line hbody ?_ (ih rfl)
    intro c hc
    cases gap with
    | nil => exact (by simpa using hc.symm)
    | cons d gap => exact hend c hc
  | @block body gap behind hbody _ ih =>
    show IsGap ('/' :: '*' :: ((body ++ '*' :: '/' :: gap) ++ '\n' :: second)) rest
    rw [List.append_assoc]
    exact .block hbody (ih hnil)

/-- **A text that is cut to its end may have another below it**: the pieces of both make a cut of the
joined texts, and the tokens of the first come before those of the second. -/
theorem Cut.join {first second lead lead' rest : List Char} {pieces pieces' : List Piece}
    (h : Cut first lead pieces []) (h' : Cut second lead' pieces' rest) :
    ∃ lead'' pieces'', Cut (first ++ '\n' :: second) lead'' pieces'' rest ∧
      ∀ position : Position, Piece.tokens (position.after lead'') pieces'' =
        Piece.tokens (position.after lead) pieces ++
          Piece.tokens ((position.after (first ++ ['\n'])).after lead') pieces' := by
  induction pieces generalizing first lead with
  | nil =>
    obtain rfl : first = lead := by
      rw [h.text_eq]
      exact List.append_nil lead
    refine ⟨first ++ '\n' :: lead', pieces', ⟨?_, h.lead.join h'.lead, h'.chain⟩, ?_⟩
    · rw [h'.text_eq, List.append_assoc]
      rfl
    · intro position
      rw [← List.singleton_append, ← List.append_assoc, Position.after_append]
      rfl
  | cons piece pieces ih =>
    cases h.chain with
    | cons hlexeme hkind hgap hchain =>
      obtain ⟨gap, others, hcut, htokens⟩ := ih ⟨rfl, hgap, hchain⟩
      have hlead : IsGap lead
          (piece.text ++ (piece.gap ++ (Piece.join pieces ++ []) ++ '\n' :: second)) := by
        have hgap := h.lead.extend (.append_feed _ second)
        simp only [Piece.join, List.append_assoc] at hgap ⊢
        exact hgap
      have hlexeme' := hlexeme.clips (ExtendsTo.append_feed _ second).clips
      have htext : ∀ behind, first ++ behind = lead ++
          (piece.text ++ (piece.gap ++ (Piece.join pieces ++ []) ++ behind)) := by
        intro behind
        rw [h.text_eq]
        simp only [Piece.join, List.append_assoc]
      rw [htext, htext]
      refine ⟨lead, _, hcut.cons hlead hlexeme' hkind, ?_⟩
      intro position
      have hbehind := htokens ((position.after lead).after piece.text)
      simp only [Position.after_append] at hbehind
      simp only [Piece.tokens, Position.after_append, List.cons_append, hbehind]

/-! ### Scans of joined sources -/

/-- The pieces of both texts go as far down in the joined text as the second text does, below the
first. -/
theorem Cut.position_join {first second lead' lead'' rest : List Char} {pieces' pieces'' : List Piece}
    (h' : Cut second lead' pieces' rest) (h : Cut (first ++ '\n' :: second) lead'' pieces'' rest)
    (passed : List Char) :
    Position.start.after (lead'' ++ Piece.join pieces'' ++ passed) =
      (Position.start.after (lead' ++ Piece.join pieces' ++ passed)).down (1 + first.count '\n') := by
  have htext : first ++ ['\n'] ++ (lead' ++ Piece.join pieces') ++ rest =
      lead'' ++ Piece.join pieces'' ++ rest := by
    rw [List.append_assoc lead'', ← h.text_eq, h'.text_eq]
    simp only [List.append_assoc, List.cons_append, List.nil_append]
  rw [← List.append_cancel_right htext, List.append_assoc, Position.after_append,
    Position.after_feed, Position.after_down]

section

variable {first second joined : String} {lead lead' rest passed : List Char}
  {pieces pieces' : List Piece} {fault : Fault}

/-- Below a source that is read to its end, a source is read to its end as well. -/
theorem Cut.tokenize_below_ok (h : Cut first.toList lead pieces [])
    (h' : Cut second.toList lead' pieces' [])
    (hjoined : joined.toList = first.toList ++ '\n' :: second.toList) :
    tokenize joined = .ok (Piece.tokens (Position.start.after lead) pieces ++
      (Piece.tokens (Position.start.after lead') pieces' ++
        [(⟨.endOfInput, none, Position.start.after second.toList⟩ : Token)]).map
          (Token.down (1 + first.toList.count '\n'))) := by
  obtain ⟨lead'', pieces'', hcut, htokens⟩ := h.join h'
  have hend := h'.position_join hcut []
  rw [List.append_assoc, List.append_assoc, ← hcut.text_eq, ← h'.text_eq] at hend
  rw [← hjoined] at hcut hend
  rw [hcut.tokenize_ok, htokens, Position.after_feed, Position.after_down, Piece.tokens_down, hend,
    List.map_append, List.append_assoc]
  rfl

/-- Below a source that is read to its end, a source is read up to the same fault. -/
theorem Cut.tokenize_below_error (h : Cut first.toList lead pieces [])
    (h' : Cut second.toList lead' pieces' rest) (hfaults : Faults rest passed fault)
    (hjoined : joined.toList = first.toList ++ '\n' :: second.toList) :
    tokenize joined = .error ⟨fault,
      (Position.start.after (lead' ++ Piece.join pieces' ++ passed)).down
        (1 + first.toList.count '\n')⟩ := by
  obtain ⟨lead'', pieces'', hcut, -⟩ := h.join h'
  have hend := h'.position_join hcut passed
  rw [← hjoined] at hcut
  rw [hcut.tokenize_error hfaults, hend]

/-- Above another source a fault on the spot is met as it would be without it. -/
theorem Cut.tokenize_above (h : Cut first.toList lead pieces rest)
    (hfaults : Faults rest passed fault) (hfault : fault ≠ .unterminatedComment)
    (hjoined : joined.toList = first.toList ++ '\n' :: second.toList) :
    tokenize joined = tokenize first := by
  obtain ⟨front, behind, rfl, -, -, -, hclips⟩ := hfaults.exists_front hfault
  have hcut := h.extend (.append_feed _ second.toList)
  have hfaults' := hclips _ (ExtendsTo.append_feed behind second.toList).clips
  have htext : lead ++ (Piece.join pieces ++ (front ++ behind ++ '\n' :: second.toList)) =
      joined.toList := by
    rw [hjoined, h.text_eq]
    simp only [List.append_assoc]
  rw [htext, List.append_assoc] at hcut
  rw [hcut.tokenize_error hfaults', h.tokenize_error hfaults]

end

/-- **Below each other sources are read as they are by themselves.**  When the first is read to its
end, the second follows with its tokens or its error so many lines further down; when the first has
an error other than a comment that is never closed, this is the error of both. -/
theorem tokenize_joined (first second : String)
    (hshort : (first ++ "\n" ++ second).length < 2 ^ 32 - 1) :
    (∀ tokens, tokenize first = .ok tokens →
      ∃ front position, tokens = front ++ [⟨.endOfInput, none, position⟩] ∧
        (∀ more, tokenize second = .ok more →
          tokenize (first ++ "\n" ++ second) =
            .ok (front ++ more.map (Token.down (1 + first.toList.count '\n'))) ∧
          ∀ token ∈ more, (token.position.down (1 + first.toList.count '\n')).line.toNat =
            token.position.line.toNat + (1 + first.toList.count '\n')) ∧
        ∀ error, tokenize second = .error error →
          tokenize (first ++ "\n" ++ second) =
            .error (error.down (1 + first.toList.count '\n')) ∧
          (error.position.down (1 + first.toList.count '\n')).line.toNat =
            error.position.line.toNat + (1 + first.toList.count '\n')) ∧
    ∀ error, tokenize first = .error error → error.fault ≠ .unterminatedComment →
      tokenize (first ++ "\n" ++ second) = .error error := by
  have hjoined : (first ++ "\n" ++ second).toList = first.toList ++ '\n' :: second.toList := by
    rw [String.toList_append, String.toList_append, List.append_assoc]
    rfl
  have hroom : second.toList.length + (1 + first.toList.count '\n') < 2 ^ 32 - 1 := by
    have hcount : first.toList.count '\n' ≤ first.toList.length := List.count_le_length
    rw [← String.length_toList, hjoined, List.length_append, List.length_cons] at hshort
    omega
  refine ⟨?_, ?_⟩
  · intro tokens htokens
    obtain ⟨lead, pieces, hcut, rfl⟩ := Cut.exists_of_ok htokens
    refine ⟨_, _, rfl, ?_, ?_⟩
    · intro more hmore
      obtain ⟨lead', pieces', hcut', rfl⟩ := Cut.exists_of_ok hmore
      refine ⟨hcut.tokenize_below_ok hcut' hjoined, ?_⟩
      intro token htoken
      have hmarks : ∃ before, token.position.Marks before ∧
          before.length ≤ second.toList.length := by
        rcases List.mem_append.1 htoken with hpiece | hend
        · exact hcut'.marks_of_mem_tokens (by omega) hpiece
        · obtain rfl := List.mem_singleton.1 hend
          exact ⟨_, Position.marks_after (by omega), le_refl _⟩
      obtain ⟨before, hbefore, hle⟩ := hmarks
      exact hbefore.line_down (by omega)
    · intro error herror
      obtain ⟨lead', pieces', rest', passed, hcut', hfaults, hposition⟩ := Cut.exists_of_error herror
      rw [LexicalError.down, hposition]
      refine ⟨hcut.tokenize_below_error hcut' hfaults hjoined, ?_⟩
      have hle := hcut'.length_le hfaults.passed_isPrefix
      exact (Position.marks_after (by omega)).line_down (by omega)
  · intro error herror hfault
    obtain ⟨lead, pieces, rest, passed, hcut, hfaults, -⟩ := Cut.exists_of_error herror
    rw [hcut.tokenize_above hfaults hfault hjoined, herror]

/-- An identifier and a line comment above a number, above a number without its exponent, and such a
number above an open comment. -/
theorem tokenize_joined_below_comment :
    tokenize ("a//" ++ "\n" ++ "1") = .ok [⟨.identifier, some "a", ⟨1, 1⟩⟩,
        ⟨.literal .integer, some "1", ⟨2, 1⟩⟩, ⟨.endOfInput, none, ⟨2, 2⟩⟩] ∧
      tokenize ("a//" ++ "\n" ++ "1e") = .error ⟨.malformedExponent "1e", ⟨2, 3⟩⟩ ∧
      tokenize ("1e" ++ "\n" ++ "/*") = .error ⟨.malformedExponent "1e", ⟨1, 3⟩⟩ := by
  have habove : tokenize "a//" =
      .ok [⟨.identifier, some "a", ⟨1, 1⟩⟩, ⟨.endOfInput, none, ⟨1, 4⟩⟩] := by decide +kernel
  have hbelow : tokenize "1" =
      .ok [⟨.literal .integer, some "1", ⟨1, 1⟩⟩, ⟨.endOfInput, none, ⟨1, 2⟩⟩] := by decide +kernel
  have hmark : tokenize "1e" = .error ⟨.malformedExponent "1e", ⟨1, 3⟩⟩ := by decide +kernel
  refine ⟨?_, ?_, ?_⟩
  · obtain ⟨front, position, hfront, hok, -⟩ := (tokenize_joined "a//" "1" (by decide)).1 _ habove
    obtain rfl : [⟨.identifier, some "a", ⟨1, 1⟩⟩] = front := by
      simpa using congrArg List.dropLast hfront
    exact (hok _ hbelow).1
  · obtain ⟨front, position, -, -, herror⟩ := (tokenize_joined "a//" "1e" (by decide)).1 _ habove
    exact (herror _ hmark).1
  · exact (tokenize_joined "1e" "/*" (by decide)).2 _ hmark (by simp)

end CurlyLex
