import CurlyLex.Proofs.Counting
import CurlyLex.Proofs.Decomposition

/-!
# A scan reports the first fault

A source that has no tokens is cut into pieces up to a place where a reading meets a fault.  Before
that place everything is read; the fault there is one of three, never two of them at once; and the
position that is reported counts the text the reading has gone over.

* `Faults.unique` — a text has only one fault in front, and only one text is gone over.
* `Faults.exclusive` — the three faults exclude each other.
* `FailsAt` — a source is cut up to a fault, which is reported where it should be.
* `FailsAt.unique` — there is only one such place.
* `tokenize_eq_error_iff_failsAt` — a scan returns an error exactly when there is such a place.
-/

namespace CurlyLex

/-! ### One fault at a time -/

/-- A text has only one fault in front, because a reading meets only one. -/
theorem Faults.unique {text passed₁ passed₂ : List Char} {fault₁ fault₂ : Fault}
    (h₁ : Faults text passed₁ fault₁) (h₂ : Faults text passed₂ fault₂) :
    passed₁ = passed₂ ∧ fault₁ = fault₂ := by
  have hread₁ := Cursor.read_faults .reserved (show Faults (Cursor.ofText text).rest _ _ from h₁)
  have hread₂ := Cursor.read_faults .reserved (show Faults (Cursor.ofText text).rest _ _ from h₂)
  have hsame := hread₁.symm.trans hread₂
  obtain ⟨rest₁, rfl⟩ := h₁.passed_isPrefix
  obtain ⟨rest₂, htext⟩ := h₂.passed_isPrefix
  have hfault : fault₁ = fault₂ := by
    have houtcome := congrArg Reading.outcome hsame
    exact congrArg LexicalError.fault (Except.error.inj houtcome)
  have hrest : rest₁ = rest₂ := by
    have hleft := congrArg (fun reading => reading.cursor.rest) hsame
    have hleft₁ : (passed₁ ++ rest₁).drop passed₁.length = rest₁ := List.drop_left
    have hleft₂ : (passed₁ ++ rest₁).drop passed₂.length = rest₂ := by
      rw [← htext, List.drop_left]
    exact hleft₁.symm.trans (Eq.trans hleft hleft₂)
  subst hrest
  exact ⟨(List.append_cancel_right htext).symm, hfault⟩

/-- **The three faults exclude each other.** -/
theorem Faults.exclusive (text : List Char) :
    ¬ (Gap.Unclosed text ∧ ∃ number mark, RunsIntoMark number mark text) ∧
    ¬ (Gap.Unclosed text ∧ ∃ c, StartsNothing c text) ∧
    ¬ ((∃ number mark, RunsIntoMark number mark text) ∧ ∃ c, StartsNothing c text) := by
  refine ⟨?_, ?_, ?_⟩
  · intro h
    obtain ⟨hunclosed, number, mark, hmark⟩ := h
    have hsame := (Faults.unclosed hunclosed).unique (.mark hmark)
    exact absurd hsame.2 (by simp)
  · intro h
    obtain ⟨hunclosed, c, hnothing⟩ := h
    have hsame := (Faults.unclosed hunclosed).unique (.nothing hnothing)
    exact absurd hsame.2 (by simp)
  · intro h
    obtain ⟨⟨number, mark, hmark⟩, c, hnothing⟩ := h
    have hsame := (Faults.mark hmark).unique (.nothing hnothing)
    exact absurd hsame.2 (by simp)

/-! ### Where a scan fails -/

/-- What is gone over in a cut text and behind it is no longer than the text. -/
theorem Cut.length_le {text lead rest passed : List Char} {pieces : List Piece}
    (h : Cut text lead pieces rest) (hpassed : passed <+: rest) :
    (lead ++ Piece.join pieces ++ passed).length ≤ text.length := by
  have hle := hpassed.length_le
  rw [h.text_eq]
  simp only [List.length_append]
  omega

/-- A source is cut into pieces up to `rest`, where a reading goes over `passed` and meets the fault
of `error`; the position of `error` counts everything that has been gone over. -/
structure FailsAt (source lead : List Char) (pieces : List Piece) (rest passed : List Char)
    (error : LexicalError) : Prop where
  cut : Cut source lead pieces rest
  faults : Faults rest passed error.fault
  marks : error.position.Marks (lead ++ Piece.join pieces ++ passed)

namespace FailsAt

variable {source lead rest passed : List Char} {pieces : List Piece} {error : LexicalError}

/-- The position of the error is the one where the cursor then stands. -/
theorem position_eq (h : FailsAt source lead pieces rest passed error)
    (hshort : source.length < 2 ^ 32 - 1) :
    error.position = Position.start.after (lead ++ Piece.join pieces ++ passed) := by
  have hle := h.cut.length_le h.faults.passed_isPrefix
  exact h.marks.unique (Position.marks_after (by omega))

/-- **A source fails at one place only, and with one error.** -/
theorem unique {lead' rest' passed' : List Char} {pieces' : List Piece} {error' : LexicalError}
    (h : FailsAt source lead pieces rest passed error)
    (h' : FailsAt source lead' pieces' rest' passed' error') :
    lead = lead' ∧ pieces = pieces' ∧ rest = rest' ∧ passed = passed' ∧ error = error' := by
  have hends : Ends rest := .inr ⟨_, _, h.faults⟩
  have hends' : Ends rest' := .inr ⟨_, _, h'.faults⟩
  obtain ⟨rfl, rfl, rfl⟩ := h.cut.unique hends h'.cut hends'
  obtain ⟨rfl, hfault⟩ := h.faults.unique h'.faults
  have hposition := h.marks.unique h'.marks
  refine ⟨rfl, rfl, rfl, rfl, ?_⟩
  obtain ⟨fault₁, position₁⟩ := error
  obtain ⟨fault₂, position₂⟩ := error'
  obtain rfl : fault₁ = fault₂ := hfault
  obtain rfl : position₁ = position₂ := hposition
  rfl

end FailsAt

/-- A source that has an error fails at the place of the error. -/
theorem FailsAt.exists_of_error {source : String} {error : LexicalError}
    (h : tokenize source = .error error) (hshort : source.length < 2 ^ 32 - 1) :
    ∃ lead pieces rest passed, FailsAt source.toList lead pieces rest passed error := by
  obtain ⟨lead, pieces, rest, passed, hcut, hfaults, hposition⟩ := Cut.exists_of_error h
  have hle := hcut.length_le hfaults.passed_isPrefix
  rw [String.length_toList] at hle
  refine ⟨lead, pieces, rest, passed, hcut, hfaults, ?_⟩
  rw [hposition]
  exact Position.marks_after (by omega)

/-- Before the place where a source fails everything is read, and there the error is. -/
theorem FailsAt.outcomes {source : String} {lead rest passed : List Char} {pieces : List Piece}
    {error : LexicalError} (h : FailsAt source.toList lead pieces rest passed error)
    (hshort : source.length < 2 ^ 32 - 1) :
    ((Cursor.ofText source.toList).readings .reserved).map Reading.outcome =
      (Piece.tokens (Position.start.after lead) pieces).map .ok ++ [.error error] := by
  have hposition := h.position_eq (by rw [String.length_toList]; exact hshort)
  rw [h.cut.outcomes_faults h.faults, ← hposition]

/-- **A scan returns an error exactly when its source fails somewhere**, and then it is the error
there: a source fails at one place only, with one of three faults that exclude each other, and
everything before that place is read. -/
theorem tokenize_eq_error_iff_failsAt (source : String) (hshort : source.length < 2 ^ 32 - 1) :
    (∀ error, tokenize source = .error error ↔
      ∃ lead pieces rest passed, FailsAt source.toList lead pieces rest passed error) ∧
    (∀ lead pieces rest passed error, FailsAt source.toList lead pieces rest passed error →
      ((Cursor.ofText source.toList).readings .reserved).map Reading.outcome =
        (Piece.tokens (Position.start.after lead) pieces).map .ok ++ [.error error]) ∧
    (∀ lead₁ pieces₁ rest₁ passed₁ error₁ lead₂ pieces₂ rest₂ passed₂ error₂,
      FailsAt source.toList lead₁ pieces₁ rest₁ passed₁ error₁ →
      FailsAt source.toList lead₂ pieces₂ rest₂ passed₂ error₂ →
      lead₁ = lead₂ ∧ pieces₁ = pieces₂ ∧ rest₁ = rest₂ ∧ passed₁ = passed₂ ∧ error₁ = error₂) ∧
    ∀ rest, ¬ (Gap.Unclosed rest ∧ ∃ number mark, RunsIntoMark number mark rest) ∧
      ¬ (Gap.Unclosed rest ∧ ∃ c, StartsNothing c rest) ∧
      ¬ ((∃ number mark, RunsIntoMark number mark rest) ∧ ∃ c, StartsNothing c rest) := by
  refine ⟨?_, ?_, ?_, Faults.exclusive⟩
  · intro error
    constructor
    · intro h
      exact FailsAt.exists_of_error h hshort
    · intro h
      obtain ⟨lead, pieces, rest, passed, hfails⟩ := h
      rw [tokenize_eq, gather_error (hfails.outcomes hshort)]
  · intro lead pieces rest passed error h
    exact h.outcomes hshort
  · intro lead₁ pieces₁ rest₁ passed₁ error₁ lead₂ pieces₂ rest₂ passed₂ error₂ h₁ h₂
    exact h₁.unique h₂

/-- A comment that is opened on the second line and never closed is reported at the end of the
source. -/
theorem tokenize_open_comment :
    tokenize "\n/* x" = .error ⟨.unterminatedComment, ⟨2, 5⟩⟩ := by
  have hcut : Cut "\n/* x".toList ['\n'] [] ['/', '*', ' ', 'x'] :=
    ⟨rfl, .blank (by decide) .nil, .nil⟩
  have hfaults : Faults ['/', '*', ' ', 'x'] ['/', '*', ' ', 'x'] .unterminatedComment :=
    .unclosed ⟨[' ', 'x'], rfl, by decide⟩
  apply ((tokenize_eq_error_iff_failsAt "\n/* x" (by decide)).1 _).2
  exact ⟨['\n'], [], _, _, hcut, hfaults, ⟨by decide, by decide⟩⟩

end CurlyLex
