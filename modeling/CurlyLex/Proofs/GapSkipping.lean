import CurlyLex.Proofs.AfterErrors
import CurlyLex.Proofs.Lookahead

/-!
# Gaps are skipped exactly

Before a lexeme is taken the cursor goes over a gap.  This is the work of a loop over blanks with two
more loops inside, one for each kind of comment, and every test in them looks at two characters at most.
The loop stops on every text.  It leaves the cursor behind the longest gap, or at the end of the source
when a comment of the gap is never closed.

* `Gap.Step` — what a test of the loop may do; `Gap.Step.measure?_eq` — the rest of the walk is the same
  after it, and `Gap.Step.weight_lt` — fewer tests are to come.
* `Cursor.skipGap` — what is skipped before a lexeme is taken; `Cursor.skipGap_eq` — this is the walk;
  `Cursor.read_eq_skipGap` — a reading goes on from there.
* `Cursor.Skips` — the runs of the loop; `Cursor.exists_skips` — there is one for every text, and
  `Cursor.Skips.eq` — it skips the gap.
* `IsGap.longest` — a gap that nothing of a gap comes behind is the longest.
* `Cursor.SkipsExactly`, `Cursor.skipsExactly` — all that is right about skipping, for every cursor.
-/

namespace CurlyLex

/-! ### Steps of the loop -/

namespace Gap

/-- `Step mode text later count`: the loop stands in `mode` before `text`, moves over `count` characters,
and goes on in the mode `later`.  The slash and the star that open a block comment are passed before its
end is looked for.  The two slashes of a line comment are passed with its other characters, and the line
feed behind it is left. -/
inductive Step : Mode → List Char → Mode → Nat → Prop
  | blank {c : Char} {text : List Char} : Text.isBlank c → Step .between (c :: text) .between 1
  | openLine {text : List Char} : Step .between ('/' :: '/' :: text) .line 0
  | openBlock {text : List Char} : Step .between ('/' :: '*' :: text) .block 2
  | passLine {c : Char} {text : List Char} : c ≠ '\n' → Step .line (c :: text) .line 1
  | leaveLine {text : List Char} : (∀ c ∈ text.head?, c = '\n') → Step .line text .between 0
  | passBlock {c : Char} {text : List Char} :
      ¬ ['*', '/'] <+: c :: text → Step .block (c :: text) .block 1
  | closeBlock {text : List Char} : Step .block ('*' :: '/' :: text) .between 2

/-- Where the loop stops: no piece of a gap begins, or the text ends inside a block comment. -/
def Halts : Mode → List Char → Prop
  | .between, text => Stops text
  | .line, _ => False
  | .block, text => text = []

/-- **The loop stops or goes on**, wherever it stands. -/
theorem halts_or_step (mode : Mode) (text : List Char) :
    Halts mode text ∨ ∃ later count, Step mode text later count := by
  cases mode with
  | between =>
    by_cases hstops : Stops text
    · exact .inl hstops
    right
    by_cases hline : ['/', '/'] <+: text
    · obtain ⟨tail, rfl⟩ := hline
      exact ⟨_, _, .openLine⟩
    by_cases hblock : ['/', '*'] <+: text
    · obtain ⟨tail, rfl⟩ := hblock
      exact ⟨_, _, .openBlock⟩
    cases text with
    | nil => exact absurd stops_nil hstops
    | cons c text =>
      by_cases hc : Text.isBlank c
      · exact ⟨_, _, .blank hc⟩
      · exact absurd ⟨by simpa using hc, hline, hblock⟩ hstops
  | line =>
    right
    cases text with
    | nil => exact ⟨_, _, .leaveLine (by simp)⟩
    | cons c text =>
      by_cases hc : c = '\n'
      · exact ⟨_, _, .leaveLine (by simpa using hc)⟩
      · exact ⟨_, _, .passLine hc⟩
  | block =>
    cases text with
    | nil => exact .inl rfl
    | cons c text =>
      right
      by_cases hclose : ['*', '/'] <+: c :: text
      · obtain ⟨tail, htail⟩ := hclose
        rw [← htail]
        exact ⟨_, _, .closeBlock⟩
      · exact ⟨_, _, .passBlock hclose⟩

/-- A bound on the steps that are still to come.  In a line comment it depends on whether the comment
goes on, because neither opening nor leaving it moves the cursor. -/
def weight : Mode → List Char → Nat
  | .between, text => 3 * text.length
  | .line, [] => 1
  | .line, c :: text => if c = '\n' then 3 * text.length + 4 else 3 * text.length + 2
  | .block, text => 3 * text.length

namespace Step

variable {mode later : Mode} {text : List Char} {count : Nat}

theorem count_le (h : Step mode text later count) : count ≤ text.length := by
  cases h <;> simp

theorem weight_lt (h : Step mode text later count) :
    weight later (text.drop count) < weight mode text := by
  cases h with
  | blank _ | openBlock | passBlock _ | closeBlock =>
    simp only [weight, List.drop_succ_cons, List.drop_zero, List.length_cons]
    omega
  | openLine =>
    simp only [weight, List.drop_zero, List.length_cons, Char.reduceEq, if_false]
    omega
  | @passLine c text hc =>
    rw [weight, if_neg hc]
    cases text with
    | nil => exact Nat.lt_succ_self 1
    | cons d text =>
      simp only [weight, List.drop_succ_cons, List.drop_zero, List.length_cons]
      split <;> omega
  | leaveLine hend =>
    cases text with
    | nil => exact Nat.zero_lt_one
    | cons c text =>
      obtain rfl : c = '\n' := hend c rfl
      simp only [weight, List.drop_zero, List.length_cons, if_true]
      omega

/-- **After a step the rest of the walk is the same.** -/
theorem measure?_eq (h : Step mode text later count) :
    measure? mode 0 text = (measure? later 0 (text.drop count)).map (count + ·) := by
  rw [← measure?_add, Nat.add_zero]
  cases h with
  | blank hc => exact measure?_blank hc 0 _
  | openLine => rfl
  | openBlock => rfl
  | passLine hc =>
    rw [measure?, if_neg hc]
    rfl
  | leaveLine hend =>
    have hnil : '\n' ∉ ([] : List Char) := List.not_mem_nil
    exact measure?_line hnil hend 0
  | passBlock hno =>
    rw [measure?.eq_9]
    · rfl
    · intro rest hc htext
      exact hno ⟨rest, by rw [hc, htext]; rfl⟩
  | closeBlock => rfl

end Step

end Gap

/-! ### What is skipped -/

namespace Cursor

/-- What the rest of a walk comes to at a cursor: the cursor is left where the walk ends, or at the end of
the source, with an error there. -/
def skipFrom (mode : Gap.Mode) (cursor : Cursor) : Except LexicalError Unit × Cursor :=
  match Gap.measure? mode 0 cursor.rest with
  | some count => (.ok (), cursor.advance count)
  | none =>
    let later := cursor.advance cursor.rest.length
    (.error ⟨.unterminatedComment, later.position⟩, later)

/-- What is skipped before a lexeme is taken. -/
def skipGap (cursor : Cursor) : Except LexicalError Unit × Cursor :=
  let (outcome, desk) := Work.skipGap.on ⟨cursor, .start .info⟩
  (outcome, desk.cursor)

/-- This is the walk from where no comment is open. -/
theorem skipGap_eq (cursor : Cursor) : cursor.skipGap = cursor.skipFrom .between := by
  rw [skipGap, Work.on_skipGap, skipFrom, Gap.length?]
  cases Gap.measure? .between 0 cursor.rest with
  | some count => rfl
  | none => rfl

/-- **A reading skips the gap** and goes on from there, unless that has failed. -/
theorem read_eq_skipGap (keywords : Keywords) (cursor : Cursor) :
    cursor.read keywords =
      match cursor.skipGap with
      | (.ok (), later) => later.readLexeme keywords
      | (.error error, later) => ⟨.error error, later⟩ := by
  rw [read_eq, Gap.length?, skipGap_eq, skipFrom]
  cases Gap.measure? .between 0 cursor.rest with
  | some count => rfl
  | none => rfl

/-- **After a step the same is skipped.** -/
theorem skipFrom_step {mode later : Gap.Mode} {cursor : Cursor} {count : Nat}
    (h : Gap.Step mode cursor.rest later count) :
    cursor.skipFrom mode = (cursor.advance count).skipFrom later := by
  have hrest : (cursor.advance count).rest = cursor.rest.drop count := rfl
  rw [skipFrom, skipFrom, h.measure?_eq, hrest]
  cases Gap.measure? later 0 (cursor.rest.drop count) with
  | some n =>
    show (Except.ok (), cursor.advance (count + n)) = (.ok (), (cursor.advance count).advance n)
    rw [advance_advance]
  | none =>
    have hend : (cursor.advance count).advance (cursor.rest.drop count).length =
        cursor.advance cursor.rest.length := by
      rw [advance_advance, List.length_drop, Nat.add_sub_cancel' h.count_le]
    show (Except.error _, cursor.advance cursor.rest.length) = _
    rw [hend]

/-- The runs of the loop: `Skips mode cursor tests outcome last` when from `cursor` in `mode` it stops
after so many tests, with an outcome and the cursor `last`. -/
inductive Skips : Gap.Mode → Cursor → Nat → Except LexicalError Unit → Cursor → Prop
  | finish {cursor : Cursor} : Gap.Stops cursor.rest → Skips .between cursor 1 (.ok ()) cursor
  | fail {cursor : Cursor} : cursor.rest = [] →
      Skips .block cursor 1 (.error ⟨.unterminatedComment, cursor.position⟩) cursor
  | step {mode later : Gap.Mode} {cursor last : Cursor} {count tests : Nat}
      {outcome : Except LexicalError Unit} :
      Gap.Step mode cursor.rest later count → Skips later (cursor.advance count) tests outcome last →
      Skips mode cursor (tests + 1) outcome last

/-- **Every run skips the same**, which is what the walk comes to. -/
theorem Skips.eq {mode : Gap.Mode} {cursor last : Cursor} {tests : Nat}
    {outcome : Except LexicalError Unit} (h : Skips mode cursor tests outcome last) :
    cursor.skipFrom mode = (outcome, last) := by
  induction h with
  | finish hstops =>
    rw [skipFrom, Gap.measure?_stops hstops]
    rfl
  | fail hnil =>
    rw [skipFrom, hnil]
    rfl
  | step hstep _ ih => rw [skipFrom_step hstep, ih]

/-- **The loop stops on every text**, after three tests for each of its characters and one more, or
earlier. -/
theorem exists_skips (mode : Gap.Mode) (cursor : Cursor) :
    ∃ tests outcome last, tests ≤ Gap.weight mode cursor.rest + 1 ∧
      Skips mode cursor tests outcome last := by
  -- on the bound of the steps that are still to come
  induction hweight : Gap.weight mode cursor.rest using Nat.strongRecOn generalizing mode cursor with
  | _ n ih =>
    subst hweight
    rcases Gap.halts_or_step mode cursor.rest with hhalts | ⟨later, count, hstep⟩
    · cases mode with
      | between => exact ⟨1, _, _, Nat.le_add_left _ _, .finish hhalts⟩
      | line => exact hhalts.elim
      | block => exact ⟨1, _, _, Nat.le_add_left _ _, .fail hhalts⟩
    · have hless := hstep.weight_lt
      obtain ⟨tests, outcome, last, htests, hskips⟩ := ih _ hless later (cursor.advance count) rfl
      exact ⟨tests + 1, outcome, last, by omega, .step hstep hskips⟩

end Cursor

/-! ### The longest gap -/

/-- Where nothing of a gap begins, nothing of it begins in a text that is cut short. -/
theorem Gap.Stops.of_isPrefix {text front : List Char} (h : Stops text) (hfront : front <+: text) :
    Stops front := by
  refine ⟨?_, fun hline => h.not_line (hline.trans hfront),
    fun hblock => h.not_block (hblock.trans hfront)⟩
  intro c hc
  obtain ⟨tail, rfl⟩ := List.head?_eq_some_iff.1 hc
  obtain ⟨rest, rfl⟩ := hfront
  exact h.not_blank c rfl

/-- **A gap behind which nothing of a gap begins is the longest** of all that stand at the front of the
text, even when the end of each of them counts as the end of the text. -/
theorem IsGap.longest {gap rest : List Char} (h : IsGap gap rest) (hstops : Gap.Stops rest) :
    Longest (fun front => IsGap front []) gap (gap ++ rest) := by
  refine ⟨List.prefix_append gap rest, h.extend (.of_isPrefix List.nil_prefix), ?_⟩
  intro other hfront hother
  by_contra hmore
  obtain ⟨more, rfl⟩ := List.prefix_of_prefix_length_le (List.prefix_append gap rest) hfront (by omega)
  have hbehind : more <+: rest := (List.prefix_append_right_inj gap).1 hfront
  -- what is left of the longer gap would begin where nothing of a gap begins
  have hleft : IsGap more [] := by
    apply hother.cancel
    rw [List.append_nil]
    exact h.extend (.of_isPrefix hbehind)
  have hnil := hleft.eq_nil_of_stops (by rw [List.append_nil]; exact hstops.of_isPrefix hbehind)
  rw [hnil, List.append_nil] at hmore
  exact hmore le_rfl

namespace Cursor

/-! ### All about skipping -/

/-- A gap behind which nothing of a gap begins is skipped. -/
theorem skipGap_stops {cursor : Cursor} {gap rest : List Char} (hrest : cursor.rest = gap ++ rest)
    (hgap : IsGap gap rest) (hstops : Gap.Stops rest) :
    cursor.skipGap = (.ok (), cursor.advance gap.length) := by
  have hlength := Gap.length?_append hgap hstops
  rw [Gap.length?] at hlength
  rw [skipGap_eq, skipFrom, hrest, hlength]

/-- A comment behind a gap that is never closed takes the cursor to the end. -/
theorem skipGap_unclosed {cursor : Cursor} {gap rest : List Char} (hrest : cursor.rest = gap ++ rest)
    (hgap : IsGap gap rest) (hunclosed : Gap.Unclosed rest) :
    cursor.skipGap = (.error ⟨.unterminatedComment, (cursor.advance cursor.rest.length).position⟩,
      cursor.advance cursor.rest.length) := by
  have hlength := Gap.length?_gap hgap
  rw [Gap.length?_unclosed hunclosed, Option.map_none, Gap.length?] at hlength
  rw [skipGap_eq, skipFrom, hrest, hlength]

/-- What is right about skipping at a cursor in `source`.  The loop stops, and each of its runs skips the
same; a reading goes on from there.  Without an error the longest gap is skipped, nothing of a gap begins
behind it, and nothing is skipped again.  There is an error just when a comment begins behind a gap and is
never closed, and then the cursor is at the end of the source, where the error is reported. -/
structure SkipsExactly (cursor : Cursor) (source : String) : Prop where
  halts : ∃ tests, tests ≤ 3 * cursor.rest.length + 1 ∧
    cursor.Skips .between tests cursor.skipGap.1 cursor.skipGap.2
  eq : ∀ tests outcome last, cursor.Skips .between tests outcome last →
    (outcome, last) = cursor.skipGap
  read : ∀ keywords, cursor.read keywords =
    match cursor.skipGap with
    | (.ok (), later) => later.readLexeme keywords
    | (.error error, later) => ⟨.error error, later⟩
  ok : ∀ later, cursor.skipGap = (.ok (), later) →
    ∃ gap, cursor.rest = gap ++ later.rest ∧ later = cursor.advance gap.length ∧
      IsGap gap later.rest ∧ Longest (fun front => IsGap front []) gap cursor.rest ∧
      Gap.Stops later.rest ∧ later.skipGap = (.ok (), later)
  error : (∃ error later, cursor.skipGap = (.error error, later)) ↔
    ∃ gap rest, cursor.rest = gap ++ rest ∧ IsGap gap rest ∧ Gap.Unclosed rest
  atEnd : ∀ error later, cursor.skipGap = (.error error, later) →
    error = ⟨.unterminatedComment, later.position⟩ ∧ later.rest = [] ∧ later.atEnd = true ∧
      later.offset = source.utf8ByteSize

/-- **Gaps are skipped exactly**, wherever a cursor stands in a source. -/
theorem skipsExactly {cursor : Cursor} {source passed : String}
    (hsource : source = passed ++ String.ofList cursor.rest)
    (hoffset : cursor.offset = passed.utf8ByteSize) : cursor.SkipsExactly source := by
  have hweighs : cursor.Weighs source := by
    rw [Weighs, hsource, String.utf8ByteSize_append, utf8ByteSize_ofList, hoffset]
  obtain ⟨gap, rest, hrest, hgap, hend⟩ := Gap.exists_split cursor.rest
  have hafter := advance_text hrest
  refine ⟨?_, fun _ _ _ h => (cursor.skipGap_eq.trans h.eq).symm, fun keywords => cursor.read_eq_skipGap keywords, ?_, ?_, ?_⟩
  · obtain ⟨tests, outcome, last, htests, hskips⟩ := exists_skips .between cursor
    have hsame := cursor.skipGap_eq.trans hskips.eq
    rw [hsame]
    exact ⟨tests, htests, hskips⟩
  · intro later hlater
    rcases hend with hstops | hunclosed
    · rw [skipGap_stops hrest hgap hstops] at hlater
      obtain rfl := (Prod.mk.inj hlater).2
      rw [hafter]
      have hfront : (cursor.advance gap.length).rest = [] ++ rest := hafter
      refine ⟨gap, hrest, rfl, hgap, ?_, hstops, skipGap_stops hfront .nil hstops⟩
      rw [hrest]
      exact hgap.longest hstops
    · rw [skipGap_unclosed hrest hgap hunclosed] at hlater
      simp at hlater
  · constructor
    · intro herror
      obtain ⟨error, later, herror⟩ := herror
      rcases hend with hstops | hunclosed
      · rw [skipGap_stops hrest hgap hstops] at herror
        simp at herror
      · exact ⟨gap, rest, hrest, hgap, hunclosed⟩
    · intro hsplit
      obtain ⟨gap, rest, hrest, hgap, hunclosed⟩ := hsplit
      exact ⟨_, _, skipGap_unclosed hrest hgap hunclosed⟩
  · intro error later herror
    rcases hend with hstops | hunclosed
    · rw [skipGap_stops hrest hgap hstops] at herror
      simp at herror
    · rw [skipGap_unclosed hrest hgap hunclosed] at herror
      obtain ⟨hfault, rfl⟩ := Prod.mk.inj herror
      have hnil : (cursor.advance cursor.rest.length).rest = [] := List.drop_length
      obtain ⟨hatEnd, hbytes⟩ := (hweighs.advance cursor.rest.length).atEnd hnil
      exact ⟨(Except.error.inj hfault).symm, hnil, hatEnd, hbytes⟩

/-- Behind a word a line comment and then a block comment that looks closed too early. -/
theorem skipsExactly_open_comment :
    (⟨"//b\n/*/".toList, 1, ⟨1, 2⟩⟩ : Cursor).SkipsExactly "a//b\n/*/" ∧
      (⟨"//b\n/*/".toList, 1, ⟨1, 2⟩⟩ : Cursor).skipGap =
        (.error ⟨.unterminatedComment, ⟨2, 4⟩⟩, ⟨[], 8, ⟨2, 4⟩⟩) :=
  ⟨@skipsExactly _ _ "a" (by decide) rfl, rfl⟩

end Cursor

end CurlyLex
