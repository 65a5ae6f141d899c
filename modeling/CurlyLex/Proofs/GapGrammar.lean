import CurlyLex.Gap
import Mathlib.Data.List.Infix
import Mathlib.Data.List.TakeWhile

/-!
# The grammar of gaps

A gap is a sequence of blanks, line comments and block comments.  Whether a line comment ends where
it does depends on what comes after it, so the grammar judges a gap together with the text behind
it.

* `IsGap` — the grammar, one constructor for each kind of piece.
* `Gap.Stops` — no piece of a gap begins here; `Gap.Unclosed` — a block comment begins here and
  never ends.
* `IsGap.cancel` — what is left of a gap behind a gap at its front is a gap; with it,
  `IsGap.unique` — a text has only one gap after which no gap goes on.
* `Gap.exists_split` — every text is a gap and then a text that stops or is unclosed.
* `Gap.length?_append`, `Gap.length?_unclosed` — the walk finds just that gap.
-/

namespace CurlyLex

/-- `IsGap gap rest`: the text `gap` is a gap when `rest` comes after it.  The body of a line comment
has no line feed, and a line feed or the end of the text comes after it.  The body of a block
comment has no star and slash, so that the star and slash behind it are the first. -/
inductive IsGap : List Char → List Char → Prop
  | nil {rest : List Char} : IsGap [] rest
  | blank {c : Char} {gap rest : List Char} :
      Text.isBlank c → IsGap gap rest → IsGap (c :: gap) rest
  | line {body gap rest : List Char} :
      '\n' ∉ body → (∀ c ∈ (gap ++ rest).head?, c = '\n') → IsGap gap rest →
      IsGap ('/' :: '/' :: (body ++ gap)) rest
  | block {body gap rest : List Char} :
      ¬ ['*', '/'] <:+: body → IsGap gap rest →
      IsGap ('/' :: '*' :: (body ++ '*' :: '/' :: gap)) rest

/-- No blank opens a comment. -/
theorem Text.ne_slash_of_isBlank {c : Char} (hc : isBlank c) : c ≠ '/' := by
  intro hslash
  rw [hslash] at hc
  exact absurd hc (by decide)

namespace Gap

/-- Neither a blank nor a comment begins here. -/
structure Stops (text : List Char) : Prop where
  not_blank : ∀ c ∈ text.head?, ¬ Text.isBlank c
  not_line : ¬ ['/', '/'] <+: text
  not_block : ¬ ['/', '*'] <+: text

/-- A block comment begins here and is never closed. -/
def Unclosed (text : List Char) : Prop :=
  ∃ body, text = '/' :: '*' :: body ∧ ¬ ['*', '/'] <:+: body

/-! ### The ends of comments -/

/-- The body of a line comment is what comes before the first line feed. -/
theorem body_unique_of_line {body₁ body₂ rest₁ rest₂ : List Char}
    (h₁ : '\n' ∉ body₁) (hend₁ : ∀ c ∈ rest₁.head?, c = '\n')
    (h₂ : '\n' ∉ body₂) (hend₂ : ∀ c ∈ rest₂.head?, c = '\n')
    (heq : body₁ ++ rest₁ = body₂ ++ rest₂) : body₁ = body₂ := by
  induction body₁ generalizing body₂ with
  | nil =>
    cases body₂ with
    | nil => rfl
    | cons c body₂ =>
      rw [List.nil_append] at heq
      have hc : c = '\n' := hend₁ c (by rw [heq]; rfl)
      exact absurd (by rw [hc]; exact List.mem_cons_self) h₂
  | cons c body₁ ih =>
    cases body₂ with
    | nil =>
      rw [List.nil_append] at heq
      have hc : c = '\n' := hend₂ c (by rw [← heq]; rfl)
      exact absurd (by rw [hc]; exact List.mem_cons_self) h₁
    | cons d body₂ =>
      obtain ⟨rfl, htail⟩ := List.cons_eq_cons.1 heq
      rw [ih (fun h => h₁ (List.mem_cons_of_mem c h)) (fun h => h₂ (List.mem_cons_of_mem c h)) htail]

/-- Past its first character, a text without a close still has none. -/
theorem no_close_tail {c : Char} {body : List Char} (h : ¬ ['*', '/'] <:+: c :: body) :
    ¬ ['*', '/'] <:+: body :=
  fun hinfix => h (List.infix_cons hinfix)

/-- A text without a close, and then a close, does not begin with one unless it is empty. -/
theorem no_early_close {c : Char} {body rest : List Char} (h : ¬ ['*', '/'] <:+: c :: body)
    {text : List Char} (hc : c = '*') (hbody : body ++ '*' :: rest = '/' :: text) : False := by
  cases body with
  | nil => simp at hbody
  | cons d body =>
    obtain ⟨rfl, -⟩ := List.cons_eq_cons.1 hbody
    exact h ⟨[], body, by rw [hc]; rfl⟩

/-- The body of a block comment is what comes before the first close. -/
theorem body_unique_of_block {body₁ body₂ rest₁ rest₂ : List Char}
    (h₁ : ¬ ['*', '/'] <:+: body₁) (h₂ : ¬ ['*', '/'] <:+: body₂)
    (heq : body₁ ++ '*' :: '/' :: rest₁ = body₂ ++ '*' :: '/' :: rest₂) : body₁ = body₂ := by
  induction body₁ generalizing body₂ with
  | nil =>
    cases body₂ with
    | nil => rfl
    | cons c body₂ =>
      obtain ⟨hc, htail⟩ := List.cons_eq_cons.1 heq
      exact (no_early_close h₂ hc.symm htail.symm).elim
  | cons c body₁ ih =>
    cases body₂ with
    | nil =>
      obtain ⟨hc, htail⟩ := List.cons_eq_cons.1 heq
      exact (no_early_close h₁ hc htail).elim
    | cons d body₂ =>
      obtain ⟨rfl, htail⟩ := List.cons_eq_cons.1 heq
      rw [ih (no_close_tail h₁) (no_close_tail h₂) htail]

/-- A text with a close has a first one. -/
theorem exists_first_close {text : List Char} (h : ['*', '/'] <:+: text) :
    ∃ body rest, text = body ++ '*' :: '/' :: rest ∧ ¬ ['*', '/'] <:+: body := by
  induction text with
  | nil => simp at h
  | cons c text ih =>
    by_cases hnow : ['*', '/'] <+: c :: text
    · obtain ⟨rest, hrest⟩ := hnow
      exact ⟨[], rest, hrest.symm, by simp⟩
    · have hlater : ['*', '/'] <:+: text := (List.infix_cons_iff.1 h).resolve_left hnow
      obtain ⟨body, rest, rfl, hbody⟩ := ih hlater
      refine ⟨c :: body, rest, rfl, fun hclose => ?_⟩
      rcases List.infix_cons_iff.1 hclose with hfront | hback
      · exact hnow (hfront.trans ⟨'*' :: '/' :: rest, rfl⟩)
      · exact hbody hback

end Gap

/-! ### Uniqueness -/

namespace IsGap

theorem of_blank {c : Char} {text rest : List Char} (hc : Text.isBlank c)
    (h : IsGap (c :: text) rest) : IsGap text rest := by
  cases h with
  | blank _ h => exact h
  | line _ _ _ => exact absurd hc (by decide)
  | block _ _ => exact absurd hc (by decide)

/-- Blanks alone are a gap. -/
theorem of_blanks {blanks : List Char} (h : ∀ c ∈ blanks, Text.isBlank c) (rest : List Char) :
    IsGap blanks rest := by
  induction blanks with
  | nil => exact .nil
  | cons c blanks ih =>
    exact .blank (h c List.mem_cons_self) (ih fun d hd => h d (List.mem_cons_of_mem c hd))

theorem of_line {text rest : List Char} (h : IsGap ('/' :: '/' :: text) rest) :
    ∃ body gap, text = body ++ gap ∧ '\n' ∉ body ∧ (∀ c ∈ (gap ++ rest).head?, c = '\n') ∧
      IsGap gap rest := by
  cases h with
  | blank hc _ => exact absurd hc (by decide)
  | line hbody hend h => exact ⟨_, _, rfl, hbody, hend, h⟩

theorem of_block {text rest : List Char} (h : IsGap ('/' :: '*' :: text) rest) :
    ∃ body gap, text = body ++ '*' :: '/' :: gap ∧ ¬ ['*', '/'] <:+: body ∧ IsGap gap rest := by
  cases h with
  | blank hc _ => exact absurd hc (by decide)
  | block hbody h => exact ⟨_, _, rfl, hbody, h⟩

/-- **Cancellation.**  A gap with a gap at its front leaves a gap. -/
theorem cancel {first second rest : List Char} (h : IsGap (first ++ second) rest)
    (hfirst : IsGap first (second ++ rest)) : IsGap second rest := by
  generalize hbehind : second ++ rest = behind at hfirst
  induction hfirst with
  | nil => exact h
  | blank hc _ ih => exact ih (h.of_blank hc) hbehind
  | @line body gap behind hbody hend _ ih =>
    subst hbehind
    rw [List.cons_append, List.cons_append, List.append_assoc] at h
    obtain ⟨body', gap', heq, hbody', hend', h'⟩ := h.of_line
    have hsame : body = body' := by
      refine Gap.body_unique_of_line hbody hend hbody' hend' ?_
      rw [← List.append_assoc body', ← heq]
      simp only [List.append_assoc]
    subst hsame
    rw [← List.append_cancel_left heq] at h'
    exact ih h' rfl
  | @block body gap behind hbody _ ih =>
    subst hbehind
    rw [List.cons_append, List.cons_append, List.append_assoc] at h
    obtain ⟨body', gap', heq, hbody', h'⟩ := h.of_block
    obtain rfl : body = body' := Gap.body_unique_of_block hbody hbody' heq
    have htail : gap ++ second = gap' := by simpa using heq
    rw [← htail] at h'
    exact ih h' rfl

/-- Where no piece begins, the only gap is the empty one. -/
theorem eq_nil_of_stops {gap rest : List Char} (h : IsGap gap rest)
    (hstops : Gap.Stops (gap ++ rest)) : gap = [] := by
  cases h with
  | nil => rfl
  | blank hc _ => exact absurd hc (hstops.not_blank _ rfl)
  | line _ _ _ => exact absurd ⟨_, rfl⟩ hstops.not_line
  | block _ _ => exact absurd ⟨_, rfl⟩ hstops.not_block

/-- Where a comment begins that is never closed, the only gap is the empty one. -/
theorem eq_nil_of_unclosed {gap rest : List Char} (h : IsGap gap rest)
    (hunclosed : Gap.Unclosed (gap ++ rest)) : gap = [] := by
  obtain ⟨body, htext, hbody⟩ := hunclosed
  cases h with
  | nil => rfl
  | blank hc _ =>
    obtain ⟨rfl, -⟩ := List.cons_eq_cons.1 htext
    exact absurd hc (by decide)
  | line _ _ _ => simp at htext
  | @block inner gap _ _ _ =>
    refine absurd ?_ hbody
    have hinner : inner ++ '*' :: '/' :: (gap ++ rest) = body := by simpa using htext
    exact ⟨inner, gap ++ rest, by rw [← hinner]; simp⟩

/-- **A text has one gap only after which no gap goes on.** -/
theorem unique {gap₁ gap₂ rest₁ rest₂ : List Char}
    (h₁ : IsGap gap₁ rest₁) (hend₁ : Gap.Stops rest₁ ∨ Gap.Unclosed rest₁)
    (h₂ : IsGap gap₂ rest₂) (hend₂ : Gap.Stops rest₂ ∨ Gap.Unclosed rest₂)
    (heq : gap₁ ++ rest₁ = gap₂ ++ rest₂) : gap₁ = gap₂ := by
  -- whichever gap is shorter, cancelling it from the other leaves a gap where none begins
  have hshorter : ∀ {first second rest : List Char}, IsGap (first ++ second) rest →
      IsGap first (second ++ rest) → Gap.Stops (second ++ rest) ∨ Gap.Unclosed (second ++ rest) →
      second = [] := by
    intro first second rest h hfirst hend
    have hgap := h.cancel hfirst
    rcases hend with hstops | hunclosed
    · exact hgap.eq_nil_of_stops hstops
    · exact hgap.eq_nil_of_unclosed hunclosed
  rcases List.append_eq_append_iff.1 heq with ⟨more, rfl, rfl⟩ | ⟨more, rfl, rfl⟩
  · rw [hshorter h₂ h₁ hend₁, List.append_nil]
  · rw [hshorter h₁ h₂ hend₂, List.append_nil]

end IsGap

/-! ### Existence -/

namespace Gap

/-- **Every text begins with a gap after which no gap goes on.** -/
theorem exists_split (text : List Char) :
    ∃ gap rest, text = gap ++ rest ∧ IsGap gap rest ∧ (Stops rest ∨ Unclosed rest) := by
  -- on the length of the text, since a comment takes many characters at once
  induction hlen : text.length using Nat.strong_induction_on generalizing text with
  | _ n ih =>
    subst hlen
    by_cases hblank : ∃ c tail, text = c :: tail ∧ Text.isBlank c
    · obtain ⟨c, tail, rfl, hc⟩ := hblank
      obtain ⟨gap, rest, rfl, hgap, hend⟩ := ih tail.length (by simp) tail rfl
      exact ⟨c :: gap, rest, rfl, .blank hc hgap, hend⟩
    by_cases hline : ['/', '/'] <+: text
    · obtain ⟨tail, rfl⟩ := hline
      have hshort : (tail.dropWhile fun c => c != '\n').length < (['/', '/'] ++ tail).length := by
        have := (List.dropWhile_sublist (fun c => c != '\n') (l := tail)).length_le
        simp only [List.length_append, List.length_cons, List.length_nil]
        omega
      obtain ⟨gap, rest, heq, hgap, hend⟩ := ih _ hshort _ rfl
      have htail : tail = tail.takeWhile (fun c => c != '\n') ++ (gap ++ rest) := by
        rw [← heq, List.takeWhile_append_dropWhile]
      refine ⟨'/' :: '/' :: (tail.takeWhile (fun c => c != '\n') ++ gap), rest, ?_,
        .line ?_ ?_ hgap, hend⟩
      · simp only [List.cons_append, List.nil_append, List.append_assoc, ← htail]
      · intro hmem
        simpa using List.mem_takeWhile_imp hmem
      · intro c hc
        rw [← heq] at hc
        have hnot := List.head?_dropWhile_not (fun c => c != '\n') tail
        rw [hc] at hnot
        simpa using hnot
    by_cases hblock : ['/', '*'] <+: text
    · obtain ⟨tail, rfl⟩ := hblock
      by_cases hclose : ['*', '/'] <:+: tail
      · obtain ⟨body, behind, rfl, hbody⟩ := exists_first_close hclose
        have hshort : behind.length < (['/', '*'] ++ (body ++ '*' :: '/' :: behind)).length := by
          simp only [List.length_append, List.length_cons]
          omega
        obtain ⟨gap, rest, rfl, hgap, hend⟩ := ih _ hshort _ rfl
        exact ⟨'/' :: '*' :: (body ++ '*' :: '/' :: gap), rest, by simp, .block hbody hgap, hend⟩
      · exact ⟨[], _, rfl, .nil, .inr ⟨tail, rfl, hclose⟩⟩
    refine ⟨[], text, rfl, .nil, .inl ⟨fun c hc hb => ?_, hline, hblock⟩⟩
    cases text with
    | nil => simp at hc
    | cons d tail =>
      obtain rfl : d = c := by simpa using hc
      exact hblank ⟨d, tail, rfl, hb⟩

/-! ### The walk -/

theorem measure?_blank {c : Char} (hc : Text.isBlank c) (n : Nat) (text : List Char) :
    measure? .between n (c :: text) = measure? .between (n + 1) text := by
  have hslash := Text.ne_slash_of_isBlank hc
  rw [measure?.eq_4 _ _ _ (fun _ h _ => hslash h) (fun _ h _ => hslash h), if_pos hc]

/-- In a line comment the walk goes to the line feed, or to the end. -/
theorem measure?_line {body rest : List Char} (hbody : '\n' ∉ body)
    (hend : ∀ c ∈ rest.head?, c = '\n') (n : Nat) :
    measure? .line n (body ++ rest) = measure? .between (n + body.length) rest := by
  induction body generalizing n with
  | nil =>
    cases rest with
    | nil => rfl
    | cons c rest =>
      obtain rfl : c = '\n' := hend c rfl
      rw [List.nil_append, List.length_nil, Nat.add_zero, measure?_blank (by decide)]
      rfl
  | cons c body ih =>
    have hc : c ≠ '\n' := fun h => hbody (by rw [h]; exact List.mem_cons_self)
    rw [List.cons_append, measure?, if_neg hc, ih (fun h => hbody (List.mem_cons_of_mem c h)),
      List.length_cons, Nat.add_right_comm, Nat.add_assoc]

/-- In a block comment the walk goes past the first close. -/
theorem measure?_block {body : List Char} (hbody : ¬ ['*', '/'] <:+: body) (rest : List Char)
    (n : Nat) :
    measure? .block n (body ++ '*' :: '/' :: rest) =
      measure? .between (n + body.length + 2) rest := by
  induction body generalizing n with
  | nil => rfl
  | cons c body ih =>
    rw [List.cons_append, measure?.eq_9 _ _ _ (fun _ hc htail => no_early_close hbody hc htail),
      ih (no_close_tail hbody), List.length_cons]
    congr 1
    omega

/-- In a block comment that is never closed the walk fails. -/
theorem measure?_no_close {body : List Char} (hbody : ¬ ['*', '/'] <:+: body) (n : Nat) :
    measure? .block n body = none := by
  induction body generalizing n with
  | nil => rfl
  | cons c body ih =>
    rw [measure?.eq_9]
    · exact ih (no_close_tail hbody) (n + 1)
    · intro rest hc htext
      subst hc htext
      exact hbody ⟨[], rest, rfl⟩

/-- **The walk passes over a gap.** -/
theorem measure?_gap {gap rest : List Char} (h : IsGap gap rest) (n : Nat) :
    measure? .between n (gap ++ rest) = measure? .between (n + gap.length) rest := by
  induction h generalizing n with
  | nil => rfl
  | blank hc _ ih =>
    rw [List.cons_append, measure?_blank hc, ih, List.length_cons, Nat.add_right_comm, Nat.add_assoc]
  | @line body gap rest hbody hend _ ih =>
    rw [List.cons_append, List.cons_append, List.append_assoc, measure?, measure?_line hbody hend, ih]
    congr 1
    simp only [List.length_cons, List.length_append]
    omega
  | @block body gap rest hbody _ ih =>
    rw [List.cons_append, List.cons_append, List.append_assoc, measure?, List.cons_append,
      List.cons_append, measure?_block hbody, ih]
    congr 1
    simp only [List.length_cons, List.length_append]
    omega

theorem measure?_stops {text : List Char} (h : Stops text) (n : Nat) :
    measure? .between n text = some n := by
  cases text with
  | nil => rfl
  | cons c text =>
    rw [measure?.eq_4]
    · exact if_neg (h.not_blank c rfl)
    · intro rest hc htext
      subst hc htext
      exact h.not_line ⟨rest, rfl⟩
    · intro rest hc htext
      subst hc htext
      exact h.not_block ⟨rest, rfl⟩

/-- A gap changes nothing about what the walk finds behind it. -/
theorem length?_gap {gap rest : List Char} (h : IsGap gap rest) :
    length? (gap ++ rest) = (length? rest).map (gap.length + ·) := by
  rw [length?, length?, measure?_gap h, Nat.zero_add, ← measure?_add, Nat.add_zero]

/-- **The walk finds the gap after which no gap goes on.** -/
theorem length?_append {gap rest : List Char} (h : IsGap gap rest) (hstops : Stops rest) :
    length? (gap ++ rest) = some gap.length := by
  rw [length?, measure?_gap h, measure?_stops hstops, Nat.zero_add]

theorem length?_stops {text : List Char} (h : Stops text) : length? text = some 0 :=
  measure?_stops h 0

/-- **The walk fails on a comment that is never closed.** -/
theorem length?_unclosed {text : List Char} (h : Unclosed text) : length? text = none := by
  obtain ⟨body, rfl, hbody⟩ := h
  rw [length?, measure?]
  exact measure?_no_close hbody _

end Gap

end CurlyLex
