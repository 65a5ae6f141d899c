import CurlyLex.Proofs.Pattern

/-!
# Expressions with preferences

A pattern says which texts match.  An expression says in addition which match is taken when several
prefixes of a text match: an earlier alternative goes before a later one, a longer run before a shorter
one, and something optional before nothing.  All the ways in which an expression matches the front of a
text are listed in this order, and the first of them is taken.

* `Regex`, `Match` — expressions with named groups, and what is known about a match.
* `Regex.ways`, `Regex.first?` — all matches in order of preference, and the one that is taken.
* `Regex.shape` — the pattern without preferences and groups.
* `Regex.matches_iff` — the ways are the prefixes that match.
* `Regex.first?_eq_none_iff` — so one of them is taken when there is one.
* `Regex.first?_run`, `Regex.first?_seq`, `Regex.first?_optional`, `Regex.first?_either` — the match
  that is taken, from those of the parts.
-/

namespace CurlyLex

/-- An expression, whose alternatives, runs and options come with a preference. -/
inductive Regex where
  /-- One character of a class. -/
  | one (accepts : Char → Bool)
  /-- A run of at least one character of a class, rather a longer one. -/
  | run (accepts : Char → Bool)
  /-- One expression behind another. -/
  | seq (first second : Regex)
  /-- One expression or another, rather the first. -/
  | either (first second : Regex)
  /-- An expression or nothing, rather the expression. -/
  | optional (body : Regex)
  /-- An expression whose match is kept under a name. -/
  | group (name : String) (body : Regex)

/-- A match at the front of a text. -/
structure Match where
  /-- The characters that match. -/
  taken : List Char
  /-- What comes behind them. -/
  rest : List Char
  /-- The matches of the groups that took part, with their names. -/
  groups : List (String × List Char)
deriving DecidableEq

namespace Match

/-- The match of so many characters at the front, without groups. -/
def ofFront (front text : List Char) : Match :=
  ⟨front, text.drop front.length, []⟩

/-- The match of so many characters at the front, unless there are none. -/
def ofFront? (front text : List Char) : Option Match :=
  if front.isEmpty then none else some (ofFront front text)

/-- A match with another one behind it. -/
def append (front back : Match) : Match :=
  ⟨front.taken ++ back.taken, back.rest, front.groups ++ back.groups⟩

/-- Keep what is matched under a name. -/
def keep (name : String) (m : Match) : Match :=
  { m with groups := (name, m.taken) :: m.groups }

@[simp]
theorem rest_ofFront (front text : List Char) :
    (ofFront front text).rest = text.drop front.length := rfl

theorem ofFront?_of_ne_nil {front : List Char} (h : front ≠ []) (text : List Char) :
    ofFront? front text = some (ofFront front text) := by
  rw [ofFront?, if_neg]
  simpa using h

theorem getD_ofFront? (front text : List Char) :
    (ofFront? front text).getD (ofFront [] text) = ofFront front text := by
  cases front with
  | nil => rfl
  | cons c front => rfl

theorem ofFront_append (front back text : List Char) :
    (ofFront front text).append (ofFront back (text.drop front.length)) =
      ofFront (front ++ back) text := by
  rw [ofFront, ofFront, ofFront, append, List.drop_drop, List.length_append]
  rfl

end Match

namespace Regex

/-! ### Matching -/

/-- The runs of a class at the front of a text, from the longest to the shortest. -/
def runWays (accepts : Char → Bool) : List Char → List Match
  | [] => []
  | c :: text =>
    if accepts c then
      (runWays accepts text).map (Match.append ⟨[c], text, []⟩) ++ [⟨[c], text, []⟩]
    else []

/-- The ways in which an expression matches the front of a text, in order of preference. -/
def ways : Regex → List Char → List Match
  | one accepts, text =>
    match text with
    | [] => []
    | c :: text => if accepts c then [⟨[c], text, []⟩] else []
  | run accepts, text => runWays accepts text
  | seq first second, text =>
    (first.ways text).flatMap fun front => (second.ways front.rest).map front.append
  | either first second, text => first.ways text ++ second.ways text
  | optional body, text => body.ways text ++ [.ofFront [] text]
  | group name body, text => (body.ways text).map (Match.keep name)

/-- The match that is taken. -/
def first? (regex : Regex) (text : List Char) : Option Match :=
  (regex.ways text).head?

/-- The pattern without preferences and groups. -/
def shape : Regex → Pattern
  | one accepts => .one accepts
  | run accepts => .run accepts
  | seq first second => .seq first.shape second.shape
  | either first second => .either first.shape second.shape
  | optional body => .optional body.shape
  | group _ body => body.shape

/-! ### All matches -/

theorem sound_runWays {accepts : Char → Bool} {text : List Char} {m : Match}
    (h : m ∈ runWays accepts text) :
    text = m.taken ++ m.rest ∧ m.taken ≠ [] ∧ ∀ c ∈ m.taken, accepts c := by
  induction text generalizing m with
  | nil => simp [runWays] at h
  | cons c text ih =>
    rw [runWays] at h
    split at h
    · rename_i hc
      rcases List.mem_append.1 h with hmore | hlast
      · obtain ⟨back, hback, rfl⟩ := List.mem_map.1 hmore
        obtain ⟨htext, -, hall⟩ := ih hback
        refine ⟨congrArg (c :: ·) htext, List.cons_ne_nil _ _, ?_⟩
        exact List.forall_mem_cons.2 ⟨hc, hall⟩
      · obtain rfl := List.mem_singleton.1 hlast
        refine ⟨rfl, List.cons_ne_nil _ _, ?_⟩
        exact List.forall_mem_cons.2 ⟨hc, by simp⟩
    · simp at h

theorem complete_runWays {accepts : Char → Bool} {taken : List Char} (hne : taken ≠ [])
    (hall : ∀ c ∈ taken, accepts c) (rest : List Char) :
    ∃ groups, ⟨taken, rest, groups⟩ ∈ runWays accepts (taken ++ rest) := by
  induction taken with
  | nil => exact absurd rfl hne
  | cons c taken ih =>
    obtain ⟨hc, hall⟩ := List.forall_mem_cons.1 hall
    rw [List.cons_append, runWays, if_pos hc]
    by_cases hnil : taken = []
    · subst hnil
      exact ⟨[], List.mem_append_right _ List.mem_cons_self⟩
    · obtain ⟨groups, hmem⟩ := ih hnil hall
      exact ⟨[] ++ groups, List.mem_append_left _ (List.mem_map.2 ⟨_, hmem, rfl⟩)⟩

/-- Every way takes a prefix that matches. -/
theorem sound_ways (regex : Regex) {text : List Char} {m : Match} (h : m ∈ regex.ways text) :
    text = m.taken ++ m.rest ∧ regex.shape.Matches m.taken := by
  induction regex generalizing text m with
  | one accepts =>
    cases text with
    | nil => simp [ways] at h
    | cons c text =>
      rw [ways] at h
      split at h
      · rename_i hc
        obtain rfl := List.mem_singleton.1 h
        exact ⟨rfl, c, hc, rfl⟩
      · simp at h
  | run accepts => exact sound_runWays h
  | seq first second ih₁ ih₂ =>
    obtain ⟨front, hfront, hpair⟩ := List.mem_flatMap.1 h
    obtain ⟨back, hback, rfl⟩ := List.mem_map.1 hpair
    obtain ⟨htext, hfirst⟩ := ih₁ hfront
    obtain ⟨hrest, hsecond⟩ := ih₂ hback
    refine ⟨?_, front.taken, back.taken, hfirst, hsecond, rfl⟩
    rw [htext, hrest]
    exact (List.append_assoc _ _ _).symm
  | either first second ih₁ ih₂ =>
    rcases List.mem_append.1 h with hfirst | hsecond
    · exact (ih₁ hfirst).imp_right .inl
    · exact (ih₂ hsecond).imp_right .inr
  | optional body ih =>
    rcases List.mem_append.1 h with hbody | hnothing
    · exact (ih hbody).imp_right .inr
    · obtain rfl := List.mem_singleton.1 hnothing
      exact ⟨rfl, .inl rfl⟩
  | group name body ih =>
    obtain ⟨inner, hinner, rfl⟩ := List.mem_map.1 h
    have hbody := ih hinner
    exact hbody

/-- Every prefix that matches is taken in some way. -/
theorem complete_ways (regex : Regex) {taken : List Char} (h : regex.shape.Matches taken)
    (rest : List Char) : ∃ groups, ⟨taken, rest, groups⟩ ∈ regex.ways (taken ++ rest) := by
  induction regex generalizing taken rest with
  | one accepts =>
    obtain ⟨c, hc, rfl⟩ := h
    refine ⟨[], ?_⟩
    rw [List.singleton_append, ways, if_pos hc]
    exact List.mem_cons_self
  | run accepts => exact complete_runWays h.1 h.2 rest
  | seq first second ih₁ ih₂ =>
    obtain ⟨u, v, hu, hv, rfl⟩ := h
    obtain ⟨front, hfront⟩ := ih₁ hu (v ++ rest)
    obtain ⟨back, hback⟩ := ih₂ hv rest
    refine ⟨front ++ back, ?_⟩
    rw [List.append_assoc, ways]
    exact List.mem_flatMap.2 ⟨_, hfront, List.mem_map.2 ⟨_, hback, rfl⟩⟩
  | either first second ih₁ ih₂ =>
    rcases h with hfirst | hsecond
    · exact (ih₁ hfirst rest).imp fun _ hmem => List.mem_append_left _ hmem
    · exact (ih₂ hsecond rest).imp fun _ hmem => List.mem_append_right _ hmem
  | optional body ih =>
    rcases h with rfl | hbody
    · exact ⟨[], List.mem_append_right _ List.mem_cons_self⟩
    · exact (ih hbody rest).imp fun _ hmem => List.mem_append_left _ hmem
  | group name body ih =>
    obtain ⟨groups, hmem⟩ := ih h rest
    exact ⟨(name, taken) :: groups, List.mem_map.2 ⟨_, hmem, rfl⟩⟩

/-- **The ways of an expression are the prefixes that match its shape.** -/
theorem matches_iff (regex : Regex) (taken rest : List Char) :
    regex.shape.Matches taken ↔ ∃ groups, ⟨taken, rest, groups⟩ ∈ regex.ways (taken ++ rest) :=
  ⟨fun h => regex.complete_ways h rest, fun ⟨_, hmem⟩ => (regex.sound_ways hmem).2⟩

/-! ### The match that is taken -/

variable {text : List Char}

/-- **Nothing is taken exactly when no prefix matches.** -/
theorem first?_eq_none_iff {regex : Regex} :
    regex.first? text = none ↔ ∀ front, front <+: text → ¬ regex.shape.Matches front := by
  rw [first?, List.head?_eq_none_iff, List.eq_nil_iff_forall_not_mem]
  constructor
  · intro hnone front hfront hmatches
    obtain ⟨rest, rfl⟩ := hfront
    obtain ⟨groups, hmem⟩ := (regex.matches_iff front rest).1 hmatches
    exact hnone _ hmem
  · intro hnone m hmem
    obtain ⟨htext, hmatches⟩ := regex.sound_ways hmem
    exact hnone m.taken ⟨m.rest, htext.symm⟩ hmatches

theorem first?_run (accepts : Char → Bool) (text : List Char) :
    (run accepts).first? text = Match.ofFront? (text.takeWhile accepts) text := by
  rw [first?, ways]
  induction text with
  | nil => rfl
  | cons c text ih =>
    rw [runWays]
    by_cases hc : accepts c
    · rw [if_pos hc, List.takeWhile_cons_of_pos hc, List.head?_append, List.head?_map, ih]
      by_cases hnil : text.takeWhile accepts = []
      · rw [hnil]
        rfl
      · rw [Match.ofFront?_of_ne_nil hnil]
        rfl
    · rw [if_neg hc, List.takeWhile_cons_of_neg hc]
      rfl

/-- Of a sequence the first way is taken behind which the second expression matches. -/
theorem first?_seq (first second : Regex) (text : List Char) :
    (seq first second).first? text =
      (first.ways text).findSome? fun front => (second.first? front.rest).map front.append := by
  rw [first?, ways, List.head?_flatMap]
  simp only [List.head?_map, first?]

/-- Behind one character there is nothing to choose but what comes next. -/
theorem first?_one_seq (accepts : Char → Bool) (second : Regex) (c : Char) (text : List Char) :
    (seq (one accepts) second).first? (c :: text) =
      if accepts c then (second.first? text).map (Match.append (.ofFront [c] (c :: text)))
      else none := by
  rw [first?_seq, ways]
  by_cases hc : accepts c
  · simp only [if_pos hc, List.findSome?_singleton]
    rfl
  · simp only [if_neg hc, List.findSome?_nil]

theorem first?_either (first second : Regex) (text : List Char) :
    (either first second).first? text = (first.first? text).or (second.first? text) :=
  List.head?_append

theorem first?_optional (body : Regex) (text : List Char) :
    (optional body).first? text = some ((body.first? text).getD (.ofFront [] text)) := by
  rw [first?, ways, List.head?_append]
  cases h : (body.ways text).head? with
  | none => rw [first?, h]; rfl
  | some m => rw [first?, h]; rfl

theorem first?_group (name : String) (body : Regex) (text : List Char) :
    (group name body).first? text = (body.first? text).map (Match.keep name) :=
  List.head?_map

/-- Something optional never stands in the way of what comes before it. -/
theorem first?_seq_optional (first body : Regex) (text : List Char) :
    (seq first (optional body)).first? text = (first.first? text).map fun front =>
      front.append ((body.first? front.rest).getD (.ofFront [] front.rest)) := by
  rw [first?_seq]
  simp only [first?_optional, Option.map_some]
  rw [first?]
  cases first.ways text with
  | nil => rfl
  | cons m ms => rfl

end Regex

end CurlyLex
