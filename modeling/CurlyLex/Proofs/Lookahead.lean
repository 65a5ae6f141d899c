import CurlyLex.Proofs.Decomposition

/-!
# How far a reading looks

Neither a lexeme nor a fault that stands on the spot goes over a blank.  So a reading looks no further
than the first blank, and the text behind a lexeme may be exchanged for another one in which nothing
new stands before the first blank.  Gaps look one character further, for the line feed that ends a
line comment.

* `Clips` — nothing new stands before the first blank of a text.
* `LexemeAt.clips`, `Faults.exists_front` — lexemes and faults outlive such an exchange.
* `LexemeAt.exchange` — what else a lexeme outlives: an exchange after which no longer one begins
  with it.
* `ExtendsTo` — an exchange that gaps outlive as well: a text is cut short, or a line feed comes
  behind it.
* `Replaces` — an exchange for a text into which no lexeme goes further.
* `Chain.replace`, `Cut.replace`, `Cut.extend` — pieces in a row and cuts outlive it.
* `Alike`, `Cut.tokenize_eq` — cuts that have the same tokens in the same places, and so the same
  scans.
-/

namespace CurlyLex

/-! ### Clipped texts -/

/-- Whatever stands before the first blank of `other` stands at the front of `text`. -/
def Clips (text other : List Char) : Prop :=
  (other.takeWhile fun c => !Text.isBlank c) <+: text

namespace Clips

/-- A prefix of the clipped text without blanks is a prefix of the text. -/
theorem isPrefix {text other front : List Char} (h : Clips text other) (hfront : front <+: other)
    (hsolid : ∀ c ∈ front, ¬ Text.isBlank c) : front <+: text := by
  obtain ⟨rest, rfl⟩ := hfront
  have hall : ∀ c ∈ front, (!Text.isBlank c) = true := by
    intro c hc
    simpa using hsolid c hc
  rw [Clips, List.takeWhile_append_of_pos hall] at h
  exact (List.prefix_append _ _).trans h

/-- So is one of two characters that are not blank. -/
theorem isPrefix_pair {text other : List Char} {c d : Char} (h : Clips text other)
    (hfront : [c, d] <+: other) (hc : ¬ Text.isBlank c) (hd : ¬ Text.isBlank d) :
    [c, d] <+: text :=
  h.isPrefix hfront (by simp [hc, hd])

theorem of_isPrefix {text other : List Char} (h : other <+: text) : Clips text other :=
  (List.takeWhile_prefix _).trans h

theorem cons {text other : List Char} (h : Clips text other) (c : Char) :
    Clips (c :: text) (c :: other) := by
  by_cases hc : Text.isBlank c
  · rw [Clips, List.takeWhile_cons_of_neg (by simpa using hc)]
    exact List.nil_prefix
  · rw [Clips, List.takeWhile_cons_of_pos (by simpa using hc)]
    exact (List.prefix_cons_inj c).2 h

theorem append {text other : List Char} (h : Clips text other) (front : List Char) :
    Clips (front ++ text) (front ++ other) := by
  induction front with
  | nil => exact h
  | cons c front ih => exact ih.cons c

/-- Before a blank at the front nothing stands. -/
theorem of_blank {c : Char} (hc : Text.isBlank c) (text behind : List Char) :
    Clips text (c :: behind) := by
  rw [Clips, List.takeWhile_cons_of_neg (by simpa using hc)]
  exact List.nil_prefix

/-- A blank may come behind a text, and anything behind the blank. -/
theorem append_blank {c : Char} (hc : Text.isBlank c) (text behind : List Char) :
    Clips text (text ++ c :: behind) := by
  have happend := (of_blank hc [] behind).append text
  rw [List.append_nil] at happend
  exact happend

end Clips

/-! ### Lexemes and faults -/

/-- A longest prefix stays the longest, when none of the texts in question goes over a blank. -/
theorem Longest.clips {property : List Char → Prop} {taken text other : List Char}
    (h : Longest property taken text) (hclips : Clips text other) (hfront : taken <+: other)
    (hsolid : ∀ t, property t → ∀ c ∈ t, ¬ Text.isBlank c) : Longest property taken other := by
  refine ⟨hfront, h.holds, ?_⟩
  intro longer hlonger hproperty
  exact h.longest longer (hclips.isPrefix hlonger (hsolid longer hproperty)) hproperty

/-- A lexeme that begins with `front` and is longer stands at the front of `front` and `text`. -/
def Outgrown (front text : List Char) : Prop :=
  ∃ longer, IsLexeme longer ∧ longer <+: front ++ text ∧ front.length < longer.length

/-- A longer lexeme is there whatever comes behind it. -/
theorem Outgrown.of_isPrefix {front text longer : List Char} (hlonger : IsLexeme longer)
    (hfront : longer <+: front ++ text) (hless : front.length < longer.length) (rest : List Char) :
    Outgrown front (text ++ rest) := by
  refine ⟨longer, hlonger, ?_, hless⟩
  rw [← List.append_assoc]
  exact hfront.trans (List.prefix_append _ _)

/-- Two characters at the front stay there when what comes behind the first of them begins with the
same visible character. -/
theorem isPrefix_pair_of_head {c d : Char} {front rest other : List Char} (hne : front ≠ [])
    (hhead : ∀ c ∈ other.head?, ¬ Text.isBlank c → rest.head? = some c) (hd : ¬ Text.isBlank d)
    (h : [c, d] <+: front ++ other) : [c, d] <+: front ++ rest := by
  obtain ⟨b, front, rfl⟩ := List.exists_cons_of_ne_nil hne
  rw [List.cons_append, List.cons_prefix_cons] at h ⊢
  refine ⟨h.1, ?_⟩
  cases front with
  | nil =>
    obtain ⟨tail, rfl⟩ := h.2
    obtain ⟨behind, rfl⟩ := List.head?_eq_some_iff.1 (hhead d rfl hd)
    exact ⟨behind, rfl⟩
  | cons a front =>
    have hsame := head_eq_of_front h.2
    rw [hsame]
    exact ⟨front ++ rest, rfl⟩

/-- **A lexeme is taken in front of another text** when it is not outgrown there, and no other visible
character comes right behind it. -/
theorem LexemeAt.exchange {lexeme rest other : List Char} (h : LexemeAt lexeme rest)
    (houtgrown : Outgrown lexeme other → Outgrown lexeme rest)
    (hhead : ∀ c ∈ other.head?, ¬ Text.isBlank c → rest.head? = some c) : LexemeAt lexeme other := by
  have hne := h.longest.holds.ne_nil
  refine ⟨⟨List.prefix_append _ _, h.longest.holds, ?_⟩, ?_, ?_, ?_⟩
  · intro longer hfront hlonger
    by_contra hmore
    obtain ⟨another, hanother, hprefix, hless⟩ := houtgrown ⟨longer, hlonger, hfront, by omega⟩
    exact absurd (h.longest.longest another hprefix hanother) (by omega)
  · intro hline
    exact h.not_line (isPrefix_pair_of_head hne hhead (by decide) hline)
  · intro hblock
    exact h.not_block (isPrefix_pair_of_head hne hhead (by decide) hblock)
  · intro hplain c hc
    have hletter : c = 'e' ∨ c = 'E' → rest.head? = some c := by
      intro hletter
      apply hhead c hc
      rcases hletter with rfl | rfl <;> decide
    refine ⟨?_, ?_⟩
    · intro he
      exact (h.no_mark hplain c (hletter (.inl he))).1 he
    · intro hE
      exact (h.no_mark hplain c (hletter (.inr hE))).2 hE

/-- **A lexeme is taken whatever comes behind the first blank.** -/
theorem LexemeAt.clips {lexeme rest other : List Char} (h : LexemeAt lexeme rest)
    (hclips : Clips rest other) : LexemeAt lexeme other := by
  apply h.exchange
  · intro houtgrown
    obtain ⟨longer, hlonger, hfront, hless⟩ := houtgrown
    have hsolid : ∀ c ∈ longer, ¬ Text.isBlank c := fun c hc => hlonger.not_isBlank hc
    exact ⟨longer, hlonger, (hclips.append lexeme).isPrefix hfront hsolid, hless⟩
  · intro c hc hsolid
    obtain ⟨tail, rfl⟩ := List.head?_eq_some_iff.1 hc
    have hfront : [c] <+: c :: tail := ⟨tail, rfl⟩
    obtain ⟨behind, rfl⟩ := hclips.isPrefix hfront (by simpa using hsolid)
    rfl

theorem Pattern.not_isBlank_of_plainNumber {c : Char} {text : List Char}
    (h : plainNumber.Matches text) (hc : c ∈ text) : ¬ Text.isBlank c ∧ c ≠ '/' :=
  not_blank_of_mem (.inr (number_of_plainNumber h)) hc

/-- A power that is seen behind the exchange was there before it. -/
theorem Numeral.StartsPower.of_clips {rest other : List Char} (hclips : Clips rest other)
    (h : StartsPower other) : StartsPower rest := by
  obtain ⟨sign, d, behind, rfl, hsign, hd⟩ := h
  have hfront : sign ++ [d] <+: sign ++ d :: behind := ⟨behind, by simp⟩
  have hsolid : ∀ c ∈ sign ++ [d], ¬ Text.isBlank c := by
    intro c hc
    rcases List.mem_append.1 hc with hc | hc
    · rcases hsign with rfl | rfl | rfl
      · simp at hc
      · obtain rfl : c = '+' := by simpa using hc
        decide
      · obtain rfl : c = '-' := by simpa using hc
        decide
    · obtain rfl : c = d := by simpa using hc
      exact (not_blank_of_code (.inr (.inl hd))).1
  obtain ⟨tail, rfl⟩ := hclips.isPrefix hfront hsolid
  exact ⟨sign, d, tail, by simp, hsign, hd⟩

theorem RunsIntoMark.clips {number rest other : List Char} {mark : Char}
    (h : RunsIntoMark number mark (number ++ mark :: rest)) (hclips : Clips rest other) :
    RunsIntoMark number mark (number ++ mark :: other) := by
  have hall := (hclips.cons mark).append number
  refine ⟨?_, h.isMark, other, rfl, ?_⟩
  · exact h.longest.clips hall (List.prefix_append _ _) fun _ ht _ hc =>
      (Pattern.not_isBlank_of_plainNumber ht hc).1
  · intro hpower
    obtain ⟨tail, htail, hno⟩ := h.no_power
    have hrest := (List.cons_eq_cons.1 (List.append_cancel_left htail)).2
    exact hno (hrest ▸ hpower.of_clips hclips)

theorem StartsNothing.clips {c : Char} {rest other : List Char} (h : StartsNothing c (c :: rest))
    (hclips : Clips rest other) : StartsNothing c (c :: other) := by
  refine ⟨rfl, h.not_blank, h.not_word, h.not_symbol, ?_⟩
  intro hc hfront
  exact h.not_unequal hc ((hclips.cons c).isPrefix_pair hfront (by decide) (by decide))

/-- **A fault on the spot stands on a text without blanks and slashes**, whatever comes behind the
first blank. -/
theorem Faults.exists_front {text passed : List Char} {fault : Fault} (h : Faults text passed fault)
    (hfault : fault ≠ .unterminatedComment) :
    ∃ front rest, text = front ++ rest ∧ front ≠ [] ∧ passed <+: front ∧
      (∀ c ∈ front, ¬ Text.isBlank c ∧ c ≠ '/') ∧
      ∀ other, Clips rest other → Faults (front ++ other) passed fault := by
  cases h with
  | unclosed _ => exact absurd rfl hfault
  | @mark number mark h =>
    obtain ⟨rest, rfl, -⟩ := h.no_power
    refine ⟨number ++ [mark], rest, by simp, by simp, List.prefix_refl _, ?_, ?_⟩
    · intro c hc
      rcases List.mem_append.1 hc with hc | hc
      · exact Pattern.not_isBlank_of_plainNumber h.longest.holds hc
      · obtain rfl : c = mark := by simpa using hc
        rcases h.isMark with rfl | rfl <;> decide
    · intro other hclips
      rw [List.append_assoc, List.singleton_append]
      exact .mark (h.clips hclips)
  | @nothing c h =>
    obtain ⟨rest, rfl⟩ := List.head?_eq_some_iff.1 h.head
    have hclean : ∀ d ∈ [c], ¬ Text.isBlank d ∧ d ≠ '/' := by
      intro d hd
      obtain rfl : d = c := by simpa using hd
      refine ⟨h.not_blank, ?_⟩
      intro hslash
      exact h.not_symbol .slash (by rw [hslash]; rfl)
    exact ⟨[c], rest, rfl, by simp, List.nil_prefix, hclean,
      fun other hclips => .nothing (h.clips hclips)⟩

/-! ### Gaps and cuts -/

/-- `rest` may be exchanged for `other` behind a gap too: `other` begins like `rest`, or with a line
feed. -/
structure ExtendsTo (rest other : List Char) : Prop where
  clips : Clips rest other
  head : ∀ c ∈ other.head?, c = '\n' ∨ rest.head? = some c

namespace ExtendsTo

variable {rest other : List Char}

/-- A text may be cut short. -/
theorem of_isPrefix (h : other <+: rest) : ExtendsTo rest other := by
  refine ⟨.of_isPrefix h, ?_⟩
  intro c hc
  obtain ⟨tail, rfl⟩ := List.head?_eq_some_iff.1 hc
  obtain ⟨behind, rfl⟩ := h
  exact .inr rfl

/-- A line feed may come behind a text, and anything behind the line feed. -/
theorem append_feed (rest behind : List Char) : ExtendsTo rest (rest ++ '\n' :: behind) := by
  refine ⟨.append_blank (by decide) rest behind, ?_⟩
  intro c hc
  cases rest with
  | nil => exact .inl (by simpa using hc.symm)
  | cons d rest => exact .inr hc

end ExtendsTo

/-- `other` may stand for `rest` behind pieces: no lexeme goes further into it, and it begins like
`rest`, or with a line feed. -/
structure Replaces (other rest : List Char) : Prop where
  outgrown : ∀ front, front ≠ [] → Outgrown front other → Outgrown front rest
  head : ∀ c ∈ other.head?, c = '\n' ∨ rest.head? = some c

namespace Replaces

variable {rest other : List Char}

/-- A text behind which another is exchanged may be exchanged as a whole. -/
theorem append (h : Replaces other rest) (front : List Char) :
    Replaces (front ++ other) (front ++ rest) := by
  refine ⟨?_, ?_⟩
  · intro before hne houtgrown
    obtain ⟨longer, hlonger, hprefix, hless⟩ := houtgrown
    rw [← List.append_assoc] at hprefix
    by_cases hle : longer.length ≤ (before ++ front).length
    · -- the longer lexeme ends before the exchange
      have hfront : longer <+: before ++ front :=
        List.prefix_of_prefix_length_le hprefix (List.prefix_append _ _) hle
      exact .of_isPrefix hlonger hfront hless rest
    · have hboth : before ++ front ≠ [] := by simp [hne]
      obtain ⟨another, hanother, hfront, hmore⟩ :=
        h.outgrown _ hboth ⟨longer, hlonger, hprefix, by omega⟩
      rw [List.append_assoc] at hfront
      rw [List.length_append] at hmore
      exact ⟨another, hanother, hfront, by omega⟩
  · cases front with
    | nil => exact h.head
    | cons d front => exact fun c hc => .inr hc

end Replaces

theorem ExtendsTo.replaces {rest other : List Char} (h : ExtendsTo rest other) :
    Replaces other rest := by
  refine ⟨?_, h.head⟩
  intro front _ houtgrown
  obtain ⟨longer, hlonger, hprefix, hless⟩ := houtgrown
  have hsolid : ∀ c ∈ longer, ¬ Text.isBlank c := fun c hc => hlonger.not_isBlank hc
  exact ⟨longer, hlonger, (h.clips.append front).isPrefix hprefix hsolid, hless⟩

/-- A gap is one in front of a text that begins like the one behind it, or with a line feed. -/
theorem IsGap.replace {gap rest other : List Char} (h : IsGap gap rest) (hother : Replaces other rest) :
    IsGap gap other := by
  induction h with
  | nil => exact .nil
  | blank hc _ ih => exact .blank hc (ih hother)
  | @line body gap rest hbody hend _ ih =>
    refine .line hbody ?_ (ih hother)
    intro c hc
    rcases (hother.append gap).head c hc with hfeed | hhead
    · exact hfeed
    · exact hend c hhead
  | block hbody _ ih => exact .block hbody (ih hother)

/-- A gap is one whatever comes behind the first blank, a line feed apart. -/
theorem IsGap.extend {gap rest other : List Char} (h : IsGap gap rest) (hext : ExtendsTo rest other) :
    IsGap gap other :=
  h.replace hext.replaces

/-- **Pieces in a row stay so** when the text behind them is exchanged for one into which no lexeme
goes further. -/
theorem Chain.replace {pieces : List Piece} {rest other : List Char} (h : Chain pieces rest)
    (hother : Replaces other rest) : Chain pieces other := by
  induction h with
  | nil => exact .nil
  | @cons piece pieces rest hlexeme hkind hgap _ ih =>
    have hbehind := hother.append (Piece.join pieces)
    have hall := hbehind.append piece.gap
    refine .cons ?_ hkind (hgap.replace hbehind) (ih hother)
    apply hlexeme.exchange (hall.outgrown _ hlexeme.longest.holds.ne_nil)
    intro c hc hsolid
    apply (hall.head c hc).resolve_left
    rintro rfl
    exact hsolid (by decide)

/-- **A cut stays a cut** when the text behind it is exchanged for one into which no lexeme goes
further. -/
theorem Cut.replace {text lead rest other : List Char} {pieces : List Piece}
    (h : Cut text lead pieces rest) (hother : Replaces other rest) :
    Cut (lead ++ (Piece.join pieces ++ other)) lead pieces other :=
  ⟨rfl, h.lead.replace (hother.append _), h.chain.replace hother⟩

/-- **A cut stays a cut** when the text behind it is cut short or a line feed comes behind it. -/
theorem Cut.extend {text lead rest other : List Char} {pieces : List Piece}
    (h : Cut text lead pieces rest) (hext : ExtendsTo rest other) :
    Cut (lead ++ (Piece.join pieces ++ other)) lead pieces other :=
  h.replace hext.replaces

/-! ### Cuts alike -/

/-- Pieces behind a gap that have the same tokens as others in the same places, and take as many lines
and columns. -/
structure Alike (lead lead' : List Char) (pieces pieces' : List Piece) : Prop where
  tokens : ∀ position : Position,
    Piece.tokens (position.after lead') pieces' = Piece.tokens (position.after lead) pieces
  after : ∀ position : Position,
    position.after (lead' ++ Piece.join pieces') = position.after (lead ++ Piece.join pieces)

namespace Alike

theorem nil : Alike [] [] [] [] :=
  ⟨fun _ => rfl, fun _ => rfl⟩

/-- A gap in front that takes as many lines and columns as another. -/
theorem behind {lead lead' : List Char} {pieces pieces' : List Piece} (h : Alike [] [] pieces pieces')
    (hlead : ∀ position : Position, position.after lead' = position.after lead) :
    Alike lead lead' pieces pieces' := by
  refine ⟨?_, ?_⟩
  · intro position
    rw [hlead]
    exact h.tokens (position.after lead)
  · intro position
    rw [Position.after_append, Position.after_append, hlead]
    exact h.after (position.after lead)

/-- A piece in front, whose gap takes as many lines and columns as another. -/
theorem cons {piece : Piece} {gap' : List Char} {pieces pieces' : List Piece}
    (h : Alike piece.gap gap' pieces pieces') :
    Alike [] [] (piece :: pieces) ({ piece with gap := gap' } :: pieces') := by
  refine ⟨?_, ?_⟩
  · intro position
    have htokens := h.tokens (position.after piece.text)
    rw [← Position.after_append, ← Position.after_append] at htokens
    exact congrArg (List.cons _) htokens
  · intro position
    have hafter := h.after (position.after piece.text)
    rw [← Position.after_append, ← Position.after_append] at hafter
    exact hafter

end Alike

/-- **Sources that are cut alike, up to the end or up to the same fault, have the same scans.** -/
theorem Cut.tokenize_eq {source source' : String} {lead lead' rest rest' : List Char}
    {pieces pieces' : List Piece} (h : Cut source.toList lead pieces rest)
    (h' : Cut source'.toList lead' pieces' rest') (halike : Alike lead lead' pieces pieces')
    (hrest : rest = [] ∧ rest' = [] ∨ ∃ passed passed' fault, Faults rest passed fault ∧
      Faults rest' passed' fault ∧
      ∀ position : Position, position.after passed' = position.after passed) :
    tokenize source' = tokenize source := by
  rcases hrest with ⟨rfl, rfl⟩ | ⟨passed, passed', fault, hfaults, hfaults', hafter⟩
  · rw [h.tokenize_ok, h'.tokenize_ok, halike.tokens, h.text_eq, h'.text_eq, List.append_nil,
      List.append_nil, halike.after]
  · rw [h.tokenize_error hfaults, h'.tokenize_error hfaults', Position.after_append, hafter,
      halike.after, ← Position.after_append]

end CurlyLex
