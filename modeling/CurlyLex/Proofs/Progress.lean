import CurlyLex.Proofs.AfterErrors
import CurlyLex.Proofs.KeywordTables

/-!
# Scans make progress and end

A scan is a loop without a bound of its own.  It ends because every token with a text uses up at least
the characters of its text, and the end of the input ends it.  When no error is met the tokens are few,
their texts stand one behind another in what was to be read, and the end of the input comes last and
only there; unless a word stands for it, nothing is left then.

* `Taken`, `Cursor.taken_read` — what a reading takes from the text for a token.
* `Cursor.Scans` — finite runs of the loop; `Cursor.exists_scans` — a scan is one of them.
* `Occur` — texts one behind another in a longer text.
* `Completes`, `Cursor.Scans.completes` — what is right about the tokens of a run without error.
* `Scanner.EndsWell`, `Bench.endsWell_run` — all of this, in every state that a scanner can be brought
  to.
-/

namespace CurlyLex

/-! ### Tokens that are taken -/

/-- `Taken keywords text token rest`: a token is taken from the front of `text`, and `rest` is left.  A
token with a text stands behind a gap, is not empty, and ends the input only with a table that has a
word for it.  The mark of the end leaves nothing. -/
inductive Taken (keywords : Keywords) : List Char → Token → List Char → Prop
  | valued {gap text rest : List Char} {kind : Kind} {position : Position} :
      text ≠ [] → (kind = .endOfInput → ∃ word, keywords.kind? word = some .endOfInput) →
      Taken keywords (gap ++ (text ++ rest)) ⟨kind, some (String.ofList text), position⟩ rest
  | finish {text : List Char} {position : Position} :
      Taken keywords text ⟨.endOfInput, none, position⟩ []

/-- Only words are ever taken for the end of the input. -/
theorem Lexeme.exists_word_of_kind {keywords : Keywords} {lexeme : Lexeme}
    (h : lexeme.kind keywords = .endOfInput) : ∃ word, keywords.kind? word = some .endOfInput := by
  cases lexeme with
  | word text => exact ⟨_, Keywords.getD_eq_endOfInput.1 h⟩
  | numeral n => simp [kind] at h
  | symbol s => simp [kind] at h

/-- **A reading takes its token from the front of what is to be read.** -/
theorem Cursor.taken_read {keywords : Keywords} {cursor : Cursor} {token : Token}
    (h : (cursor.read keywords).outcome = .ok token) :
    Taken keywords cursor.rest token (cursor.read keywords).cursor.rest := by
  have hmeets := cursor.meets_read keywords
  generalize cursor.read keywords = reading at hmeets h ⊢
  cases hmeets with
  | finish hgap =>
    cases h
    have hnil : (cursor.advance cursor.rest.length).rest = [] :=
      advance_text (List.append_nil cursor.rest).symm
    show Taken keywords cursor.rest _ (cursor.advance cursor.rest.length).rest
    rw [hnil]
    exact .finish
  | @lexeme gap rest found hrest hgap hlexeme =>
    cases h
    have hleft : (cursor.advance (gap ++ found.text).length).rest = rest :=
      advance_text (by rw [hrest, List.append_assoc])
    show Taken keywords cursor.rest _ (cursor.advance (gap ++ found.text).length).rest
    rw [hleft, hrest]
    exact .valued hlexeme.longest.holds.ne_nil Lexeme.exists_word_of_kind
  | fault hrest hgap hfaults => cases h

namespace Taken

variable {keywords : Keywords} {text rest : List Char} {token : Token}

/-- A token with a text has one that is not empty, and uses up at least as many characters as there
are in it. -/
theorem length_le (h : Taken keywords text token rest) {value : String}
    (hvalue : token.text = some value) : value ≠ "" ∧ rest.length + value.length ≤ text.length := by
  cases h with
  | @valued gap text rest kind position hne hword =>
    obtain rfl := Option.some.inj hvalue
    refine ⟨?_, ?_⟩
    · intro hempty
      apply hne
      rw [← String.toList_ofList (l := text), hempty]
      rfl
    · rw [String.length_ofList, List.length_append, List.length_append]
      omega
  | finish => simp at hvalue

/-- A token with a text leaves less to be read. -/
theorem length_lt (h : Taken keywords text token rest) {value : String}
    (hvalue : token.text = some value) : rest.length < text.length := by
  cases h with
  | valued hne hword =>
    have hpos := List.length_pos_iff.2 hne
    rw [List.length_append, List.length_append]
    omega
  | finish => simp at hvalue

/-- A token that does not end the input has a text. -/
theorem exists_text (h : Taken keywords text token rest) (hkind : token.kind ≠ .endOfInput) :
    ∃ value, token.text = some value := by
  cases h with
  | valued hne hword => exact ⟨_, rfl⟩
  | finish => exact absurd rfl hkind

/-- With a table that has no word for the end of the input, the token that ends it is the mark of the
end. -/
theorem finish_of_kind (h : Taken keywords text token rest) (hkind : token.kind = .endOfInput)
    (hnone : ∀ word, keywords.kind? word ≠ some .endOfInput) : token.text = none ∧ rest = [] := by
  cases h with
  | valued hne hword =>
    obtain ⟨word, hword⟩ := hword hkind
    exact absurd hword (hnone word)
  | finish => exact ⟨rfl, rfl⟩

end Taken

/-! ### Runs of the loop -/

/-- `Scans keywords cursor count result later`: the loop of a scan ends after `count` readings, and
leaves the cursor `later`.  A reading with an error ends it with this error, and a token of the end of
the input ends it with the tokens so far; any other token is kept, and the loop goes on. -/
inductive Cursor.Scans (keywords : Keywords) :
    Cursor → Nat → Except LexicalError (List Token) → Cursor → Prop
  | error {cursor : Cursor} {error : LexicalError} :
      (cursor.read keywords).outcome = .error error →
      Scans keywords cursor 1 (.error error) (cursor.read keywords).cursor
  | last {cursor : Cursor} {token : Token} :
      (cursor.read keywords).outcome = .ok token → token.kind = .endOfInput →
      Scans keywords cursor 1 (.ok [token]) (cursor.read keywords).cursor
  | more {cursor later : Cursor} {count : Nat} {token : Token}
      {result : Except LexicalError (List Token)} :
      (cursor.read keywords).outcome = .ok token → token.kind ≠ .endOfInput →
      Scans keywords (cursor.read keywords).cursor count result later →
      Scans keywords cursor (count + 1) (result.map (token :: ·)) later

/-- **The loop of a scan ends**, with what the scan returns, after one reading more than there are
characters to be read, or earlier. -/
theorem Cursor.exists_scans (keywords : Keywords) (cursor : Cursor) :
    ∃ count, count ≤ cursor.rest.length + 1 ∧
      cursor.Scans keywords count (gather (cursor.readings keywords))
        (cursor.past (cursor.readings keywords)) := by
  -- on what is left to be read
  induction hlen : cursor.rest.length using Nat.strongRecOn generalizing cursor with
  | _ n ih =>
    subst hlen
    rw [readings_eq]
    cases hlast : (cursor.read keywords).isLast with
    | true =>
      refine ⟨1, Nat.le_add_left _ _, ?_⟩
      rw [if_pos rfl, gather_cons]
      rcases (cursor.read keywords).isLast_iff.1 hlast with ⟨error, herror⟩ | ⟨token, htoken, hkind⟩
      · rw [herror]
        exact .error herror
      · rw [htoken]
        exact .last htoken hkind
    | false =>
      obtain ⟨token, htoken, hkind⟩ := (cursor.read keywords).isLast_eq_false_iff.1 hlast
      have hless := cursor.rest_read_lt keywords hlast
      obtain ⟨count, hcount, hscans⟩ := ih _ hless (cursor.read keywords).cursor rfl
      refine ⟨count + 1, by omega, ?_⟩
      rw [if_neg (by simp), gather_cons, htoken]
      exact .more htoken hkind hscans

/-! ### Texts in order -/

/-- `Occur texts text rest`: the texts stand in `text` one behind another, perhaps with something
between them, and `rest` comes behind all of them. -/
inductive Occur : List String → List Char → List Char → Prop
  | nil {passed rest : List Char} : Occur [] (passed ++ rest) rest
  | cons {between behind rest : List Char} {text : String} {texts : List String} :
      Occur texts behind rest → Occur (text :: texts) (between ++ (text.toList ++ behind)) rest

namespace Occur

variable {texts : List String} {text rest : List Char}

/-- What occurs in a text occurs behind something as well. -/
theorem behind (h : Occur texts text rest) (front : List Char) :
    Occur texts (front ++ text) rest := by
  cases h with
  | nil =>
    rw [← List.append_assoc]
    exact .nil
  | cons hlater =>
    rw [← List.append_assoc]
    exact .cons hlater

end Occur

/-- The text of a token that is taken stands before all that occurs in what is left. -/
theorem Taken.occur {keywords : Keywords} {text behind rest : List Char} {token : Token}
    {tokens : List Token} (h : Taken keywords text token behind)
    (hoccur : Occur (tokens.filterMap Token.text) behind rest) :
    Occur ((token :: tokens).filterMap Token.text) text rest := by
  cases h with
  | @valued gap text behind kind position hne hword =>
    have hcons : Occur (String.ofList text :: tokens.filterMap Token.text)
        (gap ++ ((String.ofList text).toList ++ behind)) rest := .cons hoccur
    rwa [String.toList_ofList] at hcons
  | finish =>
    have hbehind := hoccur.behind text
    rwa [List.append_nil] at hbehind

/-! ### Scans without error -/

/-- What is right about the tokens of a scan without error, from `text` to what is `left`.  They are at
most one more than there are characters.  The last of them ends the input and no other does; every
other token has a text, and the last has none, and nothing is left, unless the table has a word for the
end of the input.  Their texts stand in `text` one behind another, before what is left. -/
structure Completes (keywords : Keywords) (text : List Char) (tokens : List Token)
    (left : List Char) : Prop where
  few : tokens.length ≤ text.length + 1
  ending : ∃ front last, tokens = front ++ [last] ∧ last.kind = .endOfInput ∧
    (∀ token ∈ front, token.kind ≠ .endOfInput ∧ ∃ value, token.text = some value) ∧
    ((∀ word, keywords.kind? word ≠ some .endOfInput) → last.text = none ∧ left = [])
  texts : Occur (tokens.filterMap Token.text) text left

variable {keywords : Keywords}

/-- A token that ends the input is all that a scan needs. -/
theorem Taken.completes {text left : List Char} {token : Token} (h : Taken keywords text token left)
    (hkind : token.kind = .endOfInput) : Completes keywords text [token] left := by
  have hnil : Occur [] ([] ++ left) left := .nil
  exact ⟨Nat.le_add_left _ _, ⟨[], token, rfl, hkind, by simp, h.finish_of_kind hkind⟩,
    h.occur hnil⟩

/-- A token that does not end the input goes in front of the others. -/
theorem Completes.cons {text behind left : List Char} {token : Token} {tokens : List Token}
    (h : Completes keywords behind tokens left) (htaken : Taken keywords text token behind)
    (hkind : token.kind ≠ .endOfInput) : Completes keywords text (token :: tokens) left := by
  obtain ⟨value, hvalue⟩ := htaken.exists_text hkind
  obtain ⟨front, last, rfl, hlast, hfront, hend⟩ := h.ending
  refine ⟨?_, ⟨token :: front, last, rfl, hlast, ?_, hend⟩, htaken.occur h.texts⟩
  · have hfew := h.few
    have hless := htaken.length_lt hvalue
    rw [List.length_cons]
    omega
  · intro other hother
    rcases List.mem_cons.1 hother with rfl | hmem
    · exact ⟨hkind, value, hvalue⟩
    · exact hfront other hmem

/-- **A run of the loop that ends without error has the right tokens.** -/
theorem Cursor.Scans.completes {cursor later : Cursor} {count : Nat}
    {result : Except LexicalError (List Token)}
    (h : cursor.Scans keywords count result later) :
    ∀ tokens, result = .ok tokens → Completes keywords cursor.rest tokens later.rest := by
  induction h with
  | error _ =>
    intro tokens htokens
    cases htokens
  | last htoken hkind =>
    intro tokens htokens
    cases htokens
    exact (taken_read htoken).completes hkind
  | @more cursor later count token result htoken hkind _ ih =>
    intro tokens htokens
    cases result with
    | error error => cases htokens
    | ok behind =>
      cases htokens
      exact (ih behind rfl).cons (taken_read htoken) hkind

/-- A word for the end of the input ends a scan before the end of the source. -/
example : (Scanner.ofSource "a end b" (.ofList [("end", .endOfInput)])).scanned.1 =
    .ok [⟨.identifier, some "a", ⟨1, 1⟩⟩, ⟨.endOfInput, some "end", ⟨1, 3⟩⟩] := by
  decide +kernel

/-! ### In every state -/

/-- A scanner ends well when, from where it stands in the source, single readings that return a token
with a text use up that text at least, and a scan ends after one reading more than there are characters
left, or earlier; when it returns tokens, they are right, and with a table that has no word for the end
of the input the cursor then is at the end of the source. -/
structure Scanner.EndsWell (scanner : Scanner) (source : String) (keywords : Keywords) : Prop where
  isSuffix : scanner.cursor.rest <:+ source.toList
  weighs : scanner.cursor.Weighs source
  read : ∀ token value, scanner.read.1.outcome = .ok token → token.text = some value →
    value ≠ "" ∧ scanner.read.2.cursor.rest.length + value.length ≤ scanner.cursor.rest.length ∧
      scanner.read.2.cursor.rest.length < scanner.cursor.rest.length
  scan : ∃ count, count ≤ scanner.cursor.rest.length + 1 ∧
    scanner.cursor.Scans keywords count scanner.scanned.1 scanner.scanned.2.cursor
  completes : ∀ tokens, scanner.scanned.1 = .ok tokens →
    Completes keywords scanner.cursor.rest tokens scanner.scanned.2.cursor.rest
  atEnd : ∀ tokens, scanner.scanned.1 = .ok tokens →
    (∀ word, keywords.kind? word ≠ some .endOfInput) →
    scanner.scanned.2.cursor.atEnd = true ∧ scanner.scanned.2.cursor.offset = source.utf8ByteSize

namespace Bench

/-- What is to be read is always an end of the source. -/
theorem isSuffix_run (source : String) (keywords : Keywords) (moves : List Move) :
    ((ofSource source keywords).run moves).scanner.cursor.rest <:+ source.toList :=
  cursor_run_keeps (fun cursor => cursor.rest <:+ source.toList) source keywords
    (fun cursor n h => (List.drop_suffix n cursor.rest).trans h) (List.suffix_refl _) moves

/-- **Scans make progress and end well**, with any table and in every state that a scanner can be
brought to. -/
theorem endsWell_run (source : String) (keywords : Keywords) (moves : List Move) :
    ((ofSource source keywords).run moves).scanner.EndsWell source keywords := by
  have hsuffix := isSuffix_run source keywords moves
  have hweighs := weighs_run source keywords moves
  have hlater := weighs_run source keywords (moves ++ [.scan])
  have hkeywords := keywords_run source keywords moves
  rw [run_append] at hlater
  generalize (ofSource source keywords).run moves = bench at hsuffix hweighs hlater hkeywords ⊢
  subst hkeywords
  obtain ⟨count, hcount, hscans⟩ := bench.scanner.cursor.exists_scans bench.scanner.keywords
  have hscan : bench.scanner.cursor.Scans bench.scanner.keywords count bench.scanner.scanned.1
      bench.scanner.scanned.2.cursor := by
    rw [Scanner.scanned_eq]
    exact hscans
  refine ⟨hsuffix, hweighs, ?_, ⟨count, hcount, hscan⟩, hscan.completes, ?_⟩
  · intro token value htoken hvalue
    have htaken := Cursor.taken_read htoken
    obtain ⟨hne, hle⟩ := htaken.length_le hvalue
    exact ⟨hne, hle, htaken.length_lt hvalue⟩
  · intro tokens htokens hnone
    obtain ⟨front, last, -, -, -, hend⟩ := (hscan.completes tokens htokens).ending
    have hrest := (hend hnone).2
    rw [Scanner.scanned_eq] at hrest ⊢
    exact hlater.atEnd hrest

end Bench

end CurlyLex
