import CurlyLex.Proofs.LexemeReading
import CurlyLex.Proofs.ReadingSequence

/-!
# Keyword tables decide kinds and nothing else

A word is looked up after it has been read, so a keyword table has no part in where a reading ends
or whether it meets an error.  Two tables make readings that differ in the kinds of words at most,
one by one.  What a table does decide is where a scan ends, when it gives a word the kind of the end of
the input.

* `Lexeme.isWord` — the shape of a word; `Lexeme.matches_word_of_read` — no other lexeme has it.
* `Token.rekind`, `Reading.rekind` — the kinds of words by another table.
* `Cursor.read_rekind`, `Scanner.nthRead_rekind` — readings with two tables.
* `SameButKind`, `EndsScan` — outcomes that differ in kind at most, and those with which a scan ends.
* `ScansAlong` — a scan with one table, along the readings with another.
* `Keywords.Agree`, `Session.run_withKeywords` — tables that agree on words are the same to a session.
* `Scanner.nthRead_keywords` — what two tables have in common and where they differ.
-/

namespace CurlyLex

/-! ### Words -/

/-- Does a text have the shape of a word? -/
def Lexeme.isWord : List Char → Bool
  | [] => false
  | c :: text => isWordStart c && text.all isWordPart

theorem Lexeme.isWord_iff {text : List Char} : isWord text ↔ Pattern.word.Matches text := by
  rw [Pattern.word_iff]
  cases text with
  | nil => simp [isWord]
  | cons c text =>
    rw [isWord, Bool.and_eq_true, List.all_eq_true]
    constructor
    · intro h
      exact ⟨c, text, rfl, h.1, h.2⟩
    · intro h
      obtain ⟨d, rest, heq, hd, hrest⟩ := h
      obtain ⟨rfl, rfl⟩ := List.cons_eq_cons.1 heq
      exact ⟨hd, hrest⟩

/-- **Among the lexemes that are found only words have the shape of one.** -/
theorem Lexeme.matches_word_of_read {text : List Char} {lexeme : Lexeme}
    (h : read text = .found lexeme) :
    Pattern.word.Matches lexeme.text ↔ ∃ word, lexeme = .word word := by
  cases hword : readWord? text with
  | some word =>
    rw [read_of_word hword] at h
    cases h
    exact iff_of_true (longest_readWord? hword).holds ⟨word, rfl⟩
  | none =>
    cases hnumber : Numeral.read? text with
    | some n =>
      rw [read_of_numeral hword hnumber, ofNumeral] at h
      split at h
      · simp at h
      · cases h
        apply iff_of_false
        · exact fun hmatches =>
            Pattern.not_number_of_word hmatches (Numeral.longest_text hnumber).holds
        · simp
    | none =>
      cases hsymbol : Symbol.read? text with
      | some s =>
        rw [read_of_symbol hword hnumber hsymbol] at h
        cases h
        exact iff_of_false (Symbol.not_word_of_spelling rfl) (by simp)
      | none =>
        cases text with
        | nil => simp [read] at h
        | cons c text =>
          rw [read_of_none hword hnumber hsymbol] at h
          simp at h

/-! ### Kinds by another table -/

/-- The kind of a token by a table: that of a word is looked up, any other is what it is. -/
def Token.kindIn (keywords : Keywords) (token : Token) : Kind :=
  match token.text with
  | some text =>
    if Lexeme.isWord text.toList then (keywords.kind? text).getD .identifier else token.kind
  | none => token.kind

/-- A token with its kind by a table. -/
def Token.rekind (keywords : Keywords) (token : Token) : Token :=
  { token with kind := token.kindIn keywords }

/-- A reading with the kind of its token by a table. -/
def Reading.rekind (keywords : Keywords) (reading : Reading) : Reading where
  outcome := reading.outcome.map (Token.rekind keywords)
  cursor := reading.cursor

@[simp]
theorem Reading.cursor_rekind (keywords : Keywords) (reading : Reading) :
    (reading.rekind keywords).cursor = reading.cursor := rfl

theorem Token.kindIn_of_word {token : Token} {text : String} (keywords : Keywords)
    (htext : token.text = some text) (hword : Pattern.word.Matches text.toList) :
    token.kindIn keywords = (keywords.kind? text).getD .identifier := by
  simp only [kindIn, htext, if_pos (Lexeme.isWord_iff.2 hword)]

theorem Token.kindIn_of_not_word {token : Token} (keywords : Keywords)
    (h : ∀ text, token.text = some text → ¬ Pattern.word.Matches text.toList) :
    token.kindIn keywords = token.kind := by
  rw [kindIn]
  cases htext : token.text with
  | none => rfl
  | some text => exact if_neg fun hword => h text htext (Lexeme.isWord_iff.1 hword)

/-- The text of a token is a word, or it is not, or there is none. -/
theorem Token.word_or_other (token : Token) :
    (∃ text, token.text = some text ∧ Pattern.word.Matches text.toList) ∨
      ∀ text, token.text = some text → ¬ Pattern.word.Matches text.toList := by
  by_cases hword : ∃ text, token.text = some text ∧ Pattern.word.Matches text.toList
  · exact .inl hword
  · exact .inr fun text htext hmatches => hword ⟨text, htext, hmatches⟩

/-- The kind of a lexeme by one table is found in its token by another. -/
theorem Lexeme.kindIn_of_read {text : List Char} {lexeme : Lexeme} (h : read text = .found lexeme)
    (keywords other : Keywords) (position : Position) :
    Token.kindIn other ⟨lexeme.kind keywords, some (String.ofList lexeme.text), position⟩ =
      lexeme.kind other := by
  have hshape := matches_word_of_read h
  by_cases hword : ∃ word, lexeme = .word word
  · have hmatches : Pattern.word.Matches (String.ofList lexeme.text).toList := by
      rw [String.toList_ofList]
      exact hshape.2 hword
    rw [Token.kindIn_of_word other rfl hmatches]
    obtain ⟨word, rfl⟩ := hword
    rfl
  · rw [Token.kindIn_of_not_word]
    · cases lexeme with
      | word word => exact absurd ⟨word, rfl⟩ hword
      | numeral n => rfl
      | symbol s => rfl
    · intro other hother
      rw [← Option.some.inj hother, String.toList_ofList, hshape]
      exact hword

/-- **A table decides the kinds of words and nothing else.** -/
theorem Cursor.read_rekind (keywords other : Keywords) (cursor : Cursor) :
    cursor.read other = (cursor.read keywords).rekind other := by
  rw [read_eq, read_eq]
  cases Gap.length? cursor.rest with
  | none => rfl
  | some gap =>
    show (cursor.advance gap).readLexeme other =
      ((cursor.advance gap).readLexeme keywords).rekind other
    rw [readLexeme_eq, readLexeme_eq]
    cases hread : Lexeme.read (cursor.advance gap).rest with
    | exhausted => rfl
    | found lexeme =>
      have hkind := Lexeme.kindIn_of_read hread keywords other (cursor.advance gap).position
      show Reading.token _ _ = Reading.token ⟨Token.kindIn other _, _, _⟩ _
      rw [hkind]
      rfl
    | malformedExponent literal => rfl
    | unrecognized c => rfl

namespace Scanner

variable (source : String) (first second : Keywords)

/-- Fresh scanners stand at the same places after as many readings, whatever their tables. -/
theorem cursor_afterReads_ofSource (n : Nat) :
    ((ofSource source second).afterReads n).cursor =
      ((ofSource source first).afterReads n).cursor := by
  induction n with
  | zero => rfl
  | succ n ih =>
    rw [cursor_afterReads_succ, cursor_afterReads_succ, nthRead_eq_read, nthRead_eq_read, ih]
    show (Cursor.read second _).cursor = (Cursor.read first _).cursor
    rw [Cursor.read_rekind first second, Reading.cursor_rekind]

/-- **The readings of fresh scanners differ in the kinds of words at most.** -/
theorem nthRead_rekind (n : Nat) :
    (ofSource source second).nthRead n = ((ofSource source first).nthRead n).rekind second := by
  rw [nthRead_eq_read, nthRead_eq_read, cursor_afterReads_ofSource source first second]
  exact Cursor.read_rekind first second _

end Scanner

/-! ### What two tables have in common -/

/-- Outcomes with two tables: the same error, or tokens of which only the kind may differ, and this
only when the text is a word; then each table gives its own entry for the whole word, and an
identifier where it has none. -/
inductive SameButKind (first second : Keywords) :
    Except LexicalError Token → Except LexicalError Token → Prop
  | error {error : LexicalError} : SameButKind first second (.error error) (.error error)
  | word {word : String} {position : Position} :
      Pattern.word.Matches word.toList →
      SameButKind first second
        (.ok ⟨(first.kind? word).getD .identifier, some word, position⟩)
        (.ok ⟨(second.kind? word).getD .identifier, some word, position⟩)
  | other {token : Token} :
      (∀ text, token.text = some text → ¬ Pattern.word.Matches text.toList) →
      SameButKind first second (.ok token) (.ok token)

/-- A token with its kinds by two tables. -/
theorem sameButKind_rekind (first second : Keywords) (outcome : Except LexicalError Token) :
    SameButKind first second (outcome.map (Token.rekind first))
      (outcome.map (Token.rekind second)) := by
  cases outcome with
  | error error => exact .error
  | ok token =>
    show SameButKind first second (.ok (token.rekind first)) (.ok (token.rekind second))
    rcases token.word_or_other with ⟨text, htext, hmatches⟩ | hother
    · rw [Token.rekind, Token.rekind, Token.kindIn_of_word first htext hmatches,
        Token.kindIn_of_word second htext hmatches, htext]
      exact .word hmatches
    · rw [Token.rekind, Token.rekind, Token.kindIn_of_not_word first hother,
        Token.kindIn_of_not_word second hother]
      exact .other hother

/-! ### Where scans end -/

/-- A scan with a keyword table ends with an error, with the end of the input, and with a word that
the table takes for it. -/
inductive EndsScan (keywords : Keywords) : Except LexicalError Token → Prop
  | error {error : LexicalError} : EndsScan keywords (.error error)
  | finish {token : Token} : token.text = none → EndsScan keywords (.ok token)
  | word {token : Token} {word : String} :
      token.text = some word → Pattern.word.Matches word.toList →
      keywords.kind? word = some .endOfInput → EndsScan keywords (.ok token)

/-- Apart from words, the end of the input is what has no text. -/
theorem Cursor.kind_of_read {keywords : Keywords} {cursor : Cursor} {token : Token}
    (h : (cursor.read keywords).outcome = .ok token)
    (hother : ∀ text, token.text = some text → ¬ Pattern.word.Matches text.toList) :
    token.kind = .endOfInput ↔ token.text = none := by
  rw [read_eq] at h
  cases hgap : Gap.length? cursor.rest with
  | none =>
    rw [hgap] at h
    cases h
  | some gap =>
    rw [hgap] at h
    change ((cursor.advance gap).readLexeme keywords).outcome = .ok token at h
    rw [readLexeme_eq] at h
    cases hread : Lexeme.read (cursor.advance gap).rest with
    | exhausted =>
      rw [hread] at h
      cases h
      exact iff_of_true rfl rfl
    | found lexeme =>
      rw [hread] at h
      cases h
      have hnone := hother _ rfl
      rw [String.toList_ofList, Lexeme.matches_word_of_read hread] at hnone
      refine iff_of_false ?_ (by simp)
      cases lexeme with
      | word word => exact absurd ⟨word, rfl⟩ hnone
      | numeral n => simp [Lexeme.kind]
      | symbol s => simp [Lexeme.kind]
    | malformedExponent literal =>
      rw [hread] at h
      cases h
    | unrecognized c =>
      rw [hread] at h
      cases h

/-- A table takes a word for the end of the input when it has this entry. -/
theorem Keywords.getD_eq_endOfInput {keywords : Keywords} {word : String} :
    (keywords.kind? word).getD .identifier = .endOfInput ↔
      keywords.kind? word = some .endOfInput := by
  cases keywords.kind? word with
  | none => simp
  | some kind => simp

/-- **With another table a reading is the last of a scan exactly when its outcome ends scans with
this table.** -/
theorem Cursor.isLast_rekind (keywords other : Keywords) (cursor : Cursor) :
    ((cursor.read keywords).rekind other).isLast = true ↔
      EndsScan other (cursor.read keywords).outcome := by
  rw [Reading.isLast, Reading.rekind]
  cases houtcome : (cursor.read keywords).outcome with
  | error error => exact iff_of_true rfl .error
  | ok token =>
    have hfinal : (token.rekind other).isFinal = true ↔ token.kindIn other = .endOfInput := by
      simp [Token.isFinal, Token.rekind]
    show (token.rekind other).isFinal = true ↔ EndsScan other (.ok token)
    rw [hfinal]
    rcases token.word_or_other with ⟨text, htext, hmatches⟩ | hother
    · rw [Token.kindIn_of_word other htext hmatches, Keywords.getD_eq_endOfInput]
      constructor
      · exact .word htext hmatches
      · intro hends
        cases hends with
        | finish hnone => simp [htext] at hnone
        | word hsome _ hentry =>
          obtain rfl := Option.some.inj (htext.symm.trans hsome)
          exact hentry
    · rw [Token.kindIn_of_not_word other hother, kind_of_read houtcome hother]
      constructor
      · exact .finish
      · intro hends
        cases hends with
        | finish hnone => exact hnone
        | word hsome hmatches _ => exact absurd hmatches (hother _ hsome)

/-- A scan takes what comes up to the first reading of a sequence that ends scans with its table, and
gives it the kinds of this table. -/
structure ScansAlong (sequence : Nat → Reading) (scanner : Scanner) (count : Nat) : Prop where
  more : ∀ i < count, ¬ EndsScan scanner.keywords (sequence i).outcome
  last : EndsScan scanner.keywords (sequence count).outcome
  readings : scanner.scan.1 =
    (stretch sequence 0 (count + 1)).map (Reading.rekind scanner.keywords)
  result : Delivers scanner.scan.1 scanner.scanned.1
  cursor : scanner.scanned.2.cursor = (sequence count).cursor

namespace Scanner

variable (source : String) (first second : Keywords)

theorem isLast_nthRead (n : Nat) :
    ((ofSource source second).nthRead n).isLast = true ↔
      EndsScan second ((ofSource source first).nthRead n).outcome := by
  rw [nthRead_rekind source first second, nthRead_eq_read]
  exact Cursor.isLast_rekind first second _

/-- A fresh scanner scans along the sequence of readings with any table. -/
theorem exists_scansAlong :
    ∃ count, ScansAlong (ofSource source first).nthRead (ofSource source second) count := by
  obtain ⟨hreadings, hcursor, -⟩ :=
    (ofSource source second).proceeds_scan.eq_stretch (ofSource source second) 0 rfl rfl
  have hblock := (ofSource source second).block_scan (ofSource source second) 0 rfl rfl
  obtain ⟨count, hcount⟩ : ∃ count, (ofSource source second).scan.1.length = count + 1 :=
    ⟨_, (Nat.succ_pred_eq_of_pos hblock.pos).symm⟩
  rw [hcount] at hreadings hcursor hblock
  refine ⟨count, ?_, ?_, ?_, ?_, ?_⟩
  · intro i hi hends
    have hmore := hblock.more i (Nat.succ_lt_succ hi)
    rw [Nat.zero_add] at hmore
    rw [(isLast_nthRead source first second i).2 hends] at hmore
    simp at hmore
  · have hlast := hblock.last
    rw [Nat.zero_add, Nat.add_sub_cancel] at hlast
    exact (isLast_nthRead source first second count).1 hlast
  · rw [hreadings, stretch, stretch, List.map_map]
    exact List.map_congr_left fun i _ => nthRead_rekind source first second i
  · rw [scanned_eq, hreadings]
    exact delivers_gather hblock
  · rw [scanned_eq, hcursor, Nat.zero_add, cursor_afterReads_succ,
      nthRead_rekind source first second, Reading.cursor_rekind]

end Scanner

/-! ### Tables that agree on words -/

/-- Tables agree on words when they have the same entries for them. -/
def Keywords.Agree (first second : Keywords) : Prop :=
  ∀ word : String, Pattern.word.Matches word.toList → first.kind? word = second.kind? word

/-- An entry for what is no word may be added. -/
theorem Keywords.agree_insert (keywords : Keywords) {word : String}
    (h : ¬ Pattern.word.Matches word.toList) (kind : Kind) :
    keywords.Agree (keywords.insert word kind) := by
  intro other hother
  rw [kind?_insert, if_neg]
  rintro rfl
  exact h hother

variable {first second : Keywords}

theorem Token.rekind_of_agree (h : first.Agree second) (token : Token) :
    token.rekind second = token.rekind first := by
  have hkind : token.kindIn second = token.kindIn first := by
    rcases token.word_or_other with ⟨text, htext, hmatches⟩ | hother
    · rw [kindIn_of_word second htext hmatches, kindIn_of_word first htext hmatches,
        h text hmatches]
    · rw [kindIn_of_not_word second hother, kindIn_of_not_word first hother]
  rw [rekind, rekind, hkind]

/-- **Tables that agree on words make the same readings.** -/
theorem Cursor.read_of_agree (h : first.Agree second) (cursor : Cursor) :
    cursor.read second = cursor.read first := by
  calc
    cursor.read second = (cursor.read first).rekind second := read_rekind first second cursor
    _ = (cursor.read first).rekind first := by
      rw [Reading.rekind, Reading.rekind, funext (Token.rekind_of_agree h)]
    _ = cursor.read first := (read_rekind first first cursor).symm

theorem Cursor.readings_of_agree (h : first.Agree second) (cursor : Cursor) :
    cursor.readings second = cursor.readings first := by
  -- on what is left to be read
  induction hlen : cursor.rest.length using Nat.strongRecOn generalizing cursor with
  | _ n ih =>
    subst hlen
    rw [readings_eq, readings_eq first, cursor.read_of_agree h]
    cases hlast : (cursor.read first).isLast with
    | true => rfl
    | false => rw [ih _ (cursor.rest_read_lt first hlast) _ rfl]

namespace Scanner

/-- A scanner with another table. -/
def withKeywords (scanner : Scanner) (keywords : Keywords) : Scanner :=
  { scanner with keywords }

variable {scanner : Scanner} {other : Keywords} (h : scanner.keywords.Agree other)
include h

theorem read_withKeywords :
    (scanner.withKeywords other).read = (scanner.read.1, scanner.read.2.withKeywords other) := by
  have hread := scanner.cursor.read_of_agree h
  simp only [read_eq, withKeywords, hread]

theorem scan_withKeywords :
    (scanner.withKeywords other).scan = (scanner.scan.1, scanner.scan.2.withKeywords other) := by
  have hreadings := scanner.cursor.readings_of_agree h
  simp only [scan, withKeywords, hreadings]

theorem next?_withKeywords :
    (scanner.withKeywords other).next? =
      scanner.next?.map fun delivered => (delivered.1, delivered.2.withKeywords other) := by
  have hread := scanner.cursor.read_of_agree h
  cases hfinished : scanner.finished with
  | true =>
    have hsame : (scanner.withKeywords other).next? = none := next?_of_finished hfinished
    rw [hsame, next?_of_finished hfinished]
    rfl
  | false =>
    have hsame : (scanner.withKeywords other).finished = false := hfinished
    rw [next?_of_unfinished hfinished, next?_of_unfinished hsame]
    simp only [withKeywords, hread, Option.map_some]

theorem take_withKeywords (n : Nat) :
    (scanner.withKeywords other).take n =
      ((scanner.take n).1, (scanner.take n).2.withKeywords other) := by
  induction n generalizing scanner with
  | zero => rfl
  | succ n ih =>
    rw [take_succ, take_succ, next?_withKeywords h]
    cases hnext : scanner.next? with
    | none => rfl
    | some delivered =>
      obtain ⟨reading, later⟩ := delivered
      have hkeywords := (proceeds_next? hnext).keywords
      simp only [Option.map_some, ih (hkeywords ▸ h)]

theorem drain_withKeywords :
    (scanner.withKeywords other).drain = (scanner.drain.1, scanner.drain.2.withKeywords other) := by
  have hflag : (scanner.withKeywords other).finished = scanner.finished := rfl
  cases hfinished : scanner.finished with
  | true => rw [drain_of_finished hfinished, drain_of_finished (hflag.trans hfinished)]
  | false =>
    rw [drain_of_unfinished _ hfinished, drain_of_unfinished _ (hflag.trans hfinished),
      scan_withKeywords h]
    rfl

end Scanner

/-- A session with another table. -/
def Session.withKeywords (session : Session) (keywords : Keywords) : Session :=
  ⟨session.scanner.withKeywords keywords, session.saved.withKeywords keywords⟩

/-- An answer, with which the session goes on with another table. -/
def Answer.withKeywords (answer : Answer) (keywords : Keywords) : Answer :=
  { answer with session := answer.session.withKeywords keywords }

namespace Session

/-- The scanners of a session have the same table. -/
structure Uses (session : Session) (keywords : Keywords) : Prop where
  scanner : session.scanner.keywords = keywords
  saved : session.saved.keywords = keywords

theorem Uses.answer {session : Session} (h : session.Uses first) (request : Request) :
    (session.answer request).session.Uses first := by
  rw [answer_eq]
  cases request with
  | read => exact ⟨h.scanner, h.saved⟩
  | next =>
    rw [deed]
    cases hnext : session.scanner.next? with
    | none => exact h
    | some delivered =>
      exact ⟨(Scanner.proceeds_next? hnext).keywords.trans h.scanner, h.saved⟩
  | scan => exact ⟨h.scanner, h.saved⟩
  | collect => exact ⟨(Scanner.proceeds_drain _).keywords.trans h.scanner, h.saved⟩
  | take count => exact ⟨(Scanner.proceeds_take _ _).keywords.trans h.scanner, h.saved⟩
  | observe => exact h
  | save => exact ⟨h.scanner, h.scanner⟩
  | restore => exact ⟨h.saved, h.saved⟩

theorem answer_withKeywords {session : Session} (h : session.scanner.keywords.Agree second)
    (request : Request) :
    (session.withKeywords second).answer request =
      (session.answer request).withKeywords second := by
  rw [answer_eq, answer_eq]
  cases request with
  | read =>
    simp only [deed, withKeywords, Answer.withKeywords, Scanner.read_withKeywords h]
    rfl
  | next =>
    simp only [deed, withKeywords, Scanner.next?_withKeywords h]
    cases session.scanner.next? with
    | none => rfl
    | some delivered => rfl
  | scan =>
    simp only [deed, withKeywords, Answer.withKeywords, Scanner.scan_withKeywords h]
    rfl
  | collect =>
    simp only [deed, withKeywords, Answer.withKeywords, Scanner.drain_withKeywords h]
    rfl
  | take count =>
    simp only [deed, withKeywords, Answer.withKeywords, Scanner.take_withKeywords h]
    rfl
  | observe => rfl
  | save => rfl
  | restore => rfl

/-- **Tables that agree on words are the same to a session**: every request has the same answer. -/
theorem run_withKeywords (h : first.Agree second) {session : Session} (huses : session.Uses first)
    (requests : List Request) :
    (session.withKeywords second).run requests =
      (session.run requests).map fun answer => answer.withKeywords second := by
  induction requests generalizing session with
  | nil => rfl
  | cons request requests ih =>
    have hanswer := answer_withKeywords (huses.scanner.symm ▸ h) request
    rw [run_cons, run_cons, List.map_cons, hanswer]
    exact congrArg (List.cons _) (ih (huses.answer request))

end Session

/-! ### Two tables -/

/-- **A keyword table decides kinds and nothing else.**  Reading by reading, fresh scanners of a
source with two tables meet the same errors, or the same texts at the same positions, and then stand
at the same place; only words may differ in kind, and each table has its own entry for the whole word.
Entries for what is no word have no effect at all.  A scan with the second table takes the readings
with the first, with kinds by the second, up to the first error, the end of the input, or the first
word that the second table takes for it. -/
theorem Scanner.nthRead_keywords (source : String) (first second : Keywords) :
    (∀ n, SameButKind first second ((ofSource source first).nthRead n).outcome
          ((ofSource source second).nthRead n).outcome ∧
        ((ofSource source first).nthRead n).cursor =
          ((ofSource source second).nthRead n).cursor) ∧
      (first.Agree second → ∀ requests,
        (Session.ofSource source second).run requests =
          ((Session.ofSource source first).run requests).map
            fun answer => answer.withKeywords second) ∧
      ∃ count, ScansAlong (ofSource source first).nthRead (ofSource source second) count := by
  refine ⟨?_, ?_, exists_scansAlong source first second⟩
  · intro n
    have hfirst := congrArg Reading.outcome (nthRead_rekind source first first n)
    have hsecond := nthRead_rekind source first second n
    have hsame := sameButKind_rekind first second ((ofSource source first).nthRead n).outcome
    rw [hsecond, Reading.cursor_rekind]
    refine ⟨?_, rfl⟩
    -- the first table finds its own kinds again
    rw [hfirst]
    exact hsame
  · intro hagree requests
    have huses : (Session.ofSource source first).Uses first := ⟨rfl, rfl⟩
    exact Session.run_withKeywords hagree huses requests

/-- A word that one table takes for the end of the input, where the other has an identifier; and a
numeral, which is looked up in no table. -/
theorem Scanner.nthRead_keywords_stop :
    SameButKind .empty (.ofList [("stop", .endOfInput)])
        ((ofSource "a stop 1" .empty).nthRead 1).outcome
        ((ofSource "a stop 1" (.ofList [("stop", .endOfInput)])).nthRead 1).outcome ∧
      (∃ count, ScansAlong (ofSource "a stop 1" .empty).nthRead
        (ofSource "a stop 1" (.ofList [("stop", .endOfInput)])) count) ∧
      ∀ requests, (Session.ofSource "a stop 1" (Keywords.empty.insert "1" .endOfInput)).run requests =
        ((Session.ofSource "a stop 1" .empty).run requests).map
          fun answer => answer.withKeywords (Keywords.empty.insert "1" .endOfInput) := by
  have hnumeral : ¬ Pattern.word.Matches "1".toList := by
    rw [← Lexeme.isWord_iff]
    decide
  obtain ⟨hreadings, -, hscan⟩ :=
    nthRead_keywords "a stop 1" .empty (.ofList [("stop", .endOfInput)])
  exact ⟨(hreadings 1).1, hscan,
    (nthRead_keywords "a stop 1" .empty _).2.1 (Keywords.empty.agree_insert hnumeral .endOfInput)⟩

end CurlyLex
