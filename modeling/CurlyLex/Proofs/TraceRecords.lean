import CurlyLex.Proofs.SessionLedger

/-!
# The trace of a session

Every reading that a session takes leaves one record, and the record tells the outcome of that
reading.  A scan opens a span before its readings and notes how many tokens it found behind them, if
it found no error.  The tokens that a scan with an error does not return can be read off its trace.

* `Record.Shows` — all that can be seen of a record.
* `Reading.Leaves` — the record that a reading has to leave, inside a span or outside.
* `Request.Traces` — the records of a request, from its readings and its reply.
* `Ledger.Answers.traces` — every answer that the ledger accounts for has these records.
* `Ledger.Recounts`, `Session.recounts_run` — so a session tells all of its readings, in order, and a
  journal of each severity shows its part of that.
-/

namespace CurlyLex

/-! ### What a record has to say -/

/-- All that can be seen of a record: whether it opens a span, its severity, its title, the span in
which it lies, and its named values. -/
structure Record.Shows (record : Record) (opens : Bool) (severity : Severity) (title : String)
    (span : Option String) (fields : List (String × String)) : Prop where
  opens : record.opensSpan = opens
  severity : record.severity = severity
  title : record.title = title
  span : record.enclosing? = span
  fields : record.fields = fields

/-- The values of a token: its kind by name, its text in quoted form, and its position. -/
def Token.values (token : Token) : List (String × String) :=
  [("kind", token.kind.name),
    ("value", token.text.elim "None" fun text => "Some(" ++ Text.quoteString text ++ ")"),
    ("position", token.position.toText)]

/-- The values of an error that leaves the cursor at an offset: its position, the offset, and the fault
in words. -/
def LexicalError.values (error : LexicalError) (offset : Nat) : List (String × String) :=
  [("position", error.position.toText), ("offset", Text.decimal offset),
    ("error", error.fault.detail)]

/-- The record of a reading: an event for its token, or an event for its error and for the offset at
which the reading left the cursor. -/
inductive Reading.Leaves (span : Option String) : Reading → Record → Prop
  | token {reading : Reading} {token : Token} {record : Record} :
      reading.outcome = .ok token → record.Shows false .trace "token" span token.values →
      Leaves span reading record
  | error {reading : Reading} {error : LexicalError} {record : Record} :
      reading.outcome = .error error →
      record.Shows false .debug "lexical error" span (error.values reading.cursor.offset) →
      Leaves span reading record

/-- `Traces source request readings reply records`: the records of a request for which `readings` were
taken and that was replied `reply`.

Each reading leaves one record, outside of any span unless the request is a scan.  The records of a
scan come behind the record that opens its span, and lie in it.  A scan that returns tokens ends with
a record of their number.  A scan that returns an error has no such record; the tokens that were read
before the error, and that are not returned, are those of which its trace tells. -/
inductive Request.Traces (source : String) :
    Request → List Reading → Reply → List Record → Prop
  | loose {request : Request} {readings : List Reading} {reply : Reply} {records : List Record} :
      request ≠ .scan → List.Forall₂ (Reading.Leaves none) readings records →
      Traces source request readings reply records
  | scan_ok {readings : List Reading} {tokens : List Token} {opening closing : Record}
      {events : List Record} :
      opening.Shows true .debug "scan_all" none [("len", Text.decimal source.utf8ByteSize)] →
      List.Forall₂ (Reading.Leaves (some "scan_all")) readings events →
      closing.Shows false .debug "scan complete" (some "scan_all")
        [("count", Text.decimal tokens.length)] →
      Traces source .scan readings (.tokens (.ok tokens)) (opening :: (events ++ [closing]))
  | scan_error {readings : List Reading} {discarded : List Token} {error : LexicalError}
      {opening : Record} {events : List Record} :
      opening.Shows true .debug "scan_all" none [("len", Text.decimal source.utf8ByteSize)] →
      List.Forall₂ (Reading.Leaves (some "scan_all")) readings events →
      readings.map Reading.outcome = discarded.map .ok ++ [.error error] →
      (events.filter Record.tellsToken).map Record.fields = discarded.map Token.values →
      Traces source .scan readings (.tokens (.error error)) (opening :: events)

/-! ### What it says -/

namespace Reading

/-- **The record of a reading says what it has to say.** -/
theorem leaves_record (span : Option String) (reading : Reading) :
    reading.Leaves span (reading.record span) := by
  obtain ⟨outcome, cursor⟩ := reading
  cases outcome with
  | ok token =>
    refine .token rfl ⟨rfl, rfl, rfl, rfl, ?_⟩
    obtain ⟨kind, text, position⟩ := token
    cases text with
    | none => rfl
    | some text => rfl
  | error error => exact .error rfl ⟨rfl, rfl, rfl, rfl, rfl⟩

/-- Readings leave one record each. -/
theorem forall₂_leaves (span : Option String) (readings : List Reading) :
    List.Forall₂ (Leaves span) readings (readings.map (record span)) := by
  induction readings with
  | nil => exact .nil
  | cons reading readings ih => exact .cons (reading.leaves_record span) ih

end Reading

/-- The tokens of a trace are those of its readings, in order. -/
theorem Record.map_fields_tellsToken {span : Option String} {readings : List Reading}
    {records : List Record} (h : List.Forall₂ (Reading.Leaves span) readings records)
    {tokens : List Token} {error : LexicalError}
    (houtcomes : readings.map Reading.outcome = tokens.map .ok ++ [.error error]) :
    (records.filter tellsToken).map fields = tokens.map Token.values := by
  induction h generalizing tokens with
  | nil => simp at houtcomes
  | @cons reading record readings records hleaves hothers ih =>
    cases tokens with
    | nil =>
      obtain ⟨hfirst, hnil⟩ := List.cons_eq_cons.1 houtcomes
      obtain rfl := List.map_eq_nil_iff.1 hnil
      cases hothers
      cases hleaves with
      | token houtcome _ =>
        rw [houtcome] at hfirst
        simp at hfirst
      | error _ hshows =>
        have htitle : record.tellsToken = false := by
          rw [tellsToken, hshows.title]
          decide
        rw [List.filter_cons_of_neg (by simp [htitle])]
        rfl
    | cons token tokens =>
      obtain ⟨hfirst, hrest⟩ := List.cons_eq_cons.1 houtcomes
      cases hleaves with
      | token houtcome hshows =>
        obtain rfl := Except.ok.inj (houtcome.symm.trans hfirst)
        have htitle : record.tellsToken = true := by
          rw [tellsToken, hshows.title]
          decide
        rw [List.filter_cons_of_pos htitle, List.map_cons, hshows.fields, ih hrest, List.map_cons]
      | error houtcome _ =>
        rw [houtcome] at hfirst
        simp at hfirst

/-- **The trace of a scan** tells its readings and, when it returns tokens, how many. -/
theorem traces_scanRecords (source : String) {sequence : Nat → Reading} {first count : Nat}
    (hblock : Block sequence first count) :
    Request.Traces source .scan (stretch sequence first count)
      (.tokens (gather (stretch sequence first count)))
      (scanRecords none source (stretch sequence first count)) := by
  have hleaves := Reading.forall₂_leaves (some "scan_all") (stretch sequence first count)
  have hopening : Record.Shows ⟨.scanOpened source.utf8ByteSize, none⟩ true .debug "scan_all" none
      [("len", Text.decimal source.utf8ByteSize)] := ⟨rfl, rfl, rfl, rfl, rfl⟩
  rw [scanRecords]
  cases hgather : gather (stretch sequence first count) with
  | ok tokens => exact .scan_ok hopening hleaves ⟨rfl, rfl, rfl, rfl, rfl⟩
  | error error =>
    obtain ⟨tokens, houtcomes⟩ := hblock.exists_discarded hgather
    rw [List.append_nil]
    exact .scan_error hopening hleaves houtcomes (Record.map_fields_tellsToken hleaves houtcomes)

namespace Ledger

/-- **Every answer that the ledger accounts for tells all of its readings.** -/
theorem Answers.traces {fresh : Scanner} {ledger next : Ledger} {request : Request}
    {readings : List Reading} {answer : Answer} (h : Answers fresh ledger request readings answer next) :
    request.Traces fresh.source readings answer.reply answer.records := by
  obtain ⟨hserves, hrecords, -⟩ := h
  rw [hrecords, Request.records]
  by_cases hscan : request = .scan
  · subst hscan
    rw [if_pos rfl]
    generalize answer.reply = reply at hserves
    cases hserves with
    | scan hblock hdelivers =>
      rw [hdelivers.unique (delivers_gather hblock)]
      exact traces_scanRecords fresh.source hblock
  · rw [if_neg hscan]
    exact .loose hscan (Reading.forall₂_leaves none readings)

/-- `Recounts fresh ledger requests answers`: requests one after another are answered as the ledger
says, each with the ledger that the one before it left, and each answer tells the readings that were
taken for it. -/
inductive Recounts (fresh : Scanner) : Ledger → List Request → List Answer → Prop
  | nil {ledger : Ledger} : Recounts fresh ledger [] []
  | cons {ledger next : Ledger} {request : Request} {requests : List Request}
      {readings : List Reading} {answer : Answer} {answers : List Answer} :
      ledger.Serves fresh.nthRead request readings answer.reply next →
      answer.session = next.session fresh →
      request.Traces fresh.source readings answer.reply answer.records →
      Recounts fresh next requests answers →
      Recounts fresh ledger (request :: requests) (answer :: answers)

/-- What the ledger accounts for is told. -/
theorem Accounts.recounts {fresh : Scanner} {ledger : Ledger} {requests : List Request}
    {answers : List Answer} (h : Accounts fresh ledger requests answers) :
    Recounts fresh ledger requests answers := by
  induction h with
  | nil => exact .nil
  | cons hanswers _ ih => exact .cons hanswers.serves hanswers.session hanswers.traces ih

end Ledger

/-! ### Who sees it -/

/-- The trace of some answers, one after another. -/
def Answer.trace (answers : List Answer) : List Record :=
  answers.flatMap Answer.records

/-- Of the trace of some answers as much is seen as of each of them. -/
theorem Answer.trace_map_seenAt (severity : Severity) (answers : List Answer) :
    trace (answers.map (seenAt severity)) = Record.visible severity (trace answers) := by
  induction answers with
  | nil => rfl
  | cons answer answers ih =>
    rw [trace, trace, List.map_cons, List.flatMap_cons, List.flatMap_cons, Record.visible_append]
    exact congrArg (_ ++ ·) ih

/-- **A session tells all of its readings, in order.**  Whatever a session with a fresh scanner is
asked for, and with one journal for all that is done, each answer leaves the records of the readings that
are taken for it, which are the next of the fresh scanner.  A journal of another severity changes nothing
but the records that are kept of each answer: for debugging there are all of them but the tokens, and
above that there are none. -/
theorem Session.recounts_run (source : String) (keywords : Keywords) (requests : List Request) :
    Ledger.Recounts (.ofSource source keywords) .start requests
      ((Session.ofSource source keywords).runIn (.start .trace) requests) ∧
    (∀ severity, (Session.ofSource source keywords).runIn (.start severity) requests =
      ((Session.ofSource source keywords).runIn (.start .trace) requests).map
        (Answer.seenAt severity)) ∧
    Answer.trace ((Session.ofSource source keywords).runIn (.start .debug) requests) =
      (Answer.trace ((Session.ofSource source keywords).runIn (.start .trace) requests)).filter
        (fun record => !(record.title == "token")) ∧
    Answer.trace ((Session.ofSource source keywords).runIn (.start .info) requests) = [] := by
  have hseen := (Session.ofSource source keywords).runIn_eq_map
  refine ⟨?_, fun severity => hseen severity requests, ?_, ?_⟩
  · exact (Ledger.accounts_session (.ofSource source keywords) .start requests).recounts
  · rw [hseen, Answer.trace_map_seenAt]
    exact Record.visible_debug _
  · rw [hseen, Answer.trace_map_seenAt]
    exact Record.visible_info _

end CurlyLex
