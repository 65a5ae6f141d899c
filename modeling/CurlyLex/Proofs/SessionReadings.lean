import CurlyLex.Proofs.ScanReadings
import CurlyLex.Session

/-!
# The readings of a session

Whatever a scanner is asked for, it takes readings one after another.  They tell the reply, the scanner to
go on with, and what has been noted: each reading leaves one record, and a scan has one more in front of
them and, unless it ends with an error, one behind them.  So a session can be followed by its readings
alone.

* `Scanner.read`, `Scanner.scan`, `Scanner.next?`, `Scanner.take`, `Scanner.drain` — the readings that are
  taken for a token, a scan, an item of the stream, some of its items and all that are left.
* `Scanner.nextToken_eq_read`, `Scanner.scanAll_eq`, `Scanner.nextItem?_eq_map`, `Scanner.takeItems_eq`,
  `Scanner.collectItems_eq` — what comes of each operation, told from them.
* `Scanner.scanned` — what a scan returns, when nobody looks into the journal.
* `Session.deed` — the readings of a request, the reply and the session to go on with.
* `Session.serve_eq` — **a request leaves the records of its readings**, whatever journal is kept.
* `Session.answer_eq`, `Session.run_cons` — so an answer does not depend on the answers before it.
* `Session.runIn_eq_map` — and a journal that keeps less shows the same with fewer records.
-/

namespace CurlyLex

namespace Scanner

/-! ### Readings of a scanner -/

/-- One reading: the outcome of asking for a token, and where the cursor then stands. -/
def read (scanner : Scanner) : Reading × Scanner :=
  let (outcome, later, _) := scanner.nextToken (.start .info)
  (⟨outcome, later.cursor⟩, later)

/-- This is the reading at the cursor. -/
theorem read_eq (scanner : Scanner) :
    scanner.read =
      let reading := scanner.cursor.read scanner.keywords
      (reading, { scanner with cursor := reading.cursor }) := by
  rw [read, nextToken_eq]

/-- The readings of a scan from where the scanner stands. -/
def scan (scanner : Scanner) : List Reading × Scanner :=
  let readings := scanner.cursor.readings scanner.keywords
  (readings, { scanner with cursor := scanner.cursor.past readings })

/-- The next reading of the stream, or nothing when it is finished. -/
def next? (scanner : Scanner) : Option (Reading × Scanner) :=
  (scanner.nextItem? (.start .info)).map fun (item, later, _) => (⟨item, later.cursor⟩, later)

/-- It is a reading as any other, and with the last one the stream is finished. -/
theorem next?_eq (scanner : Scanner) :
    scanner.next? =
      if scanner.finished then none
      else
        let reading := scanner.cursor.read scanner.keywords
        some (reading, { scanner with cursor := reading.cursor, finished := reading.isLast }) := by
  rw [next?, nextItem?_eq]
  cases scanner.finished with
  | true => rfl
  | false => rfl

/-- Up to `n` readings of the stream. -/
def take : Nat → Scanner → List Reading × Scanner
  | 0, scanner => ([], scanner)
  | n + 1, scanner =>
    match scanner.next? with
    | none => ([], scanner)
    | some (reading, later) => (reading :: (take n later).1, (take n later).2)

@[simp]
theorem take_zero (scanner : Scanner) : scanner.take 0 = ([], scanner) := rfl

/-- Taking one more reading takes the next reading of the stream first. -/
theorem take_succ (n : Nat) (scanner : Scanner) :
    scanner.take (n + 1) =
      match scanner.next? with
      | none => ([], scanner)
      | some (reading, later) => (reading :: (later.take n).1, (later.take n).2) := rfl

/-- **An item of the stream is the outcome of a reading**, whose record is kept. -/
theorem nextItem?_eq_map (scanner : Scanner) (journal : Journal) :
    scanner.nextItem? journal =
      scanner.next?.map fun delivered =>
        (delivered.1.outcome, delivered.2,
          journal.keep [delivered.1.record journal.spans.head?]) := by
  simp only [nextItem?_eq, Journal.note_eq_keep, next?_eq]
  cases scanner.finished with
  | true => rfl
  | false => rfl

theorem remaining_lt_of_next? {scanner later : Scanner} {reading : Reading}
    (h : scanner.next? = some (reading, later)) : later.remaining < scanner.remaining := by
  have hitem := scanner.nextItem?_eq_map (.start .info)
  rw [h] at hitem
  exact remaining_lt_of_nextItem? hitem

/-- The rest of the stream. -/
def drain (scanner : Scanner) : List Reading × Scanner :=
  match _step : scanner.next? with
  | none => ([], scanner)
  | some (reading, later) => (reading :: later.drain.1, later.drain.2)
termination_by scanner.remaining
decreasing_by all_goals exact remaining_lt_of_next? _step

/-- Draining a stream takes its next reading and drains what comes after it. -/
theorem drain_eq (scanner : Scanner) :
    scanner.drain =
      match scanner.next? with
      | none => ([], scanner)
      | some (reading, later) => (reading :: later.drain.1, later.drain.2) := by
  rw [drain]
  split <;> rename_i step <;> rw [step]

/-- What the stream delivers is a reading, and it is finished when that is the last. -/
theorem next?_eq_some {scanner later : Scanner} {reading : Reading}
    (h : scanner.next? = some (reading, later)) :
    reading = scanner.cursor.read scanner.keywords ∧
      later = { scanner with cursor := reading.cursor, finished := reading.isLast } := by
  rw [next?_eq] at h
  split at h
  · simp at h
  · cases h
    exact ⟨rfl, rfl⟩

theorem next?_of_finished {scanner : Scanner} (h : scanner.finished = true) :
    scanner.next? = none := by
  rw [next?_eq, if_pos h]

theorem drain_of_finished {scanner : Scanner} (h : scanner.finished = true) :
    scanner.drain = ([], scanner) := by
  rw [drain_eq, next?_of_finished h]

/-! ### What comes of each operation -/

variable (scanner : Scanner) (journal : Journal)

/-- **A token is that of a reading**, and its record is kept. -/
theorem nextToken_eq_read :
    scanner.nextToken journal =
      (scanner.read.1.outcome, scanner.read.2,
        journal.keep [scanner.read.1.record journal.spans.head?]) := by
  simp only [nextToken_eq, Journal.note_eq_keep, read_eq]
  rfl

/-- **A scan returns what its readings tell**, and keeps their records in its span. -/
theorem scanAll_eq :
    scanner.scanAll journal =
      (gather scanner.scan.1, scanner.scan.2,
        journal.keep (scanRecords journal.spans.head? scanner.source scanner.scan.1)) := by
  rw [scanAll, perform, Work.on_scanAll]
  rfl

/-- What a scan returns, and the scanner behind it; nothing is kept in a journal. -/
def scanned : Except LexicalError (List Token) × Scanner :=
  let (tokens, later, _) := scanner.scanAll (.start .info)
  (tokens, later)

theorem scanned_eq : scanner.scanned = (gather scanner.scan.1, scanner.scan.2) := by
  rw [scanned, scanAll_eq]

/-- **Some items of the stream are the outcomes of its readings**, whose records are kept. -/
theorem takeItemsAfter_eq (n : Nat) (earlier : List (Except LexicalError Token)) :
    takeItemsAfter n scanner journal earlier =
      (earlier.reverse ++ (scanner.take n).1.map Reading.outcome, (scanner.take n).2,
        journal.keep ((scanner.take n).1.map (Reading.record journal.spans.head?))) := by
  induction n generalizing scanner journal earlier with
  | zero =>
    rw [takeItemsAfter, take_zero, List.map_nil, List.append_nil]
    rfl
  | succ n ih =>
    rw [takeItemsAfter, nextItem?_eq_map, take_succ]
    cases scanner.next? with
    | none =>
      rw [Option.map_none, List.map_nil, List.append_nil]
      rfl
    | some delivered =>
      obtain ⟨reading, later⟩ := delivered
      rw [Option.map_some]
      dsimp only
      rw [ih, Journal.spans_keep, Journal.keep_keep, List.reverse_cons, List.append_assoc]
      rfl

theorem takeItems_eq (n : Nat) :
    scanner.takeItems n journal =
      ((scanner.take n).1.map Reading.outcome, (scanner.take n).2,
        journal.keep ((scanner.take n).1.map (Reading.record journal.spans.head?))) := by
  rw [takeItems, takeItemsAfter_eq]
  rfl

/-- **The tokens of the stream are those of its readings**, up to the first error, behind which there are
no more of them. -/
theorem collectItemsAfter_eq_gather (earlier : List Token) :
    scanner.collectItemsAfter journal earlier =
      ((gather scanner.drain.1).map (earlier.reverse ++ ·), scanner.drain.2,
        journal.keep (scanner.drain.1.map (Reading.record journal.spans.head?))) := by
  -- on the bound of the items that are still to come
  induction hbound : scanner.remaining using Nat.strongRecOn
    generalizing scanner journal earlier with
  | _ n ih =>
    subst hbound
    rw [collectItemsAfter_eq, nextItem?_eq_map, drain_eq]
    cases hnext : scanner.next? with
    | none =>
      show (Except.ok earlier.reverse, scanner, journal) =
        (Except.ok (earlier.reverse ++ []), scanner, journal)
      rw [List.append_nil]
    | some delivered =>
      obtain ⟨reading, later⟩ := delivered
      have hless := remaining_lt_of_next? hnext
      obtain ⟨-, hlater⟩ := next?_eq_some hnext
      rw [Option.map_some]
      dsimp only
      rw [gather_cons]
      cases houtcome : reading.outcome with
      | error error =>
        have hfinished : later.finished = true := by
          rw [hlater]
          show reading.isLast = true
          rw [Reading.isLast, houtcome]
        rw [drain_of_finished hfinished]
        rfl
      | ok token =>
        dsimp only
        rw [ih _ hless later _ _ rfl, Journal.spans_keep, Journal.keep_keep, List.map_cons]
        exact Prod.ext (map_reverse_cons token earlier _) rfl

theorem collectItems_eq :
    scanner.collectItems journal =
      (gather scanner.drain.1, scanner.drain.2,
        journal.keep (scanner.drain.1.map (Reading.record journal.spans.head?))) := by
  rw [collectItems, collectItemsAfter_eq_gather, map_reverse_nil]

end Scanner

/-! ### Requests -/

/-- What is done for a request. -/
structure Deed where
  /-- The readings that are taken. -/
  readings : List Reading
  reply : Reply
  session : Session

/-- The records of a request for which readings are taken, where a span may be open: those of a scan lie
in its own. -/
def Request.records (span : Option String) (source : String) (request : Request)
    (readings : List Reading) : List Record :=
  if request = .scan then scanRecords span source readings
  else readings.map (Reading.record span)

/-- An answer with the records alone that a journal keeps from a given severity on. -/
def Answer.seenAt (severity : Severity) (answer : Answer) : Answer :=
  { answer with records := Record.visible severity answer.records }

namespace Session

/-- What is done for a request, told from the readings of the scanner. -/
def deed (session : Session) : Request → Deed
  | .read =>
    let (reading, scanner) := session.scanner.read
    ⟨[reading], .outcome reading.outcome, { session with scanner }⟩
  | .next =>
    match session.scanner.next? with
    | none => ⟨[], .item none, session⟩
    | some (reading, scanner) =>
      ⟨[reading], .item (some reading.outcome), { session with scanner }⟩
  | .scan =>
    let (readings, scanner) := session.scanner.scan
    ⟨readings, .tokens (gather readings), { session with scanner }⟩
  | .collect =>
    let (readings, scanner) := session.scanner.drain
    ⟨readings, .tokens (gather readings), { session with scanner }⟩
  | .take count =>
    let (readings, scanner) := session.scanner.take count
    ⟨readings, .items (readings.map Reading.outcome), { session with scanner }⟩
  | .observe => ⟨[], .done, session⟩
  | .save => ⟨[], .done, { session with saved := session.scanner }⟩
  | .restore => ⟨[], .done, { session with scanner := session.saved }⟩

/-- **A request leaves the records of its readings**, whatever journal is kept, and the spans that were
open are open again. -/
theorem serve_eq (session : Session) (journal : Journal) (request : Request) :
    session.serve journal request =
      ((session.deed request).reply, (session.deed request).session,
        journal.keep (request.records journal.spans.head? session.scanner.source
          (session.deed request).readings)) := by
  cases request with
  | read =>
    rw [serve, Scanner.nextToken_eq_read]
    rfl
  | next =>
    rw [serve, Scanner.nextItem?_eq_map, deed]
    cases session.scanner.next? with
    | none => rfl
    | some delivered => rfl
  | scan =>
    rw [serve, Scanner.scanAll_eq]
    rfl
  | collect =>
    rw [serve, Scanner.collectItems_eq]
    rfl
  | take count =>
    rw [serve, Scanner.takeItems_eq]
    rfl
  | observe => rfl
  | save => rfl
  | restore => rfl

/-- An answer has the records that are weighty enough, and the page is turned before the next. -/
theorem answerIn_eq (session : Session) (journal : Journal) (request : Request) :
    session.answerIn journal request =
      (⟨(session.deed request).reply,
        Record.visible journal.level (request.records journal.spans.head? session.scanner.source
          (session.deed request).readings),
        (session.deed request).session⟩,
      journal.turn.keep (request.records journal.spans.head? session.scanner.source
        (session.deed request).readings)) := by
  rw [answerIn, serve_eq]
  dsimp only
  rw [Journal.records_keep_turn]
  rfl

/-- **An answer tells what is done for its request.** -/
theorem answer_eq (session : Session) (request : Request) :
    session.answer request =
      ⟨(session.deed request).reply,
        request.records none session.scanner.source (session.deed request).readings,
        (session.deed request).session⟩ := by
  rw [answer, answerIn_eq]
  dsimp only [Journal.start]
  rw [Record.visible_trace]
  rfl

/-- What was on the page before does not matter. -/
theorem runIn_turn (session : Session) (journal : Journal) (requests : List Request) :
    session.runIn journal.turn requests = session.runIn journal requests := by
  cases requests with
  | nil => rfl
  | cons request requests => rfl

/-- **Every request finds the journal as the first did**, but for the page. -/
theorem runIn_cons (session : Session) (journal : Journal) (request : Request)
    (requests : List Request) :
    session.runIn journal (request :: requests) =
      (session.answerIn journal request).1 ::
        (session.answer request).session.runIn journal requests := by
  rw [runIn, answer_eq, answerIn_eq]
  dsimp only
  rw [← runIn_turn, ← runIn_turn _ journal]
  rfl

theorem run_cons (session : Session) (request : Request) (requests : List Request) :
    session.run (request :: requests) =
      session.answer request :: (session.answer request).session.run requests :=
  session.runIn_cons (.start .trace) request requests

/-- **A journal that keeps less shows the same with fewer records.** -/
theorem runIn_eq_map (session : Session) (severity : Severity) (requests : List Request) :
    session.runIn (.start severity) requests =
      (session.run requests).map (Answer.seenAt severity) := by
  induction requests generalizing session with
  | nil => rfl
  | cons request requests ih =>
    rw [runIn_cons, run_cons, List.map_cons, ih, answerIn_eq, answer_eq]
    rfl

end Session

end CurlyLex
