import CurlyLex.Scanner

/-!
# Sessions

A session answers requests with one scanner, and remembers one copy of it to which it can return.
Every answer carries the reply, what the work for it has left in the journal, and the session to go on
with.

* `Request`, `Reply` — what can be asked, and what comes back.
* `Session` — the scanner in use and the remembered one.
* `Session.serve`, `Session.answerIn` — one request, with a journal.
* `Session.runIn` — requests one after another, with one journal for all of them.
* `Session.answer`, `Session.run` — the same with a journal that keeps everything.
-/

namespace CurlyLex

/-- What a session can be asked to do. -/
inductive Request where
  /-- Take one reading. -/
  | read
  /-- Take the next reading of the stream. -/
  | next
  /-- Scan to the end. -/
  | scan
  /-- Take the rest of the stream. -/
  | collect
  /-- Take at most so many readings of the stream. -/
  | take (count : Nat)
  /-- Do nothing. -/
  | observe
  /-- Remember the scanner as it is. -/
  | save
  /-- Return to the remembered scanner. -/
  | restore
deriving DecidableEq

/-- What a session replies. -/
inductive Reply where
  /-- The request has no reply. -/
  | done
  /-- The outcome of one reading. -/
  | outcome (outcome : Except LexicalError Token)
  /-- An item of the stream, or nothing when it is finished. -/
  | item (item : Option (Except LexicalError Token))
  /-- All tokens, or an error in their place. -/
  | tokens (tokens : Except LexicalError (List Token))
  /-- Some items of the stream. -/
  | items (items : List (Except LexicalError Token))

/-- A scanner, and a copy of it from earlier. -/
structure Session where
  /-- The scanner in use. -/
  scanner : Scanner
  /-- The scanner to return to. -/
  saved : Scanner

/-- A reply, the trace of the work, and the session to go on with. -/
structure Answer where
  reply : Reply
  records : List Record
  session : Session

namespace Session

/-- A session with a fresh scanner, which is also the remembered one. -/
def ofSource (source : String) (keywords : Keywords) : Session :=
  let scanner := Scanner.ofSource source keywords
  ⟨scanner, scanner⟩

/-- Do what a request asks for: a reply, the session to go on with, and the journal. -/
def serve (session : Session) (journal : Journal) : Request → Reply × Session × Journal
  | .read =>
    let (outcome, scanner, kept) := session.scanner.nextToken journal
    (.outcome outcome, { session with scanner }, kept)
  | .next =>
    match session.scanner.nextItem? journal with
    | none => (.item none, session, journal)
    | some (item, scanner, kept) => (.item (some item), { session with scanner }, kept)
  | .scan =>
    let (tokens, scanner, kept) := session.scanner.scanAll journal
    (.tokens tokens, { session with scanner }, kept)
  | .collect =>
    let (tokens, scanner, kept) := session.scanner.collectItems journal
    (.tokens tokens, { session with scanner }, kept)
  | .take count =>
    let (items, scanner, kept) := session.scanner.takeItems count journal
    (.items items, { session with scanner }, kept)
  | .observe => (.done, session, journal)
  | .save => (.done, { session with saved := session.scanner }, journal)
  | .restore => (.done, { session with scanner := session.saved }, journal)

/-- Answer a request on a fresh page of a journal, and leave the journal. -/
def answerIn (session : Session) (journal : Journal) (request : Request) : Answer × Journal :=
  let (reply, later, kept) := session.serve journal.turn request
  (⟨reply, kept.records, later⟩, kept)

/-- The answers to requests, each asked of the session that the one before it left, with one journal
for all of them. -/
def runIn (session : Session) (journal : Journal) : List Request → List Answer
  | [] => []
  | request :: requests =>
    let (answer, kept) := session.answerIn journal request
    answer :: answer.session.runIn kept requests

/-- The answer to a request, with all that is noted. -/
def answer (session : Session) (request : Request) : Answer :=
  (session.answerIn (.start .trace) request).1

/-- The answers to requests one after another, with all that is noted. -/
def run (session : Session) (requests : List Request) : List Answer :=
  session.runIn (.start .trace) requests

end Session

end CurlyLex
