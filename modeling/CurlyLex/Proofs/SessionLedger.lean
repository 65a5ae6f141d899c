import CurlyLex.Proofs.ReadingSequence

/-!
# Sessions lose no reading

A fresh scanner has one sequence of readings, and a session takes its readings from it, whichever way
it is asked for them.  A ledger keeps the two numbers and the two flags that matter: how many readings
the scanner in use has behind it and whether its stream is finished, and the same of the remembered
scanner.  From the ledger and the sequence alone one can tell the reply to every request, the
readings that are taken for it, and the ledger to go on with.

* `Place`, `Ledger` — the entries, with the scanner and the session that they stand for.
* `Ledger.Serves` — what is taken and replied for a request, and the next ledger.
* `Scanner.Proceeds.eq_place` — what proceeds from a place takes the stretch from there on.
* `Ledger.Answers`, `Ledger.exists_answers` — a session answers a request as its ledger says.
* `Ledger.Accounts`, `Session.accounts_run` — so it does for requests one after another.
-/

namespace CurlyLex

/-! ### Ledgers -/

/-- How far a scanner has come: how many readings it has taken, and whether its stream is finished. -/
structure Place where
  /-- How many readings lie behind. -/
  taken : Nat
  /-- Has the stream delivered its last reading? -/
  finished : Bool

/-- The scanner that has come so far from a fresh one. -/
def Place.scanner (fresh : Scanner) (place : Place) : Scanner :=
  { fresh.afterReads place.taken with finished := place.finished }

/-- How far the scanners of a session have come. -/
structure Ledger where
  /-- The place of the scanner in use. -/
  current : Place
  /-- The place of the remembered scanner. -/
  saved : Place

namespace Ledger

/-- The session that a ledger is kept of. -/
def session (fresh : Scanner) (ledger : Ledger) : Session :=
  ⟨ledger.current.scanner fresh, ledger.saved.scanner fresh⟩

/-- The ledger of a session that has not been asked for anything. -/
def start : Ledger := ⟨⟨0, false⟩, ⟨0, false⟩⟩

/-- `Serves sequence ledger request readings reply next`: with a sequence of readings and a ledger, a
request takes `readings`, is replied `reply`, and leaves the ledger `next`.

Whatever is taken is the stretch from the place of the scanner on, and the place moves on by as much.
A scan and an unfinished stream that is collected take a block, up to the first error or end of the
input, and deliver its tokens or its error.  Of an unfinished stream no more is taken than was asked
for, and when less is taken it is a block.  A finished stream takes and delivers nothing.  Only
items of the stream finish it. -/
inductive Serves (sequence : Nat → Reading) :
    Ledger → Request → List Reading → Reply → Ledger → Prop
  | read {n : Nat} {finished : Bool} {saved : Place} :
      Serves sequence ⟨⟨n, finished⟩, saved⟩ .read [sequence n] (.outcome (sequence n).outcome)
        ⟨⟨n + 1, finished⟩, saved⟩
  | next {n : Nat} {saved : Place} :
      Serves sequence ⟨⟨n, false⟩, saved⟩ .next [sequence n] (.item (some (sequence n).outcome))
        ⟨⟨n + 1, (sequence n).isLast⟩, saved⟩
  | next_finished {n : Nat} {saved : Place} :
      Serves sequence ⟨⟨n, true⟩, saved⟩ .next [] (.item none) ⟨⟨n, true⟩, saved⟩
  | scan {n count : Nat} {finished : Bool} {saved : Place}
      {result : Except LexicalError (List Token)} :
      Block sequence n count → Delivers (stretch sequence n count) result →
      Serves sequence ⟨⟨n, finished⟩, saved⟩ .scan (stretch sequence n count) (.tokens result)
        ⟨⟨n + count, finished⟩, saved⟩
  | collect {n count : Nat} {saved : Place} {result : Except LexicalError (List Token)} :
      Block sequence n count → Delivers (stretch sequence n count) result →
      Serves sequence ⟨⟨n, false⟩, saved⟩ .collect (stretch sequence n count) (.tokens result)
        ⟨⟨n + count, true⟩, saved⟩
  | collect_finished {n : Nat} {saved : Place} :
      Serves sequence ⟨⟨n, true⟩, saved⟩ .collect [] (.tokens (.ok [])) ⟨⟨n, true⟩, saved⟩
  | take {n count most : Nat} {saved : Place} :
      count ≤ most → (∀ i, i + 1 < count → (sequence (n + i)).isLast = false) →
      (count < most → Block sequence n count) →
      Serves sequence ⟨⟨n, false⟩, saved⟩ (.take most) (stretch sequence n count)
        (.items ((stretch sequence n count).map Reading.outcome))
        ⟨⟨n + count, (stretch sequence n count).any Reading.isLast⟩, saved⟩
  | take_finished {n most : Nat} {saved : Place} :
      Serves sequence ⟨⟨n, true⟩, saved⟩ (.take most) [] (.items []) ⟨⟨n, true⟩, saved⟩
  | observe {ledger : Ledger} : Serves sequence ledger .observe [] .done ledger
  | save {current saved : Place} :
      Serves sequence ⟨current, saved⟩ .save [] .done ⟨current, current⟩
  | restore {current saved : Place} :
      Serves sequence ⟨current, saved⟩ .restore [] .done ⟨saved, saved⟩

end Ledger

/-! ### Scanners at their places -/

/-- **What proceeds from a place takes the stretch from there on**, and comes as much further. -/
theorem Scanner.Proceeds.eq_place {fresh later : Scanner} {place : Place} {readings : List Reading}
    (h : (place.scanner fresh).Proceeds readings later) :
    readings = stretch fresh.nthRead place.taken readings.length ∧
      later = Place.scanner fresh ⟨place.taken + readings.length, later.finished⟩ ∧
      ∀ i, i + 1 < readings.length → (fresh.nthRead (place.taken + i)).isLast = false := by
  have hkeywords : (place.scanner fresh).keywords = fresh.keywords :=
    fresh.keywords_afterReads place.taken
  obtain ⟨hreadings, hcursor, hmore⟩ := h.eq_stretch fresh place.taken rfl hkeywords
  refine ⟨hreadings, ?_, hmore⟩
  have hsource : later.source = fresh.source :=
    h.source.trans (fresh.source_afterReads place.taken)
  obtain ⟨source, keywords, cursor, finished⟩ := later
  rw [Place.scanner, fresh.source_afterReads, fresh.keywords_afterReads]
  obtain rfl : source = fresh.source := hsource
  obtain rfl : keywords = fresh.keywords := h.keywords.trans hkeywords
  obtain rfl : cursor = _ := hcursor
  rfl

namespace Scanner

/-- A stream is finished once its last item has been taken. -/
theorem finished_take (scanner : Scanner) (h : scanner.finished = false) (n : Nat) :
    (scanner.take n).2.finished = (scanner.take n).1.any Reading.isLast := by
  induction n generalizing scanner with
  | zero => exact h
  | succ n ih =>
    simp only [take_succ, next?_of_unfinished h, List.any_cons]
    cases hlast : (scanner.cursor.read scanner.keywords).isLast with
    | true => rw [take_of_finished rfl, Bool.true_or]
    | false =>
      rw [Bool.false_or]
      exact ih _ rfl

/-- When fewer items are taken than were asked for, they are those of a scan. -/
theorem take_eq_scan {scanner : Scanner} (h : scanner.finished = false) {n : Nat}
    (hfew : (scanner.take n).1.length < n) : (scanner.take n).1 = scanner.scan.1 := by
  rw [take_eq_take_drain, drain_of_unfinished scanner h] at hfew ⊢
  rw [List.length_take] at hfew
  exact List.take_of_length_le (by omega)

end Scanner

namespace Place

variable (fresh : Scanner) (place : Place)

/-- **A scan takes the block that begins at its place**, and leaves the flag of the stream. -/
theorem exists_scan : ∃ count, Block fresh.nthRead place.taken count ∧
    (place.scanner fresh).scan = (stretch fresh.nthRead place.taken count,
      Place.scanner fresh ⟨place.taken + count, place.finished⟩) := by
  obtain ⟨hreadings, hlater, -⟩ := (place.scanner fresh).proceeds_scan.eq_place
  have hblock := (place.scanner fresh).block_scan fresh place.taken rfl
    (fresh.keywords_afterReads place.taken)
  exact ⟨_, hblock, Prod.ext hreadings hlater⟩

/-- What is left of an unfinished stream is that block as well, and then the stream is finished. -/
theorem exists_drain (h : place.finished = false) :
    ∃ count, Block fresh.nthRead place.taken count ∧
      (place.scanner fresh).drain = (stretch fresh.nthRead place.taken count,
        Place.scanner fresh ⟨place.taken + count, true⟩) := by
  obtain ⟨count, hblock, hscan⟩ := place.exists_scan fresh
  refine ⟨count, hblock, ?_⟩
  rw [Scanner.drain_of_unfinished _ h, hscan]
  rfl

/-- **Of an unfinished stream no more is taken than was asked for**, nothing behind its last item,
and when less is taken its last item is there. -/
theorem exists_take (h : place.finished = false) (most : Nat) :
    ∃ count, count ≤ most ∧
      (∀ i, i + 1 < count → (fresh.nthRead (place.taken + i)).isLast = false) ∧
      (count < most → Block fresh.nthRead place.taken count) ∧
      (place.scanner fresh).take most = (stretch fresh.nthRead place.taken count,
        Place.scanner fresh ⟨place.taken + count,
          (stretch fresh.nthRead place.taken count).any Reading.isLast⟩) := by
  obtain ⟨hreadings, hlater, hmore⟩ := ((place.scanner fresh).proceeds_take most).eq_place
  have hfinished := (place.scanner fresh).finished_take h most
  refine ⟨((place.scanner fresh).take most).1.length, ?_, hmore, ?_, Prod.ext hreadings ?_⟩
  · rw [Scanner.take_eq_take_drain]
    exact List.length_take_le most _
  · intro hfew
    rw [Scanner.take_eq_scan h hfew]
    exact (place.scanner fresh).block_scan fresh place.taken rfl (fresh.keywords_afterReads _)
  · rw [← hreadings, ← hfinished]
    exact hlater

end Place

/-! ### Answers -/

namespace Ledger

/-- What the session does for a request is what the ledger says: readings are taken, each of which
leaves one record, there is a reply, and the session goes on with the next ledger. -/
structure Answers (fresh : Scanner) (ledger : Ledger) (request : Request) (readings : List Reading)
    (answer : Answer) (next : Ledger) : Prop where
  serves : ledger.Serves fresh.nthRead request readings answer.reply next
  records : answer.records = request.records none fresh.source readings
  session : answer.session = next.session fresh

/-- What is done for a request is what the ledger says. -/
structure Enters (fresh : Scanner) (ledger : Ledger) (request : Request) (deed : Deed)
    (next : Ledger) : Prop where
  serves : ledger.Serves fresh.nthRead request deed.readings deed.reply next
  session : deed.session = next.session fresh

section

variable (fresh : Scanner) (n : Nat) (saved : Place)

theorem exists_enters_next (finished : Bool) :
    ∃ next, Enters fresh ⟨⟨n, finished⟩, saved⟩ .next
      ((session fresh ⟨⟨n, finished⟩, saved⟩).deed .next) next := by
  cases finished with
  | true =>
    have hnext : (Place.scanner fresh ⟨n, true⟩).next? = none := Scanner.next?_of_finished rfl
    have hdeed : (session fresh ⟨⟨n, true⟩, saved⟩).deed .next =
        ⟨[], .item none, session fresh ⟨⟨n, true⟩, saved⟩⟩ := by
      simp only [Session.deed, session, hnext]
    rw [hdeed]
    exact ⟨_, .next_finished, rfl⟩
  | false =>
    have hnext : (Place.scanner fresh ⟨n, false⟩).next? = some (fresh.nthRead n,
        Place.scanner fresh ⟨n + 1, (fresh.nthRead n).isLast⟩) :=
      Scanner.next?_of_unfinished rfl
    have hdeed : (session fresh ⟨⟨n, false⟩, saved⟩).deed .next =
        ⟨[fresh.nthRead n], .item (some (fresh.nthRead n).outcome),
          session fresh ⟨⟨n + 1, (fresh.nthRead n).isLast⟩, saved⟩⟩ := by
      simp only [Session.deed, session, hnext]
    rw [hdeed]
    exact ⟨_, .next, rfl⟩

theorem exists_enters_scan (finished : Bool) :
    ∃ next, Enters fresh ⟨⟨n, finished⟩, saved⟩ .scan
      ((session fresh ⟨⟨n, finished⟩, saved⟩).deed .scan) next := by
  obtain ⟨count, hblock, hscan⟩ := Place.exists_scan fresh ⟨n, finished⟩
  have hdeed : (session fresh ⟨⟨n, finished⟩, saved⟩).deed .scan =
      ⟨stretch fresh.nthRead n count, .tokens (gather (stretch fresh.nthRead n count)),
        session fresh ⟨⟨n + count, finished⟩, saved⟩⟩ := by
    simp only [Session.deed, session, hscan]
  rw [hdeed]
  exact ⟨_, .scan hblock (delivers_gather hblock), rfl⟩

theorem exists_enters_collect (finished : Bool) :
    ∃ next, Enters fresh ⟨⟨n, finished⟩, saved⟩ .collect
      ((session fresh ⟨⟨n, finished⟩, saved⟩).deed .collect) next := by
  cases finished with
  | true =>
    have hdrain : (Place.scanner fresh ⟨n, true⟩).drain = ([], Place.scanner fresh ⟨n, true⟩) :=
      Scanner.drain_of_finished rfl
    have hdeed : (session fresh ⟨⟨n, true⟩, saved⟩).deed .collect =
        ⟨[], .tokens (.ok []), session fresh ⟨⟨n, true⟩, saved⟩⟩ := by
      simp only [Session.deed, session, hdrain]
      rfl
    rw [hdeed]
    exact ⟨_, .collect_finished, rfl⟩
  | false =>
    obtain ⟨count, hblock, hdrain⟩ := Place.exists_drain fresh ⟨n, false⟩ rfl
    have hdeed : (session fresh ⟨⟨n, false⟩, saved⟩).deed .collect =
        ⟨stretch fresh.nthRead n count, .tokens (gather (stretch fresh.nthRead n count)),
          session fresh ⟨⟨n + count, true⟩, saved⟩⟩ := by
      simp only [Session.deed, session, hdrain]
    rw [hdeed]
    exact ⟨_, .collect hblock (delivers_gather hblock), rfl⟩

theorem exists_enters_take (finished : Bool) (most : Nat) :
    ∃ next, Enters fresh ⟨⟨n, finished⟩, saved⟩ (.take most)
      ((session fresh ⟨⟨n, finished⟩, saved⟩).deed (.take most)) next := by
  cases finished with
  | true =>
    have htake : (Place.scanner fresh ⟨n, true⟩).take most = ([], Place.scanner fresh ⟨n, true⟩) :=
      Scanner.take_of_finished rfl most
    have hdeed : (session fresh ⟨⟨n, true⟩, saved⟩).deed (.take most) =
        ⟨[], .items [], session fresh ⟨⟨n, true⟩, saved⟩⟩ := by
      simp only [Session.deed, session, htake]
      rfl
    rw [hdeed]
    exact ⟨_, .take_finished, rfl⟩
  | false =>
    obtain ⟨count, hle, hmore, hblock, htake⟩ := Place.exists_take fresh ⟨n, false⟩ rfl most
    have hdeed : (session fresh ⟨⟨n, false⟩, saved⟩).deed (.take most) =
        ⟨stretch fresh.nthRead n count,
          .items ((stretch fresh.nthRead n count).map Reading.outcome),
          session fresh
            ⟨⟨n + count, (stretch fresh.nthRead n count).any Reading.isLast⟩, saved⟩⟩ := by
      simp only [Session.deed, session, htake]
    rw [hdeed]
    exact ⟨_, .take hle hmore hblock, rfl⟩

end

/-- Whatever is done for a request, the ledger has an entry for it. -/
theorem exists_enters (fresh : Scanner) (ledger : Ledger) (request : Request) :
    ∃ next, Enters fresh ledger request ((ledger.session fresh).deed request) next := by
  obtain ⟨⟨n, finished⟩, saved⟩ := ledger
  cases request with
  | read => exact ⟨_, .read, rfl⟩
  | next => exact exists_enters_next fresh n saved finished
  | scan => exact exists_enters_scan fresh n saved finished
  | collect => exact exists_enters_collect fresh n saved finished
  | take most => exact exists_enters_take fresh n saved finished most
  | observe => exact ⟨_, .observe, rfl⟩
  | save => exact ⟨_, .save, rfl⟩
  | restore => exact ⟨_, .restore, rfl⟩

/-- **A session answers every request as its ledger says.** -/
theorem exists_answers (fresh : Scanner) (ledger : Ledger) (request : Request) :
    ∃ readings next, Answers fresh ledger request readings
      ((ledger.session fresh).answer request) next := by
  obtain ⟨next, hserves, hsession⟩ := exists_enters fresh ledger request
  have hsource : (ledger.session fresh).scanner.source = fresh.source :=
    fresh.source_afterReads ledger.current.taken
  rw [Session.answer_eq, hsource]
  exact ⟨_, next, hserves, rfl, hsession⟩

/-- Requests one after another are answered as the ledger says, each with the ledger that the one
before it left. -/
inductive Accounts (fresh : Scanner) : Ledger → List Request → List Answer → Prop
  | nil {ledger : Ledger} : Accounts fresh ledger [] []
  | cons {ledger next : Ledger} {request : Request} {requests : List Request}
      {readings : List Reading} {answer : Answer} {answers : List Answer} :
      Answers fresh ledger request readings answer next → Accounts fresh next requests answers →
      Accounts fresh ledger (request :: requests) (answer :: answers)

theorem accounts_session (fresh : Scanner) (ledger : Ledger) (requests : List Request) :
    Accounts fresh ledger requests ((ledger.session fresh).run requests) := by
  induction requests generalizing ledger with
  | nil => exact .nil
  | cons request requests ih =>
    obtain ⟨readings, next, hanswers⟩ := exists_answers fresh ledger request
    rw [Session.run_cons]
    refine .cons hanswers ?_
    rw [hanswers.session]
    exact ih next

end Ledger

/-- **No reading is lost or taken twice.**  Whatever a session with a fresh scanner is asked for, one
request after another, each answer is that of a ledger: it takes the readings of the fresh scanner
that come next, and leaves the session where the scanner has come as much further. -/
theorem Session.accounts_run (source : String) (keywords : Keywords) (requests : List Request) :
    Ledger.Accounts (.ofSource source keywords) .start requests
      ((Session.ofSource source keywords).run requests) :=
  Ledger.accounts_session (.ofSource source keywords) .start requests

end CurlyLex
