import CurlyLex.Record

/-!
# Journals

A journal is the trace that is being kept.  It knows which spans are open, so an event need not know
where it lies, and it keeps only what is weighty enough.  A span that is not weighty enough is not
opened.

* `Journal.start` — a journal for events of a given severity and above.
* `Journal.note` — note an event where the work stands.
* `Journal.enter`, `Journal.leave` — open a span and close it again.
* `Journal.turn` — a fresh page, while the open spans stay open.
-/

namespace CurlyLex

/-- A trace that is being kept. -/
structure Journal where
  /-- The least severity that is kept. -/
  level : Severity
  /-- The spans that are open, the innermost first. -/
  spans : List String
  /-- The records of this page, the latest first. -/
  latest : List Record
deriving DecidableEq

namespace Journal

/-- A journal in which nothing has been noted. -/
def start (level : Severity) : Journal := ⟨level, [], []⟩

/-- Is an event weighty enough? -/
def admits (journal : Journal) (event : Event) : Bool :=
  decide (journal.level.rank ≤ event.severity.rank)

/-- Note an event in the innermost of the open spans. -/
def note (journal : Journal) (event : Event) : Journal :=
  if journal.admits event then
    { journal with latest := ⟨event, journal.spans.head?⟩ :: journal.latest }
  else journal

/-- Open a span, with an event that names it. -/
def enter (journal : Journal) (event : Event) : Journal :=
  if journal.admits event then
    { journal.note event with spans := event.title :: journal.spans }
  else journal

/-- Close the span that an event has opened. -/
def leave (journal : Journal) (event : Event) : Journal :=
  if journal.admits event then { journal with spans := journal.spans.tail } else journal

/-- Go on with a fresh page. -/
def turn (journal : Journal) : Journal := { journal with latest := [] }

/-- The records of this page, in order. -/
def records (journal : Journal) : List Record := journal.latest.reverse

end Journal

end CurlyLex
