import CurlyLex.Scan

/-!
# Scanners

A scanner reads a source step by step.  It can be asked for single tokens, for a whole scan, and as a
stream: the stream delivers items until one of them is an error or a final token, and is finished from
then on.  Single tokens and scans neither mind nor change whether the stream is finished.

* `Scanner.ofSource` — a scanner before a source, with a keyword table.
* `Scanner.nextToken` — the next token.
* `Scanner.scanAll` — a scan.
* `Scanner.nextItem?` — the next item of the stream, or nothing when it is finished.
* `Scanner.takeItems` — at most so many items of the stream.
* `Scanner.collectItems` — the tokens of the stream, up to its first error.

Every operation is given a journal, and returns what came of it with the scanner and the journal to go
on with.
-/

namespace CurlyLex

/-- Is this the last item of a stream? -/
def endsStream : Except LexicalError Token → Bool
  | .ok token => token.isFinal
  | .error _ => true

/-- A source that is being read. -/
structure Scanner where
  /-- The whole source. -/
  source : String
  /-- The words that are not identifiers. -/
  keywords : Keywords
  /-- Where the next reading starts. -/
  cursor : Cursor
  /-- Has the stream delivered its last item? -/
  finished : Bool

namespace Scanner

variable {α : Type}

/-- A scanner before a source. -/
def ofSource (source : String) (keywords : Keywords) : Scanner :=
  ⟨source, keywords, .ofText source.toList, false⟩

/-- Do work with the cursor of a scanner. -/
def perform (scanner : Scanner) (work : Work α) (journal : Journal) :
    Except LexicalError α × Scanner × Journal :=
  let (outcome, desk) := work.on ⟨scanner.cursor, journal⟩
  (outcome, { scanner with cursor := desk.cursor }, desk.journal)

/-- The next token. -/
def nextToken (scanner : Scanner) (journal : Journal) :
    Except LexicalError Token × Scanner × Journal :=
  scanner.perform (Work.nextToken scanner.keywords) journal

/-- The next token is that of a reading, whose event is noted. -/
theorem nextToken_eq (scanner : Scanner) (journal : Journal) :
    scanner.nextToken journal =
      let reading := scanner.cursor.read scanner.keywords
      (reading.outcome, { scanner with cursor := reading.cursor }, journal.note reading.event) := by
  rw [nextToken, perform, Work.on_nextToken]
  rfl

/-- A scan from where the scanner stands. -/
def scanAll (scanner : Scanner) (journal : Journal) :
    Except LexicalError (List Token) × Scanner × Journal :=
  scanner.perform (Work.scanAll scanner.keywords scanner.source) journal

/-! ### The stream -/

/-- The next item of the stream, or nothing when it is finished. -/
def nextItem? (scanner : Scanner) (journal : Journal) :
    Option (Except LexicalError Token × Scanner × Journal) :=
  if scanner.finished then none
  else
    let (item, later, kept) := scanner.nextToken journal
    some (item, { later with finished := endsStream item }, kept)

/-- An item is the outcome of a reading, whose event is noted, and with the last reading the stream is
finished. -/
theorem nextItem?_eq (scanner : Scanner) (journal : Journal) :
    scanner.nextItem? journal =
      if scanner.finished then none
      else
        let reading := scanner.cursor.read scanner.keywords
        some (reading.outcome,
          { scanner with cursor := reading.cursor, finished := reading.isLast },
          journal.note reading.event) := by
  rw [nextItem?, nextToken_eq]
  rfl

/-- Up to `n` items of the stream, after some earlier ones in reverse order. -/
def takeItemsAfter : Nat → Scanner → Journal → List (Except LexicalError Token) →
    List (Except LexicalError Token) × Scanner × Journal
  | 0, scanner, journal, earlier => (earlier.reverse, scanner, journal)
  | n + 1, scanner, journal, earlier =>
    match scanner.nextItem? journal with
    | none => (earlier.reverse, scanner, journal)
    | some (item, later, kept) => takeItemsAfter n later kept (item :: earlier)

/-- Up to `n` items of the stream. -/
def takeItems (n : Nat) (scanner : Scanner) (journal : Journal) :
    List (Except LexicalError Token) × Scanner × Journal :=
  takeItemsAfter n scanner journal []

/-- A bound on the items that the stream still delivers. -/
def remaining (scanner : Scanner) : Nat :=
  if scanner.finished then 0 else scanner.cursor.rest.length + 1

theorem remaining_lt_of_nextItem? {scanner later : Scanner} {journal kept : Journal}
    {item : Except LexicalError Token}
    (h : scanner.nextItem? journal = some (item, later, kept)) :
    later.remaining < scanner.remaining := by
  rw [nextItem?_eq] at h
  split at h
  · simp at h
  · next hunfinished =>
    cases h
    rw [remaining, remaining, if_neg hunfinished]
    split
    · exact Nat.succ_pos _
    · next hmore =>
      exact Nat.succ_lt_succ (scanner.cursor.rest_read_lt scanner.keywords (Bool.eq_false_iff.2 hmore))

/-- The tokens of the stream, after some earlier ones in reverse order.  Behind its first error nothing
is asked for. -/
def collectItemsAfter (scanner : Scanner) (journal : Journal) (earlier : List Token) :
    Except LexicalError (List Token) × Scanner × Journal :=
  match _step : scanner.nextItem? journal with
  | none => (.ok earlier.reverse, scanner, journal)
  | some (.error error, later, kept) => (.error error, later, kept)
  | some (.ok token, later, kept) => collectItemsAfter later kept (token :: earlier)
termination_by scanner.remaining
decreasing_by exact remaining_lt_of_nextItem? _step

/-- The tokens of the stream, or its first error. -/
def collectItems (scanner : Scanner) (journal : Journal) :
    Except LexicalError (List Token) × Scanner × Journal :=
  scanner.collectItemsAfter journal []

theorem collectItemsAfter_eq (scanner : Scanner) (journal : Journal) (earlier : List Token) :
    scanner.collectItemsAfter journal earlier =
      match scanner.nextItem? journal with
      | none => (.ok earlier.reverse, scanner, journal)
      | some (.error error, later, kept) => (.error error, later, kept)
      | some (.ok token, later, kept) => later.collectItemsAfter kept (token :: earlier) := by
  rw [collectItemsAfter]
  split <;> rename_i step <;> rw [step]

end Scanner

end CurlyLex
