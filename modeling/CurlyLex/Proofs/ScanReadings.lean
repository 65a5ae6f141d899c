import CurlyLex.Proofs.JournalKeeping
import CurlyLex.Scan

/-!
# The readings of a scan

A scan takes one reading after another, and ends with the first that is an error or a final token.  Its
readings tell all that comes of it: the tokens or the error that it returns, where it leaves the cursor,
and what has been noted when it is done.

* `Cursor.readings` — the readings of a scan, in order; `Cursor.readings_eq` — the first of them, and
  the scan that starts behind it.
* `gather` — the tokens of some readings, or the first error among them.
* `Cursor.past` — where a cursor stands after some readings.
* `Work.on_takeAll` — what comes of taking tokens up to a final one, told from the readings.
* `scanRecords`, `Work.on_scanAll` — and what comes of a scan.
* `tokenize_eq` — so the tokens of a source are those of its readings.
-/

namespace CurlyLex

namespace Cursor

/-- The readings of a scan, in order. -/
def readings (keywords : Keywords) (cursor : Cursor) : List Reading :=
  let reading := cursor.read keywords
  if reading.isLast then [reading] else reading :: readings keywords reading.cursor
termination_by cursor.rest.length
decreasing_by
  rename_i more
  exact cursor.rest_read_lt keywords (by simpa using more)

/-- Where a cursor stands after some readings. -/
def past (cursor : Cursor) (readings : List Reading) : Cursor :=
  readings.foldl (fun _ reading => reading.cursor) cursor

end Cursor

/-- The tokens of some readings, or the first error among them. -/
def gather (readings : List Reading) : Except LexicalError (List Token) :=
  readings.mapM Reading.outcome

/-- Tokens are gathered from left to right, up to the first error. -/
theorem gather_cons (reading : Reading) (readings : List Reading) :
    gather (reading :: readings) =
      match reading.outcome with
      | .error error => .error error
      | .ok token => (gather readings).map (token :: ·) := by
  rw [gather, List.mapM_cons]
  cases reading.outcome with
  | error error => rfl
  | ok token =>
    rw [gather]
    cases readings.mapM Reading.outcome with
    | error error => rfl
    | ok tokens => rfl

/-- When nothing was taken before, there is what is gathered later. -/
theorem map_reverse_nil (later : Except LexicalError (List Token)) :
    later.map (([] : List Token).reverse ++ ·) = later := by
  cases later with
  | error error => rfl
  | ok tokens => rfl

/-- A token comes behind what was taken before, or in front of what is gathered later. -/
theorem map_reverse_cons (token : Token) (earlier : List Token)
    (later : Except LexicalError (List Token)) :
    later.map ((token :: earlier).reverse ++ ·) =
      (later.map (token :: ·)).map (earlier.reverse ++ ·) := by
  cases later with
  | error error => rfl
  | ok tokens => simp [Except.map]

/-- A scan is one reading, and unless that is the last, the scan that starts after it. -/
theorem Cursor.readings_eq (keywords : Keywords) (cursor : Cursor) :
    cursor.readings keywords =
      if (cursor.read keywords).isLast then [cursor.read keywords]
      else cursor.read keywords :: (cursor.read keywords).cursor.readings keywords := by
  rw [readings]

/-! ### What has been noted -/

/-- The record of a reading that lies in a span, or in none. -/
def Reading.record (span : Option String) (reading : Reading) : Record :=
  ⟨reading.event, span⟩

/-- The records of a scan of a source, outside of which a span may be open: the one that opens its own
span, one for each reading, and the number of tokens if there was no error. -/
def scanRecords (span : Option String) (source : String) (readings : List Reading) : List Record :=
  let close :=
    match gather readings with
    | .ok tokens => [⟨.scanComplete tokens.length, some "scan_all"⟩]
    | .error _ => []
  ⟨.scanOpened source.utf8ByteSize, span⟩ ::
    (readings.map (Reading.record (some "scan_all")) ++ close)

namespace Work

/-- **Taking tokens up to a final one** takes the readings of a scan, and keeps a record of each. -/
theorem takeAllAfter_eq_gather (keywords : Keywords) (cursor : Cursor) (journal : Journal)
    (earlier : List Token) :
    takeAllAfter keywords ⟨cursor, journal⟩ earlier =
      ((gather (cursor.readings keywords)).map (earlier.reverse ++ ·),
        ⟨cursor.past (cursor.readings keywords),
          journal.keep ((cursor.readings keywords).map (Reading.record journal.spans.head?))⟩) := by
  -- on what is left to be read
  induction hlen : cursor.rest.length using Nat.strongRecOn generalizing cursor journal earlier with
  | _ n ih =>
    subst hlen
    have hless := cursor.rest_read_lt keywords
    rw [takeAllAfter_eq, on_nextToken, Reading.noted, Cursor.readings_eq, Journal.note_eq_keep]
    generalize cursor.read keywords = reading at hless ⊢
    obtain ⟨outcome, later⟩ := reading
    cases outcome with
    | error error => rfl
    | ok token =>
      have hlast : Reading.isLast ⟨.ok token, later⟩ = token.isFinal := rfl
      dsimp only
      rw [hlast]
      cases hfinal : token.isFinal with
      | true =>
        rw [if_pos rfl, if_pos rfl, List.reverse_cons]
        rfl
      | false =>
        rw [if_neg (by simp), if_neg (by simp), ih _ (hless (hlast.trans hfinal)) later _ _ rfl,
          gather_cons, List.map_cons, Journal.keep_keep]
        exact Prod.ext (map_reverse_cons token earlier _) rfl

theorem on_takeAll_eq (keywords : Keywords) (cursor : Cursor) (journal : Journal) :
    (takeAll keywords).on ⟨cursor, journal⟩ =
      (gather (cursor.readings keywords),
        ⟨cursor.past (cursor.readings keywords),
          journal.keep ((cursor.readings keywords).map (Reading.record journal.spans.head?))⟩) := by
  rw [on_takeAll, takeAllAfter_eq_gather, map_reverse_nil]

/-- **A scan takes its readings and keeps their records in its span**, and the number of tokens behind
them unless one of them is an error.  Then the same spans are open as before. -/
theorem on_scanAll (keywords : Keywords) (source : String) (cursor : Cursor) (journal : Journal) :
    (scanAll keywords source).on ⟨cursor, journal⟩ =
      (gather (cursor.readings keywords),
        ⟨cursor.past (cursor.readings keywords),
          journal.keep (scanRecords journal.spans.head? source (cursor.readings keywords))⟩) := by
  rw [scanAll, on_inside, on_bind, on_takeAll_eq, scanRecords]
  -- the span is closed with or without an error
  cases gather (cursor.readings keywords) with
  | error error =>
    dsimp only
    rw [Journal.leave_keep_enter, List.append_nil]
    refine Prod.ext rfl (congrArg (Desk.mk _) ?_)
    exact journal.keep_inside _ fun span => ⟨.scanOpened source.utf8ByteSize, journal.spans.head?⟩ ::
      (cursor.readings keywords).map (Reading.record span)
  | ok tokens =>
    simp only [on_bind, on_note, on_pure]
    rw [Journal.note_eq_keep, Journal.keep_keep, Journal.spans_keep, Journal.leave_keep_enter]
    refine Prod.ext rfl (congrArg (Desk.mk _) ?_)
    exact journal.keep_inside _ fun span => ⟨.scanOpened source.utf8ByteSize, journal.spans.head?⟩ ::
      ((cursor.readings keywords).map (Reading.record span) ++
        [⟨.scanComplete tokens.length, span⟩])

end Work

/-- **The tokens of a source are those of its readings**, up to the first error. -/
theorem tokenize_eq (source : String) :
    tokenize source = gather ((Cursor.ofText source.toList).readings .reserved) := by
  rw [tokenize, Work.on_scanAll]

end CurlyLex
