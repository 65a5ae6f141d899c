import CurlyLex.Journal

/-!
# What a journal keeps

A journal keeps the records that are weighty enough, in the order in which they are made.  A span that is
opened and closed again leaves the open spans as they were.

* `Journal.keep` — a journal with some records more.
* `Journal.note_eq_keep`, `Journal.leave_keep_enter` — events are kept as records, and so is what lies in
  a span.
* `Journal.records_keep_turn` — on a fresh page there is just what is weighty enough of them.
* `Record.visible_trace`, `Record.visible_debug`, `Record.visible_info` — what that is at each severity.
-/

namespace CurlyLex

/-! ### What is weighty enough -/

/-- Is this the event of a token? -/
def Record.tellsToken (record : Record) : Bool :=
  record.title == "token"

namespace Record

/-- The records that are at least as weighty as a given severity. -/
def visible (severity : Severity) (records : List Record) : List Record :=
  records.filter fun record => decide (severity.rank ≤ record.severity.rank)

theorem visible_append (severity : Severity) (first second : List Record) :
    visible severity (first ++ second) = visible severity first ++ visible severity second :=
  List.filter_append ..

/-- A record is for tracing when it tells a token, and for debugging otherwise. -/
theorem severity_eq (record : Record) :
    record.severity = if record.tellsToken then .trace else .debug := by
  obtain ⟨event, enclosing⟩ := record
  cases event <;> rfl

/-- Everything is weighty enough at the lowest severity. -/
theorem visible_trace (records : List Record) : visible .trace records = records := by
  rw [visible, List.filter_eq_self]
  intro record _
  exact decide_eq_true (Nat.zero_le _)

/-- At the next one, everything but the tokens. -/
theorem visible_debug (records : List Record) :
    visible .debug records = records.filter fun record => !record.tellsToken := by
  rw [visible]
  apply List.filter_congr
  intro record _
  rw [severity_eq]
  cases record.tellsToken <;> rfl

/-- At the highest one, nothing. -/
theorem visible_info (records : List Record) : visible .info records = [] := by
  rw [visible, List.filter_eq_nil_iff]
  intro record _
  rw [severity_eq]
  cases record.tellsToken <;> decide

end Record

namespace Journal

variable (journal : Journal)

/-! ### Keeping records -/

/-- A journal with some records more, of which it keeps those that are weighty enough. -/
def keep (records : List Record) : Journal :=
  { journal with latest := (Record.visible journal.level records).reverse ++ journal.latest }

@[simp]
theorem spans_keep (records : List Record) : (journal.keep records).spans = journal.spans := rfl

theorem keep_keep (first second : List Record) :
    (journal.keep first).keep second = journal.keep (first ++ second) := by
  simp only [keep, Record.visible_append, List.reverse_append, List.append_assoc]

/-- What a journal admits is what it keeps. -/
theorem visible_cons (event : Event) (span : Option String) (records : List Record) :
    Record.visible journal.level (⟨event, span⟩ :: records) =
      if journal.admits event then ⟨event, span⟩ :: Record.visible journal.level records
      else Record.visible journal.level records :=
  List.filter_cons

/-- **An event is kept as a record** in the innermost of the open spans. -/
theorem note_eq_keep (event : Event) :
    journal.note event = journal.keep [⟨event, journal.spans.head?⟩] := by
  rw [note, keep, visible_cons]
  split <;> rfl

/-- **What is kept while a span is open comes behind its record**, and then the same spans are open as
before. -/
theorem leave_keep_enter (event : Event) (records : List Record) :
    ((journal.enter event).keep records).leave event =
      journal.keep (⟨event, journal.spans.head?⟩ :: records) := by
  rw [enter, keep, keep, visible_cons]
  by_cases hadmits : journal.admits event
  · have hlater : ∀ spans latest, Journal.admits ⟨journal.level, spans, latest⟩ event = true :=
      fun _ _ => hadmits
    rw [if_pos hadmits, if_pos hadmits, note, if_pos hadmits, leave, if_pos (hlater _ _),
      List.reverse_cons, List.append_assoc]
    rfl
  · have hlater : ∀ spans latest, ¬ Journal.admits ⟨journal.level, spans, latest⟩ event = true :=
      fun _ _ => hadmits
    rw [if_neg hadmits, if_neg hadmits, leave, if_neg (hlater _ _)]

/-- On a fresh page there is what is weighty enough of the records that are kept. -/
theorem records_keep_turn (records : List Record) :
    (journal.turn.keep records).records = Record.visible journal.level records := by
  rw [Journal.records, keep, turn, List.append_nil, List.reverse_reverse]

/-- Where a scan opens no span, nothing is weighty enough. -/
theorem visible_eq_nil {bytes : Nat} (h : journal.admits (.scanOpened bytes) = false)
    (records : List Record) : Record.visible journal.level records = [] := by
  have hlevel : journal.level = .info := by
    rw [admits] at h
    cases hlevel : journal.level with
    | info => rfl
    | _ => simp [hlevel, Severity.rank, Event.severity] at h
  rw [hlevel, Record.visible_info]

/-- So what lies in the span of a scan is kept with the name of the span, or is not kept at all. -/
theorem keep_inside (bytes : Nat) (records : Option String → List Record) :
    journal.keep (records (journal.enter (.scanOpened bytes)).spans.head?) =
      journal.keep (records (some "scan_all")) := by
  cases hadmits : journal.admits (.scanOpened bytes) with
  | true =>
    rw [enter, if_pos hadmits]
    rfl
  | false => simp only [keep, visible_eq_nil journal hadmits]

end Journal

end CurlyLex
