import CurlyLex.LexicalError
import CurlyLex.Token

/-!
# Trace records

A scanner leaves a trace of its work.  It notes each token that it takes and each error that it meets;
a scan opens a span, in which the events of its work lie, and notes how many tokens it found.

* `Severity` — how weighty an event is.
* `Event` — what can be noted, with `severity`, `title` and `fields`.
* `Record` — an event and the span in which it lies.
-/

namespace CurlyLex

/-- How weighty an event is. -/
inductive Severity where
  | trace
  | debug
  | info
deriving DecidableEq

namespace Severity

/-- The order of severities. -/
def rank : Severity → Nat
  | trace => 0
  | debug => 1
  | info => 2

/-- The name of a severity. -/
def name : Severity → String
  | trace => "TRACE"
  | debug => "DEBUG"
  | info => "INFO"

/-- The severity with a given name. -/
def ofName? (name : String) : Option Severity :=
  [trace, debug, info].find? fun severity => severity.name == name

end Severity

/-- What a scanner notes about its work. -/
inductive Event where
  /-- A scan starts, of a source with so many bytes. -/
  | scanOpened (bytes : Nat)
  /-- A token was taken. -/
  | token (token : Token)
  /-- An error was met with the cursor at an offset. -/
  | lexicalError (error : LexicalError) (offset : Nat)
  /-- A scan has found so many tokens. -/
  | scanComplete (count : Nat)
deriving DecidableEq

namespace Event

/-- Tokens are noted for tracing, all else for debugging. -/
def severity : Event → Severity
  | token _ => .trace
  | _ => .debug

/-- Does this event open a span? -/
def opensSpan : Event → Bool
  | scanOpened _ => true
  | _ => false

/-- What an event says, or the name of the span that it opens. -/
def title : Event → String
  | scanOpened _ => "scan_all"
  | token _ => "token"
  | lexicalError _ _ => "lexical error"
  | scanComplete _ => "scan complete"

/-- A text that may be missing, as an event shows it. -/
def optionalText : Option String → String
  | none => "None"
  | some text => "Some(" ++ Text.quoteString text ++ ")"

/-- The named values of an event. -/
def fields : Event → List (String × String)
  | scanOpened bytes => [("len", Text.decimal bytes)]
  | token taken =>
    [("kind", taken.kind.name), ("value", optionalText taken.text),
      ("position", taken.position.toText)]
  | lexicalError error offset =>
    [("position", error.position.toText), ("offset", Text.decimal offset),
      ("error", error.fault.detail)]
  | scanComplete count => [("count", Text.decimal count)]

end Event

/-- An event, and where it lies. -/
structure Record where
  /-- What was noted. -/
  event : Event
  /-- The innermost of the spans that were open then. -/
  enclosing? : Option String
deriving DecidableEq

namespace Record

/-- How weighty a record is. -/
def severity (record : Record) : Severity := record.event.severity

/-- Does this record open a span? -/
def opensSpan (record : Record) : Bool := record.event.opensSpan

/-- What a record says. -/
def title (record : Record) : String := record.event.title

/-- The named values of a record. -/
def fields (record : Record) : List (String × String) := record.event.fields

end Record

end CurlyLex
