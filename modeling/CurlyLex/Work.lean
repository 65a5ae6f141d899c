import CurlyLex.Cursor
import CurlyLex.Journal

/-!
# Work at a desk

A scanner works with a cursor that it moves and a journal in which it notes what it does.  Its work can
end with an error, and then what would have come behind is not done.  The cursor stays where it stood
when the error was met, and what was noted stays noted.

* `Desk` — a cursor and a journal.
* `Work`, `Work.on` — what is done, and what comes of it at a desk.
* `Work.cursor`, `Work.advance`, `Work.note`, `Work.fail`, `Work.inside` — the steps of which work is
  made.
* `Work.on_bind` — one thing after another; and an equation like it for each of the steps.
-/

namespace CurlyLex

/-- What a scanner works with. -/
structure Desk where
  /-- Where the work stands. -/
  cursor : Cursor
  /-- What has been noted. -/
  journal : Journal

/-- Work that moves the cursor of a desk, writes in its journal, and can end with an error. -/
abbrev Work := ExceptT LexicalError (StateM Desk)

namespace Work

variable {α β : Type}

/-- What comes of work at a desk, and how it leaves the desk. -/
def on (work : Work α) (desk : Desk) : Except LexicalError α × Desk :=
  work.run.run desk

/-- Look where the cursor stands. -/
def cursor : Work Cursor :=
  return (← get).cursor

/-- Move over the next `n` characters. -/
def advance (n : Nat) : Work Unit :=
  modify fun desk => { desk with cursor := desk.cursor.advance n }

/-- Note an event. -/
def note (event : Event) : Work Unit :=
  modify fun desk => { desk with journal := desk.journal.note event }

/-- Note a fault that lies at a position, with the offset at which the cursor stands by now, and end the
work with it. -/
def fail (fault : Fault) (position : Position) : Work α := do
  note (.lexicalError ⟨fault, position⟩ (← cursor).offset)
  throw ⟨fault, position⟩

/-- Do work inside a span, which is closed again however the work ends. -/
def inside (event : Event) (work : Work α) : Work α := .mk do
  modify fun desk => { desk with journal := desk.journal.enter event }
  let outcome ← work.run
  modify fun desk => { desk with journal := desk.journal.leave event }
  return outcome

/-! ### What comes of each step -/

theorem on_pure (result : α) (desk : Desk) : (pure result : Work α).on desk = (.ok result, desk) :=
  rfl

/-- What comes behind an error is not done. -/
theorem on_bind (work : Work α) (next : α → Work β) (desk : Desk) :
    (work >>= next).on desk =
      match work.on desk with
      | (.ok result, later) => (next result).on later
      | (.error error, later) => (.error error, later) := by
  show (match work.on desk with
    | (outcome, later) => (ExceptT.bindCont next outcome).run later) = _
  obtain ⟨outcome, later⟩ := work.on desk
  cases outcome with
  | ok result => rfl
  | error error => rfl

theorem on_cursor (desk : Desk) : cursor.on desk = (.ok desk.cursor, desk) := rfl

theorem on_advance (n : Nat) (desk : Desk) :
    (advance n).on desk = (.ok (), { desk with cursor := desk.cursor.advance n }) := rfl

theorem on_note (event : Event) (desk : Desk) :
    (note event).on desk = (.ok (), { desk with journal := desk.journal.note event }) := rfl

theorem on_fail (fault : Fault) (position : Position) (desk : Desk) :
    (fail fault position : Work α).on desk =
      (.error ⟨fault, position⟩, { desk with
        journal := desk.journal.note (.lexicalError ⟨fault, position⟩ desk.cursor.offset) }) := rfl

theorem on_inside (event : Event) (work : Work α) (desk : Desk) :
    (inside event work).on desk =
      match work.on { desk with journal := desk.journal.enter event } with
      | (outcome, later) => (outcome, { later with journal := later.journal.leave event }) := rfl

end Work

end CurlyLex
