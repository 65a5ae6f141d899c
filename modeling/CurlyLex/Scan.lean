import CurlyLex.Reading

/-!
# Scans

A scan takes one token after another, and ends with the first final token or with an error.  Its result
is the list of tokens, or the error alone.  All of its work lies in a span, and when there is no error
the number of tokens is noted at the end.

* `Work.takeAll` — take tokens up to a final one.
* `Work.scanAll` — scan a source from where the cursor stands.
* `tokenize` — the tokens of a source, with the keywords of the language.

A scan ends because every token but a final one leaves less to be read.
-/

namespace CurlyLex

namespace Work

/-- A token that is not final leaves less to be read. -/
theorem rest_on_nextToken_lt {keywords : Keywords} {desk later : Desk} {token : Token}
    (h : (nextToken keywords).on desk = (.ok token, later)) (hmore : token.isFinal = false) :
    later.cursor.rest.length < desk.cursor.rest.length := by
  obtain ⟨cursor, journal⟩ := desk
  rw [on_nextToken, Reading.noted] at h
  obtain ⟨houtcome, rfl⟩ := Prod.mk.inj h
  apply Cursor.rest_read_lt
  rw [Reading.isLast, houtcome]
  exact hmore

/-- Take tokens up to a final one, after some earlier ones in reverse order. -/
def takeAllAfter (keywords : Keywords) (desk : Desk) (earlier : List Token) :
    Except LexicalError (List Token) × Desk :=
  match _step : (nextToken keywords).on desk with
  | (.error error, later) => (.error error, later)
  | (.ok token, later) =>
    if token.isFinal then (.ok (token :: earlier).reverse, later)
    else takeAllAfter keywords later (token :: earlier)
termination_by desk.cursor.rest.length
decreasing_by
  rename_i more
  exact rest_on_nextToken_lt _step (by simpa using more)

/-- Take tokens up to a final one. -/
def takeAll (keywords : Keywords) : Work (List Token) :=
  fun desk => takeAllAfter keywords desk []

/-- Scan a source from where the cursor stands. -/
def scanAll (keywords : Keywords) (source : String) : Work (List Token) :=
  inside (.scanOpened source.utf8ByteSize) do
    let tokens ← takeAll keywords
    note (.scanComplete tokens.length)
    return tokens

/-! ### Unfolding -/

theorem takeAllAfter_eq (keywords : Keywords) (desk : Desk) (earlier : List Token) :
    takeAllAfter keywords desk earlier =
      match (nextToken keywords).on desk with
      | (.error error, later) => (.error error, later)
      | (.ok token, later) =>
        if token.isFinal then (.ok (token :: earlier).reverse, later)
        else takeAllAfter keywords later (token :: earlier) := by
  rw [takeAllAfter]
  split <;> rename_i step <;> rw [step]

theorem on_takeAll (keywords : Keywords) (desk : Desk) :
    (takeAll keywords).on desk = takeAllAfter keywords desk [] := rfl

end Work

/-- The tokens of a source, or the first error in it. -/
def tokenize (source : String) : Except LexicalError (List Token) :=
  ((Work.scanAll .reserved source).on ⟨.ofText source.toList, .start .info⟩).1

end CurlyLex
