import CurlyLex.LexicalError
import CurlyLex.Text.Blank
import CurlyLex.Text.Lines

/-!
# Error reports

A report shows an error beside the source line it stands on:

    Error: UnrecognizedCharacter (unrecognized character '@' at 2:9)
    -> main.c
      |
    2 | a = @;
      | ----^

The line is shown without the blanks at its ends, and the caret moves left by as many columns as
blanks were removed at the front.  The bars stand under each other whatever the number of digits of
the line.  An error with a tip shows it in a row of its own.  A caret can be at most
`caretLimit` columns away from the bar; an error beyond that has no report.

* `LexicalError.caretWidth` — how far the caret stands from the bar.
* `LexicalError.reportRows` — the rows of a report.
* `LexicalError.report?` — the report as one text.
-/

namespace CurlyLex

/-- The widest row of dashes and caret. -/
def caretLimit : Nat := 65535

/-- A mark at the right end of a margin. -/
def margin (width : Nat) (mark : Char) : String :=
  String.ofList (List.replicate (width - 1) ' ' ++ [mark])

/-- Dashes that end in a caret, `width` characters in all. -/
def caret (width : Nat) : String :=
  String.ofList (List.replicate (width - 1) '-' ++ ['^'])

namespace LexicalError

/-- The source line that an error stands on; a line that the source does not have is empty. -/
def sourceLine (error : LexicalError) (source : String) : List Char :=
  (Text.line? source.toList error.position.line.toNat).getD []

/-- How many blanks are removed at the front of a line. -/
def indentation (line : List Char) : Nat :=
  line.length - (Text.trimStart line).length

/-- How far the caret stands from the bar, at least one column. -/
def caretWidth (error : LexicalError) (source : String) : Nat :=
  max 1 (error.position.column.toNat - indentation (error.sourceLine source))

/-- The width of the margin: the digits of the line number, a blank and a bar. -/
def marginWidth (error : LexicalError) : Nat :=
  (Text.decimal error.position.line.toNat).length + 2

/-- The row with a tip, if there is one. -/
def tipRows (error : LexicalError) : List String :=
  match error.fault.tip? with
  | some tip => [margin error.marginWidth '=' ++ " " ++ tip]
  | none => []

/-- The row that shows the source line. -/
def sourceRow (error : LexicalError) (source : String) : String :=
  Text.decimal error.position.line.toNat ++ " | "
    ++ String.ofList (Text.trimEnd (Text.trimStart (error.sourceLine source)))

/-- The row that points at the column. -/
def caretRow (error : LexicalError) (source : String) : String :=
  margin error.marginWidth '|' ++ " " ++ caret (error.caretWidth source)

/-- The rows of a report. -/
def reportRows (error : LexicalError) (source file : String) : List String :=
  ["Error: " ++ error.fault.name ++ " (" ++ error.message ++ ")"]
    ++ error.tipRows
    ++ ["-> " ++ file, margin error.marginWidth '|', error.sourceRow source,
      error.caretRow source]

/-- The report of an error in a source that is known by a file name; nothing when the caret would
stand too far away. -/
def report? (error : LexicalError) (source file : String) : Option String :=
  if error.caretWidth source ≤ caretLimit then
    some (String.join ((error.reportRows source file).map fun row => row ++ "\n"))
  else none

end LexicalError

end CurlyLex
