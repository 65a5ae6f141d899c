import CurlyLex.Report
import CurlyLex.Scan

/-!
# The command

The command scans one file.  Its first argument is the path and the others are ignored; without
arguments it scans a sample program.  It prints a token a line and succeeds, or prints a report to
the error output and fails.  It fails as well when the file cannot be read, or is not UTF-8.

Logging is left out.  The log goes to the error output as well and, unless it is turned off, it says there
why a file could not be read.

* `Command.Outcome` — exit code and both outputs.
* `Command.scanSource` — scan a source known by a file name.
* `Command.run` — the command, given how files are read.
-/

namespace CurlyLex.Command

/-- What a run of the command leaves. -/
structure Outcome where
  /-- Zero for success. -/
  exit : UInt32
  /-- The standard output. -/
  stdout : String
  /-- The error output. -/
  stderr : String
deriving DecidableEq

/-- The name under which the sample program is scanned. -/
def sampleName : String := "sample"

/-- A program with tokens of every class. -/
def sample : String :=
  String.join ([
    "/* Sample program exercising every token class. */",
    "int main() \x7b",
    "    int i;",
    "    int total = 0;",
    "    int values[4];",
    "",
    "    for (i = 0; i < 4; i = i + 1) \x7b",
    "        values[i] = i * 2 % 3;",
    "    \x7d",
    "",
    "    // comparisons",
    "    while (total <= 10) \x7b",
    "        if (total == 7) \x7b",
    "            total = total - 1;",
    "        \x7d else \x7b",
    "            total = total + 2;",
    "        \x7d",
    "    \x7d",
    "",
    "    if (total != 0) \x7b",
    "        return total / 2;",
    "    \x7d",
    "",
    "    scale(1.5e-3, .25, 2E+4, 3.);",
    "    return total >= 1;",
    "\x7d"].map fun line => line ++ "\n")

/-- One token a line. -/
def listing (tokens : List Token) : String :=
  String.join (tokens.map fun token => token.toText ++ "\n")

/-- Scan a source that is known by a file name.  An error without a report ends the run abnormally,
with exit code 101. -/
def scanSource (source file : String) : Outcome :=
  match tokenize source with
  | .ok tokens => ⟨0, listing tokens, ""⟩
  | .error error =>
    match error.report? source file with
    | some report => ⟨1, "", report⟩
    | none => ⟨101, "", ""⟩

/-- Run the command.  `file?` gives the bytes of the file at a path, if it can be read. -/
def run (file? : String → Option ByteArray) : List String → Outcome
  | [] => scanSource sample sampleName
  | path :: _ =>
    match (file? path).bind String.fromUTF8? with
    | some source => scanSource source path
    | none => ⟨1, "", ""⟩

end CurlyLex.Command
