import CurlyLex.Command

/-!
# The program

Reads the file that the command asks for, runs the command and prints what it leaves.
-/

/-- Scan the file named by the first argument, or the sample program. -/
def main (args : List String) : IO UInt32 := do
  let contents ←
    match args with
    | [] => pure none
    | path :: _ => try some <$> IO.FS.readBinFile path catch _ => pure none
  let outcome := CurlyLex.Command.run (fun _ => contents) args
  IO.print outcome.stdout
  IO.eprint outcome.stderr
  return outcome.exit
