import SchemaBridge.Command

/-!
# The program
-/

namespace SchemaBridge.Command

/-- The content of a file, if it can be read. -/
def readFile? (path : String) : IO (Option String) := do
  try
    return some (← IO.FS.readFile path)
  catch _ => return none

end SchemaBridge.Command

open SchemaBridge in
/-- Prints the output of the command, and the complaint if it fails. -/
def main (args : List String) : IO UInt32 := do
  match ← Command.run Command.readFile? args with
  | .ok text =>
    IO.print text
    return 0
  | .error stop =>
    IO.print stop.printed
    IO.eprintln stop.complaint
    return stop.code.toUInt32
