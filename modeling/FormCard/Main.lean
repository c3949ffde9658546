import FormCard.CommandLine

/-!
# The program

The outermost layer, and the only one that touches the system: it reads files and variables, runs
the command line, prints what that leaves behind, and exits with its code.  A file that cannot be
read and a file that is no text are the same to the program.
-/

open FormCard

/-- The text of a file of the system, if it can be read and holds text. -/
def readSystemText (path : String) : IO (Option String) := do
  try
    return String.fromUTF8? (← IO.FS.readBinFile path)
  catch _ => return none

/-- The names of the variables that count. -/
def variableNames : List String :=
  ["CARD_SCHEMA_PATH", "CARD_OUTPUT", "CARD_DEFAULT_PRIMARY", "CARD_DEBUG"]

def main (arguments : List String) : IO UInt32 := do
  let known ← variableNames.mapM fun name => return (name, ← IO.getEnv name)
  let environment (name : String) : Option String := (known.lookup name).join
  let outcome ← CommandLine.run readSystemText environment arguments
  IO.print outcome.stdout
  return outcome.exitCode.toUInt32
