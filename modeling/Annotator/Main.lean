import Annotator.CommandLine.Run

/-!
# The program

The command line on the world outside: its environment, files and streams.
-/

namespace Annotator

/-- The text of some bytes, unless they are none or are no text. -/
def textOf (bytes : IO ByteArray) : IO (Option String) := do
  try
    return String.fromUTF8? (← bytes)
  catch _ => return none

/-- The host that is the world outside, for the variables of its environment. -/
def outside (values : List (String × String)) : CommandLine.Host IO where
  environment name := values.lookup name
  readFile path := textOf (IO.FS.readBinFile path)
  readInput := do textOf (← IO.getStdin).readBinToEnd
  cause _ := "no details"
  write text := do (← IO.getStdout).putStr text
  report text := do (← IO.getStderr).putStr text

end Annotator

/-- Runs the command line. -/
def main (arguments : List String) : IO UInt32 := do
  let values ← Annotator.Settings.environmentNames.filterMapM fun name => do
    return (← IO.getEnv name).map (name, ·)
  Annotator.CommandLine.run (Annotator.outside values) arguments
