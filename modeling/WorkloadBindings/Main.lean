import WorkloadBindings.CommandLine.Arguments
import WorkloadBindings.Json.Printer

/-!
The command line: reads the arguments and prints the settings that they make, or says what is wrong
with them.
-/

open WorkloadBindings

/-- Prints the settings and succeeds, or says what is wrong with the arguments and fails. -/
def main (arguments : List String) : IO UInt32 := do
  match Arguments.parse arguments with
  | .ok a =>
    IO.println a.toJson.compact
    return 0
  | .error e =>
    IO.eprintln e.message
    return 2
