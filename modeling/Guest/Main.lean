import Guest.CommandLine

/-!
# The program

Reads the standard input where the source comes from there, and writes what the run leaves.
-/

open Guest in
/-- Runs the command line. -/
def main (args : List String) : IO UInt32 := do
  let input ← if CommandLine.readsInput args then (← IO.getStdin).readToEnd else pure ""
  let output := CommandLine.run args input
  IO.print output.stdout
  unless output.stderr.isEmpty do IO.eprintln output.stderr
  return UInt32.ofNat output.code
