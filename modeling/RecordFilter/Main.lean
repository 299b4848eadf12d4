import RecordFilter.CommandLine.Arguments

/-!
# The program

Reads a command from the arguments, runs it, and writes what it leaves.
-/

set_option autoImplicit false

open RecordFilter.CommandLine

/-- Runs the command of the arguments; without one, explains which there are. -/
def main (given : List String) : IO UInt32 := do
  match readCommand given with
  | some command =>
    let outcome := run command
    (← IO.getStdout).putStr outcome.output
    (← IO.getStderr).putStr outcome.diagnostics
    return outcome.code.toUInt32
  | none =>
    (← IO.getStderr).putStr
      "usage: plan|eval|translate --filter=TEXT [--backend=sqlite|sqlserver] [--no-where]\n"
    return 2
