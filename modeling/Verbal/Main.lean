import Verbal.CommandLine.Run

/-!
# The command

`main` takes the surroundings of a run from the environment, and writes what comes of the run.
-/

namespace Verbal.CommandLine

/-- Whether colors are used: if they are forced, or if nothing speaks against them at a terminal. -/
def usesColor : IO Bool := do
  let forced ← IO.getEnv "CLICOLOR_FORCE"
  let refused ← IO.getEnv "NO_COLOR"
  let stdout ← IO.getStdout
  let terminal ← stdout.isTty
  return forced.any (· != "0") || (refused.isNone && terminal)

/-- The level of the log that the environment asks for. -/
def levelAsked : IO (Option Level) := do
  return (← IO.getEnv "VEREX_LOG").bind Level.ofName?

/-- Writes a report, and returns its exit code. -/
def write (report : Report) : IO UInt32 := do
  for line in report.log do
    IO.eprintln line
  if report.stderr ≠ "" then
    IO.eprintln report.stderr
  IO.print report.stdout
  return report.exit.toUInt32

end Verbal.CommandLine

open Verbal.CommandLine in
/-- Runs the command. -/
def main (arguments : List String) : IO UInt32 := do
  let around : Surroundings := ⟨.regular, ← usesColor, ← levelAsked⟩
  write (run around arguments)
