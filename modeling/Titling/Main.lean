import Titling.CommandLine.Snapshot

/-! The program: it takes a site on one line of the standard input, and a command as arguments. -/

namespace Titling.CommandLine

/-- The environment variable that sets the language of messages. -/
def languageVariable : String := "DRAPE_LANG"

/-- The exit code of a call that the program does not understand. -/
def usageCode : UInt32 := 2

/-- Prints a report, each text to the output it belongs to. -/
def Report.print (report : Report) : IO UInt32 := do
  let output ← IO.getStdout
  let diagnostics ← IO.getStderr
  for emission in report.printed do
    match emission with
    | .output text => output.putStr text
    | .diagnostics text => diagnostics.putStr text
    | _ => pure ()
  return report.exitCode.toUInt32

end Titling.CommandLine

open Titling.CommandLine

def main (arguments : List String) : IO UInt32 := do
  let language ← IO.getEnv languageVariable
  let line ← (← IO.getStdin).getLine
  match readSite? language line with
  | none => return usageCode
  | some site =>
    match run site arguments with
    | .report report => report.print
    | .help => return 0
    | .usageError => return usageCode
