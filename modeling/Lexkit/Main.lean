import Lexkit.CommandLine

/-!
# The program

Reads the script and prints the report.
-/

namespace Lexkit.CommandLine

/-- The bytes of the file or of standard input. -/
def readSource (file : Option String) : IO (Except ReadError Text) := do
  match file with
  | some name =>
    try
      return decode (← IO.FS.readBinFile name)
    catch _ =>
      return .error .missing
  | none =>
    return decode (← (← IO.getStdin).readBinToEnd)

def printReport (report : Report) : IO UInt32 := do
  (← IO.getStdout).putStr report.stdout
  (← IO.getStderr).putStr report.stderr
  return report.code

end Lexkit.CommandLine

open Lexkit.CommandLine in
def main (args : List String) : IO UInt32 := do
  match parse args with
  | .error report => printReport report
  | .ok request => printReport (request.report (← readSource request.file))
