import Lexkit.ExpectedChars
import Lexkit.Scan

/-!
# Compiled scanners

What a scanner becomes when the tables it needs are made beforehand: the set of characters a match
can start with, if it is known, and a scan that searches the bytes of the buffer.
-/

namespace Lexkit

/-- A scanner with its tables made. -/
structure Compiled where
  /-- The characters a match can start with; without a set any character can. -/
  expected : Option ExpectedChars
  run : Scan (Option Slice)

def Compiled.describe (compiled : Compiled) : String :=
  Literal.openRecord "CompiledScanner"
    [("expected", Literal.option (compiled.expected.map ExpectedChars.describe))]

end Lexkit
