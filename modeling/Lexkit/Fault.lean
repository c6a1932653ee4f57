/-!
# Refused operations

Offsets count bytes, and not every number is the offset of a character. An operation on offsets is
refused rather than rounded, and a fault says why. Malformed input is never a fault: it is reported
as a `ScanError`.
-/

namespace Lexkit

/-- Why an operation on a text, a slice or a cursor is refused. -/
inductive Fault where
  /-- The end of a range lies before its start. -/
  | reversed
  /-- An offset lies past the end of the text. -/
  | outOfRange
  /-- An offset lies inside a character. -/
  | splitsChar
  /-- A cursor is asked to seek to a place behind it. -/
  | backward
  /-- A length would be less than nothing. -/
  | underflow
  /-- A loop never ends, or is given up before it does. -/
  | stalled
  deriving DecidableEq, Repr

/-- The length from `start` to `stop`, refused when `stop` comes first. -/
def Fault.distance (stop start : Nat) : Except Fault Nat :=
  if start ≤ stop then .ok (stop - start) else .error .underflow

end Lexkit
