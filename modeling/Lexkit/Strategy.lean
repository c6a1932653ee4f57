import Lexkit.Error

/-!
# Strategies

A scanner can be run in two ways: by walking a cursor character by character, or by searching the
bytes of the buffer with tables made beforehand.
-/

namespace Lexkit

/-- A way to run a scanner. -/
inductive Strategy where
  /-- Walk the cursor. -/
  | interpreted
  /-- Search the bytes. -/
  | compiled
  deriving DecidableEq, Repr

namespace Strategy

/-- The strategy with the given name; both names are lower case. -/
def ofName (name : String) : Except ConfigError Strategy :=
  if name = "interpreted" then .ok interpreted
  else if name = "compiled" then .ok compiled
  else .error (.unknownStrategy name)

/-- The name in a written record. -/
def describe : Strategy → String
  | interpreted => "Interpreted"
  | compiled => "Compiled"

end Strategy

end Lexkit
