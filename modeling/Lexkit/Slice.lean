import Lexkit.Buffer
import Lexkit.Text.Literal

/-!
# Slices

A slice views a range of a buffer and carries the text found there, so a slice that exists can be
read.
-/

namespace Lexkit

/-- A range of a buffer, with the text that stands in it. -/
structure Slice where
  buffer : Buffer
  start : Nat
  text : Text
  deriving DecidableEq, Repr

namespace Slice

def size (slice : Slice) : Nat := Text.size slice.text

def stop (slice : Slice) : Nat := slice.start + slice.size

def isEmpty (slice : Slice) : Bool := slice.size == 0

/-- The slice between two offsets of a buffer. -/
def make (buffer : Buffer) (start stop : Nat) : Except Fault Slice := do
  let text ← Text.between buffer.text start stop
  return ⟨buffer, start, text⟩

def whole (buffer : Buffer) : Slice := ⟨buffer, 0, buffer.text⟩

/-- The slice between two offsets counted from the start of `slice`. -/
def sub (slice : Slice) (start stop : Nat) : Except Fault Slice := do
  let text ← Text.between slice.text start stop
  return ⟨slice.buffer, slice.start + start, text⟩

/-- Whether two slices view the same range of the same buffer. -/
def sameSpan (left right : Slice) : Bool :=
  left.start == right.start && left.stop == right.stop && left.buffer.id == right.buffer.id

/-- The text in quotes, and the range. -/
def describe (slice : Slice) : String :=
  Literal.text slice.text ++ "@" ++ toString slice.start ++ ".." ++ toString slice.stop

end Slice

end Lexkit
