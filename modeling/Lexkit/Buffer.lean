import Lexkit.Text.Utf8

/-!
# Buffers

A buffer is a text with an identity: two buffers may hold the same text and still be two. It keeps
the UTF-8 form of its text beside it for those who search bytes.
-/

namespace Lexkit

/-- A text that slices and cursors share, told apart from other buffers by its number. -/
structure Buffer where
  id : Nat
  text : Text
  bytes : List UInt8
  bytes_eq : bytes = Utf8.encode text
  deriving DecidableEq, Repr

namespace Buffer

/-- The buffer with a number that holds a text. -/
def ofText (id : Nat) (text : Text) : Buffer := ⟨id, text, Utf8.encode text, rfl⟩

@[simp] theorem length_bytes (buffer : Buffer) : buffer.bytes.length = Text.size buffer.text := by
  rw [buffer.bytes_eq, Utf8.length_encode]

end Buffer

end Lexkit
