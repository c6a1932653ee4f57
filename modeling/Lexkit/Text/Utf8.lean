import Lexkit.Text.Basic

/-!
# UTF-8 forms

The bytes of a text, and the two questions a byte-level reader asks of them: what is left from an
offset on, and how many bytes the character that starts with a given byte takes.
-/

namespace Lexkit.Utf8

/-- The UTF-8 form of a text. -/
def encode (text : Text) : List UInt8 :=
  text.flatMap String.utf8EncodeChar

@[simp] theorem encode_nil : encode [] = [] := rfl

@[simp] theorem encode_cons (ch : Char) (text : Text) :
    encode (ch :: text) = String.utf8EncodeChar ch ++ encode text := rfl

@[simp] theorem length_encode (text : Text) : (encode text).length = Text.size text := by
  induction text with
  | nil => rfl
  | cons ch text ih => simp [ih]

/-- Whether a byte is a character by itself. -/
def isAscii (byte : UInt8) : Bool := byte < 0x80

/-- The number of bytes of the character whose UTF-8 form starts with `lead`. -/
def leadLength (lead : UInt8) : Nat :=
  if lead < 0x80 then 1
  else if 0xC0 ≤ lead && lead < 0xE0 then 2
  else if 0xE0 ≤ lead && lead < 0xF0 then 3
  else 4

theorem leadLength_pos (lead : UInt8) : 0 < leadLength lead := by
  unfold leadLength
  split <;> (try split) <;> (try split) <;> omega

/-- The bytes from an offset on. -/
def dropTo (bytes : List UInt8) (offset : Nat) : Except Fault (List UInt8) :=
  if offset ≤ bytes.length then .ok (bytes.drop offset) else .error .outOfRange

theorem dropTo_eq_ok {bytes rest : List UInt8} {offset : Nat}
    (hdrop : dropTo bytes offset = .ok rest) : rest = bytes.drop offset := by
  unfold dropTo at hdrop
  split at hdrop
  · exact (Except.ok.inj hdrop).symm
  · cases hdrop

/-- The byte at an offset. -/
def byteAt (bytes : List UInt8) (offset : Nat) : Except Fault UInt8 :=
  match bytes[offset]? with
  | some byte => .ok byte
  | none => .error .outOfRange

theorem byteAt_eq_ok {bytes : List UInt8} {offset : Nat} {byte : UInt8}
    (hbyte : byteAt bytes offset = .ok byte) : offset < bytes.length := by
  unfold byteAt at hbyte
  split at hbyte
  · rename_i hget
    exact (List.getElem?_eq_some_iff.1 hget).1
  · simp at hbyte

end Lexkit.Utf8
