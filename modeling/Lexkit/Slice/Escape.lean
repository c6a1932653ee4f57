import Lexkit.Slice

/-!
# Doubled characters

Inside quotes the closing character stands for itself when it is written twice. Escaping doubles
every occurrence, unescaping makes one of every pair, read from left to right. A slice that would
not change is returned as it is, in its own buffer; a changed text gets a buffer of its own.
-/

namespace Lexkit

namespace Text

/-- Doubles every occurrence of `ch`. -/
def escape (ch : Char) : Text → Text
  | [] => []
  | c :: text => if c = ch then c :: c :: escape ch text else c :: escape ch text

/-- Makes one of every two adjacent occurrences of `ch`, from left to right. -/
def unescape (ch : Char) : Text → Text
  | [] => []
  | [c] => [c]
  | c :: d :: text =>
    if c = ch ∧ d = ch then c :: unescape ch text else c :: unescape ch (d :: text)

/-- Whether two adjacent characters are both `ch`. -/
def hasPair (ch : Char) (text : Text) : Bool :=
  (text.zip text.tail).any fun (c, d) => c == ch && d == ch

end Text

namespace Slice

/-- The slice with every `ch` doubled; `fresh` numbers the buffer made for a changed text. -/
def escape (slice : Slice) (ch : Char) (fresh : Nat) : Slice :=
  if slice.text.contains ch then whole (.ofText fresh (Text.escape ch slice.text)) else slice

/-- The slice with every pair of `ch` made one; `fresh` numbers the buffer made for a changed
text. -/
def unescape (slice : Slice) (ch : Char) (fresh : Nat) : Slice :=
  if Text.hasPair ch slice.text then whole (.ofText fresh (Text.unescape ch slice.text)) else slice

end Slice

end Lexkit
