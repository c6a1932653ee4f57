import Lexkit.Text.Property.Alphabetic
import Lexkit.Text.Property.Blank
import Lexkit.Text.Property.Decimal
import Lexkit.Text.Property.Hidden
import Lexkit.Text.Property.Joiner
import Lexkit.Text.Property.Letter
import Lexkit.Text.Property.Numeric

/-!
# Character classes

Classes of characters given by ascending ranges of code points.
-/

namespace Lexkit.Text

/-- Whether a code point lies in one of the ranges, which ascend. -/
def inRanges : List (Nat × Nat) → Nat → Bool
  | [], _ => false
  | (first, last) :: ranges, code =>
    if code < first then false else code ≤ last || inRanges ranges code

/-- The Unicode property Alphabetic. -/
def isAlphabetic (ch : Char) : Bool := inRanges Property.alphabetic ch.toNat

/-- The general categories Nd, Nl and No. -/
def isNumeric (ch : Char) : Bool := inRanges Property.numeric ch.toNat

def isAlphanumeric (ch : Char) : Bool := isAlphabetic ch || isNumeric ch

/-- The Unicode property White_Space. -/
def isBlank (ch : Char) : Bool := inRanges Property.blank ch.toNat

/-- The general category Nd. -/
def isDecimal (ch : Char) : Bool := inRanges Property.decimal ch.toNat

/-- The letters of all scripts. -/
def isLetter (ch : Char) : Bool := inRanges Property.letter ch.toNat

/-- Letters, marks, decimal digits, connectors and join controls. -/
def isWord (ch : Char) : Bool :=
  isAlphabetic ch || isDecimal ch || inRanges Property.joiner ch.toNat

/-- Characters that a quoted form spells by number. -/
def isHidden (ch : Char) : Bool := inRanges Property.hidden ch.toNat

/-- The characters that end a line comment: line feed, carriage return and vertical tab. -/
def isNewLine (ch : Char) : Bool := ch == '\n' || ch == '\r' || ch == '\x0b'

end Lexkit.Text
