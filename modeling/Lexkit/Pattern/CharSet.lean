import Lexkit.Text.Classes
import Lexkit.Text.Property.CaseFold

/-!
# Character sets of patterns

What one place of a pattern accepts. A set keeps the form in which it was written, and membership
is decided by following that form.
-/

namespace Lexkit.Pattern

/-- A class of characters with a name. -/
inductive NamedClass where
  | alphabetic
  | letter
  | decimal
  | numeric
  | blank
  | word
  deriving DecidableEq, Repr

def NamedClass.contains : NamedClass → Char → Bool
  | alphabetic => Text.isAlphabetic
  | letter => Text.isLetter
  | decimal => Text.isDecimal
  | numeric => Text.isNumeric
  | blank => Text.isBlank
  | word => Text.isWord

/-- Which characters count as case variants of each other. -/
inductive Folding where
  /-- The letters A to Z only. -/
  | ascii
  /-- All of Unicode, by its simple case folding. -/
  | full
  deriving DecidableEq, Repr

/-- The case variants of a character, itself among them. -/
def Folding.variants (folding : Folding) (ch : Char) : List Char :=
  match folding with
  | ascii => [ch, ch.toLower, ch.toUpper]
  | full => (Text.Property.caseVariants ch.toNat).map Char.ofNat

/-- A set of characters. -/
inductive CharSet where
  | none
  /-- All characters from `first` to `last`. -/
  | range (first last : Char)
  | named (cls : NamedClass)
  | union (left right : CharSet)
  | inter (left right : CharSet)
  | compl (set : CharSet)
  /-- Every case variant of a member. -/
  | folded (folding : Folding) (set : CharSet)
  deriving DecidableEq, Repr

namespace CharSet

def contains : CharSet → Char → Bool
  | none, _ => false
  | range first last, ch => first ≤ ch && ch ≤ last
  | named cls, ch => cls.contains ch
  | union left right, ch => left.contains ch || right.contains ch
  | inter left right, ch => left.contains ch && right.contains ch
  | compl set, ch => !set.contains ch
  | folded folding set, ch => (folding.variants ch).any set.contains

def singleton (ch : Char) : CharSet := range ch ch

def diff (left right : CharSet) : CharSet := inter left (compl right)

def symmDiff (left right : CharSet) : CharSet := union (diff left right) (diff right left)

/-- The characters that take one byte. -/
def ascii : CharSet := range '\x00' '\x7f'

/-- The union of ranges. -/
def ofRanges (ranges : List (Char × Char)) : CharSet :=
  ranges.foldl (fun set (first, last) => union set (range first last)) none

end CharSet

end Lexkit.Pattern
