import Lexkit.Text.Basic

/-!
# Matchers

What a pattern scanner needs of a regular expression is a search: the byte offset at which the first
match in a text ends, which lies between two characters of the text. How the search goes about it is
left to the engine that provides it.
-/

namespace Lexkit.Pattern

/-- A search in a text, and nothing else, for the end of the first match. -/
structure Matcher where
  search : Text → Option Nat
  boundary : ∀ {text stop}, search text = some stop →
    ∃ taken, taken <+: text ∧ Text.size taken = stop

end Lexkit.Pattern
