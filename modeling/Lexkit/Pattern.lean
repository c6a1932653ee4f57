import Lexkit.Compiled
import Lexkit.Pattern.Program
import Lexkit.Pattern.Reader

/-!
# Patterns

A pattern scanner matches a regular expression against the text ahead of the cursor. The expression
is anchored by writing it inside a group that follows a start-of-text condition, so a pattern that
closes that group itself can escape the anchor; what is taken then reaches from the cursor to the
end of the match. An empty match is no match. The expression enters a scan by its search only, so
what is shown of scanners holds whatever engine does the search.
-/

namespace Lexkit

/-- A regular expression that is matched at the cursor. -/
structure Pattern where
  /-- The pattern as it was written. -/
  source : Text
  matcher : Pattern.Matcher

namespace Pattern

/-- The text of the expression that is searched for. -/
def anchored (source : Text) : Text := ['\\', 'A', '(', '?', ':'] ++ source ++ [')']

/-- The pattern that a text writes. -/
def make (source : Text) : Except ConfigError Pattern :=
  match Reader.read (anchored source) with
  | .ok expr => .ok ⟨source, (Program.ofExpr expr).matcher⟩
  | .error _ => .error .invalidPattern

/-- The size of the match at the start of a text. -/
def matchSize (pattern : Pattern) (text : Text) : Option Nat :=
  (pattern.matcher.search text).filter (0 < ·)

def describe (pattern : Pattern) : String :=
  Literal.record "PatternScanner"
    [("pattern", Literal.text pattern.source),
      ("regex", "Regex(" ++ Literal.text (anchored pattern.source) ++ ")")]

/-! ### Walking the cursor -/

/-- The cursor at the first character that does not stand before an offset. -/
def walkTo (stop : Nat) (cursor : Cursor) : Cursor :=
  if cursor.offset < stop then
    match _ : cursor.rest with
    | [] => cursor
    | _ :: _ => walkTo stop cursor.advance
  else cursor
termination_by cursor.rest.length
decreasing_by exact Cursor.length_rest_advance (by simp_all)

/-- The match at the cursor. -/
def scan (pattern : Pattern) : Scan (Option Slice) := do
  let cursor ← Scan.here
  match pattern.matchSize cursor.remaining.text with
  | none => return none
  | some size =>
    Scan.goTo (walkTo (cursor.offset + size) cursor)
    return some (← Scan.sliceFrom cursor.offset)

/-! ### Searching the bytes -/

def compile (pattern : Pattern) : Compiled where
  expected := none
  run := do
    let cursor ← Scan.here
    let start := cursor.offset
    let ahead ← Scan.attempt (Text.dropTo cursor.buffer.text start)
    match pattern.matchSize ahead with
    | none => return none
    | some size => return some (← Scan.commit start (start + size))

end Pattern

end Lexkit
