import Lexkit.Identifier
import Lexkit.Pattern
import Lexkit.Quote
import Lexkit.Whitespace

/-!
# Scanners

A scanner recognises one construct at a cursor, or combines other scanners. Each can be run by
walking the cursor or compiled to a form that searches the bytes; both are meant to come to the same
result and leave the same cursor.
-/

namespace Lexkit

/-- What is recognised at a cursor. -/
inductive Scanner where
  | whitespace (skipper : Whitespace)
  | line (comment : LineComment)
  | block (comment : BlockComment)
  | quoted (quotes : QuotedIdentifier)
  | identifier (chars : Identifier)
  | pattern (expr : Pattern)
  /-- Skips whitespace, then scans; without a match the whitespace is given back. -/
  | skipThen (skipper : Whitespace) (inner : Scanner)
  /-- Tells what the inner scanner does. -/
  | traced (name : Text) (inner : Scanner)

namespace Scanner

/-- The characters a match can start with, if they are known. After skipped whitespace anything can
follow, so a scanner that skips knows none. -/
def expected : Scanner → Option ExpectedChars
  | quoted quotes => some quotes.expected
  | identifier chars => some chars.expected
  | traced _ inner => inner.expected
  | whitespace _ | line _ | block _ | pattern _ | skipThen .. => none

def describe : Scanner → String
  | whitespace skipper => skipper.describe
  | line comment => comment.describe
  | block comment => comment.describe
  | quoted quotes => quotes.describe
  | identifier chars => chars.describe
  | pattern expr => expr.describe
  | skipThen skipper inner =>
    Literal.record "SkipThen" [("skipper", skipper.describe), ("inner", inner.describe)]
  | traced name inner =>
    Literal.record "Traced" [("name", Literal.text name), ("inner", inner.describe)]

/-- Skips, then scans, and comes back when the scan does not match. -/
def scanAfter (skip : Scan Bool) (scan : Scan (Option Slice)) : Scan (Option Slice) :=
  Scan.orReturn do
    let _ ← skip
    scan

/-- Tells that a scan starts and how it ends, and comes back when it does not match. -/
def scanTraced (name : Text) (scan : Scan (Option Slice)) : Scan (Option Slice) := fun cursor =>
  let step := scan cursor
  let entered := Event.entered name cursor.position
  match step.outcome with
  | .ok (some slice) =>
    { step with events := entered :: step.events ++ [.matched name slice.text] }
  | .ok none =>
    ⟨.ok none, cursor, entered :: step.events ++ [.noMatch name cursor.remaining.text]⟩
  | .error (.malformed error) =>
    { step with events := entered :: step.events ++ [.malformed name error] }
  | .error (.fault _) => { step with events := entered :: step.events }

/-- Runs a scanner by walking the cursor. -/
def scan : Scanner → Scan (Option Slice)
  | whitespace skipper => skipper.read
  | line comment => comment.read
  | block comment => comment.read
  | quoted quotes => quotes.scan
  | identifier chars => chars.scan
  | pattern expr => expr.scan
  | skipThen skipper inner => scanAfter skipper.skip inner.scan
  | traced name inner => scanTraced name inner.scan

/-- The form of a scanner that searches the bytes. -/
def compile : Scanner → Compiled
  | whitespace skipper => skipper.compile
  | line comment => comment.compile
  | block comment => comment.compile
  | quoted quotes => quotes.compile
  | identifier chars => chars.compile
  | pattern expr => expr.compile
  | skipThen skipper inner => ⟨none, scanAfter skipper.compileSkip inner.compile.run⟩
  | traced name inner => ⟨inner.compile.expected, scanTraced name inner.compile.run⟩

def run (scanner : Scanner) (strategy : Strategy) : Scan (Option Slice) :=
  match strategy with
  | .interpreted => scanner.scan
  | .compiled => scanner.compile.run

/-- The raw text of what a scanner matches: with its quotes for a quoted identifier, and what a run
gives for every other scanner. -/
def readRaw (scanner : Scanner) (strategy : Strategy) : Scan (Option Slice) :=
  match scanner, strategy with
  | quoted quotes, .interpreted => quotes.read
  | quoted quotes, .compiled => quotes.compileRead.run
  | scanner, strategy => scanner.run strategy

/-- Whether a scanner matches, for those who want only to move the cursor. -/
def skip (scanner : Scanner) (strategy : Strategy) : Scan Bool :=
  match scanner, strategy with
  | whitespace skipper, .interpreted => skipper.skip
  | whitespace skipper, .compiled => skipper.compileSkip
  | scanner, strategy => (scanner.run strategy).isMatch

end Scanner

/-- What became of a scan: a text and where the cursor went, no match, or malformed input. -/
inductive Outcome where
  | success (slice : Slice) (stop : Position)
  | noMatch
  | malformed (error : ScanError)
  | fault (reason : Fault)
  deriving DecidableEq, Repr

namespace Outcome

def ofStep (step : Step (Option Slice)) : Outcome :=
  match step.outcome with
  | .ok (some slice) => success slice step.cursor.position
  | .ok none => noMatch
  | .error (.malformed error) => malformed error
  | .error (.fault reason) => fault reason

def isSuccess : Outcome → Bool
  | success .. => true
  | _ => false

/-- Whether two scans came to the same text, end and error; the buffers of the texts may differ. -/
def agrees : Outcome → Outcome → Bool
  | success left leftStop, success right rightStop =>
    left.text == right.text && leftStop == rightStop
  | noMatch, noMatch => true
  | malformed left, malformed right => left == right
  | _, _ => false

end Outcome

/-- The outcomes of both strategies at the start of a text, the walking one first. -/
def Scanner.outcomes (scanner : Scanner) (text : Text) : Outcome × Outcome :=
  (.ofStep (scanner.scan (.ofText text)), .ofStep (scanner.compile.run (.ofText text)))

end Lexkit
