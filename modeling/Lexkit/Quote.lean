import Lexkit.Compiled
import Lexkit.Slice.Escape
import Lexkit.Text.Utf8

/-!
# Quoted identifiers

A quoted identifier stands between a start and an end character, which may be the same. Its content
holds the end character by writing it twice, and must not be empty. Reading gives the raw text with
its quotes; scanning gives the content.
-/

namespace Lexkit

structure QuoteSpec where
  start : Char
  stop : Char
  deriving DecidableEq, Repr

namespace QuoteSpec

def symmetric (quote : Char) : QuoteSpec := ⟨quote, quote⟩

def isSymmetric (spec : QuoteSpec) : Bool := spec.start == spec.stop

def singleQuotes : QuoteSpec := symmetric '\x27'
def doubleQuotes : QuoteSpec := symmetric '"'
def squareBrackets : QuoteSpec := ⟨'[', ']'⟩
def curlyBrackets : QuoteSpec := ⟨'\x7b', '\x7d'⟩
def parentheses : QuoteSpec := ⟨'(', ')'⟩
def backTicks : QuoteSpec := symmetric '\x60'
def angleBrackets : QuoteSpec := ⟨'<', '>'⟩

def describe (spec : QuoteSpec) : String :=
  Literal.record "QuoteSpec" [("start", Literal.char spec.start), ("end", Literal.char spec.stop)]

end QuoteSpec

/-- The pairs of quotes that are accepted; of two with the same start the first counts. -/
structure QuotedIdentifier where
  specs : List QuoteSpec
  specs_ne_nil : specs ≠ []
  deriving DecidableEq

namespace QuotedIdentifier

/-- The identifiers in any of the given quotes. -/
def make (specs : List QuoteSpec) : Except ConfigError QuotedIdentifier :=
  if hspecs : specs = [] then .error .emptyQuoteSet else .ok ⟨specs, hspecs⟩

def ofSpec (spec : QuoteSpec) : QuotedIdentifier := ⟨[spec], List.cons_ne_nil _ _⟩

def single : QuotedIdentifier := ofSpec .singleQuotes
def double : QuotedIdentifier := ofSpec .doubleQuotes
def squareBrackets : QuotedIdentifier := ofSpec .squareBrackets

/-- Double quotes, square brackets and back ticks. -/
def sql : QuotedIdentifier :=
  ⟨[.doubleQuotes, .squareBrackets, .backTicks], List.cons_ne_nil _ _⟩

/-- The quotes of `sql` and single quotes. -/
def sqlLiteral : QuotedIdentifier :=
  ⟨[.singleQuotes, .doubleQuotes, .squareBrackets, .backTicks], List.cons_ne_nil _ _⟩

/-- The characters that open a quote. -/
def expected (quoted : QuotedIdentifier) : ExpectedChars :=
  .ofChars (quoted.specs.map (·.start))

/-- The character that closes the quote opened by `start`. -/
def endFor (quoted : QuotedIdentifier) (start : Char) : Option Char :=
  (quoted.specs.find? (·.start == start)).map (·.stop)

def describe (quoted : QuotedIdentifier) : String :=
  Literal.record "QuotedIdentifier"
    [("specs", Literal.list (quoted.specs.map QuoteSpec.describe)),
      ("expected", quoted.expected.describe)]

/-! ### Walking the cursor -/

/-- The cursor after the first `stop` that is not doubled, or at the end when there is none. -/
def close (stop : Char) (cursor : Cursor) : Except Cursor Cursor :=
  match _ : cursor.rest with
  | [] => .error cursor
  | ch :: _ =>
    if ch = stop then
      if cursor.peekNth 1 = some stop then close stop (cursor.skip 2) else .ok cursor.advance
    else close stop cursor.advance
termination_by cursor.rest.length
decreasing_by
  · exact Cursor.length_rest_skip (by simp_all) (by decide)
  · exact Cursor.length_rest_advance (by simp_all)

/-- The raw text at the cursor, from its start through its end character. -/
def read (quoted : QuotedIdentifier) : Scan (Option Slice) := do
  let cursor ← Scan.here
  match cursor.peek with
  | none => return none
  | some first =>
    match quoted.endFor first with
    | none => return none
    | some stop =>
      match close stop cursor.advance with
      | .error atEnd =>
        Scan.goTo atEnd
        Scan.tell (.unclosedQuote cursor.offset stop)
        Scan.malformed (.unclosedQuote stop atEnd.position)
      | .ok after =>
        Scan.goTo after
        let size ← Scan.attempt (Fault.distance after.offset cursor.offset)
        if size = first.utf8Size + stop.utf8Size then
          Scan.malformed (.zeroLengthIdentifier after.position)
        else return some (← Scan.sliceFrom cursor.offset)

/-- The content of a raw text of which the first and the last character are quotes. -/
def content (raw : Slice) (startSize : Nat) (stop : Char) : Scan Slice := do
  let stopOffset ← Scan.attempt (Fault.distance raw.size stop.utf8Size)
  let inside ← Scan.attempt (raw.sub startSize stopOffset)
  return inside.unescape stop (raw.buffer.id + 1)

def scan (quoted : QuotedIdentifier) : Scan (Option Slice) := do
  match ← quoted.read with
  | none => return none
  | some raw =>
    match raw.text.head?, raw.text.tail.getLast? with
    | some first, some last => return some (← content raw first.utf8Size last)
    | _, _ => return none

/-! ### Searching the bytes -/

/-- End characters by start character: a table for those of one byte, a list for the others. -/
structure Ends where
  ascii : List (Option Char)
  others : List QuoteSpec

/-- The end characters of all pairs; earlier pairs overwrite later ones in the table. -/
def ends (quoted : QuotedIdentifier) : Ends where
  ascii := quoted.specs.reverse.foldl
    (fun table spec =>
      if spec.start.toNat < 0x80 then table.set spec.start.toNat (some spec.stop) else table)
    (List.replicate 128 none)
  others := quoted.specs.filter fun spec => !(spec.start.toNat < 0x80)

/-- The size of the start character at an offset and the end character that belongs to it. -/
def Ends.lookup (ends : Ends) (text : Text) (bytes : List UInt8) (offset : Nat) :
    Except Fault (Option (Nat × Char)) := do
  let lead ← Utf8.byteAt bytes offset
  if Utf8.isAscii lead then
    return (ends.ascii[lead.toNat]?.join).map fun stop => (1, stop)
  else
    let ahead ← Text.dropTo text offset
    return (ends.others.find? fun spec => some spec.start == ahead.head?).map fun spec =>
      (spec.start.utf8Size, spec.stop)

/-- The offset after the first `stop` from an offset on that is not doubled. -/
def search (text : Text) (bytes : List UInt8) (stop : Char) (offset : Nat) :
    Except Fault (Option Nat) :=
  match _ : Text.dropTo text offset with
  | .error fault => .error fault
  | .ok ahead =>
    match _ : ahead.offsetOf? (· == stop) with
    | none => .ok none
    | some found =>
      let after := offset + found + stop.utf8Size
      match Utf8.dropTo bytes after with
      | .error fault => .error fault
      | .ok following =>
        if (String.utf8EncodeChar stop).isPrefixOf following then
          search text bytes stop (after + stop.utf8Size)
        else .ok (some after)
termination_by Text.size text - offset
decreasing_by
  have hdrop := Text.dropTo_eq_ok ‹Text.dropTo text offset = _›
  have hfound := Text.offsetOf?_eq_some ‹ahead.offsetOf? _ = _›
  have hpos := stop.utf8Size_pos
  omega

/-- The form that searches; `unescaped` tells whether it gives the content or the raw text. -/
def compileWith (quoted : QuotedIdentifier) (unescaped : Bool) : Compiled :=
  let ends := quoted.ends
  { expected := some quoted.expected
    run := do
      let cursor ← Scan.here
      let text := cursor.buffer.text
      let bytes := cursor.buffer.bytes
      let start := cursor.offset
      if bytes.length ≤ start then
        return none
      match ← Scan.attempt (ends.lookup text bytes start) with
      | none => return none
      | some (startSize, stop) =>
        match ← Scan.attempt (search text bytes stop (start + startSize)) with
        | none => Scan.failAt bytes.length (.unclosedQuote stop)
        | some after =>
          let size ← Scan.attempt (Fault.distance after start)
          if size = startSize + stop.utf8Size then
            Scan.failAt after .zeroLengthIdentifier
          else
            let raw ← Scan.commit start after
            if unescaped then return some (← content raw startSize stop) else return some raw }

def compileRead (quoted : QuotedIdentifier) : Compiled := quoted.compileWith false

def compile (quoted : QuotedIdentifier) : Compiled := quoted.compileWith true

end QuotedIdentifier

end Lexkit
