import Lexkit.Compiled
import Lexkit.Text.Utf8

/-!
# Line comments

A line comment runs from its start mark through the next character that ends a line, or to the end
of the input. It cannot be malformed.
-/

namespace Lexkit

/-- How the start of a line comment is recognised. -/
inductive CommentStart where
  | char (ch : Char)
  | mark (text : Text)
  | predicate (holds : Cursor → Bool)

namespace CommentStart

def isAt (start : CommentStart) (cursor : Cursor) : Bool :=
  match start with
  | char ch => cursor.peek == some ch
  | mark text => cursor.startsWith text
  | predicate holds => holds cursor

/-- A start that is a word in any mixture of upper and lower case letters of ASCII. -/
def word (word : Text) : CommentStart :=
  predicate fun cursor => (cursor.rest.take word.length).map Char.toLower == word.map Char.toLower

/-- A start mark that counts in the first column only. -/
def inFirstColumn (mark : Text) : CommentStart :=
  predicate fun cursor => cursor.position.column == 1 && cursor.startsWith mark

def describe : CommentStart → String
  | char ch => "Char(" ++ Literal.char ch ++ ")"
  | mark text => "Str(" ++ Literal.text text ++ ")"
  | predicate _ => "Predicate(..)"

end CommentStart

structure LineComment where
  start : CommentStart

namespace LineComment

def sql : LineComment := ⟨.mark ['-', '-']⟩

def describe (comment : LineComment) : String :=
  Literal.record "LineComment" [("start", comment.start.describe)]

/-! ### Walking the cursor -/

/-- The comment at the cursor with the character that ends its line. -/
def read (comment : LineComment) : Scan (Option Slice) := do
  let cursor ← Scan.here
  if cursor.atEnd || !comment.start.isAt cursor then
    return none
  Scan.goTo (cursor.skipWhile fun ch => !Text.isNewLine ch).advance
  return some (← Scan.sliceFrom cursor.offset)

/-! ### Searching the bytes -/

def isNewLineByte (byte : UInt8) : Bool := byte == 0x0A || byte == 0x0D || byte == 0x0B

/-- Whether the bytes from an offset on start a comment. -/
def startsAt (comment : LineComment) (cursor : Cursor) (ahead : List UInt8) : Bool :=
  match comment.start with
  | .char ch =>
    if ch.toNat < 0x80 then ahead.head? == some ch.toNat.toUInt8 else comment.start.isAt cursor
  | .mark mark => (Utf8.encode mark).isPrefixOf ahead
  | .predicate _ => comment.start.isAt cursor

def compile (comment : LineComment) : Compiled where
  expected := none
  run := do
    let cursor ← Scan.here
    let bytes := cursor.buffer.bytes
    let start := cursor.offset
    if bytes.length ≤ start then
      return none
    let ahead ← Scan.attempt (Utf8.dropTo bytes start)
    if !comment.startsAt cursor ahead then
      return none
    let stop :=
      match ahead.findIdx? isNewLineByte with
      | some index => start + index + 1
      | none => bytes.length
    return some (← Scan.commit start stop)

end LineComment

end Lexkit
