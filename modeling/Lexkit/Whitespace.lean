import Lexkit.Comment.Block
import Lexkit.Comment.Line
import Lexkit.Scan.Loop

/-!
# Whitespace and comments

What may stand between tokens: runs of blank characters, comments, and whatever else a rule skips.
The units are tried one after the other in passes over the whole list, until a pass skips nothing. A
custom rule that keeps claiming to have skipped something where it did not keeps the passes going.
-/

namespace Lexkit

/-- A rule that skips something at a cursor. It answers whether it skipped anything, or with an
error, and leaves a cursor behind. A rule that answers yes must have moved forward. -/
structure SkipRule where
  apply : Cursor → Except ScanError Bool × Cursor

namespace SkipRule

/-- Skips the longest run of characters that satisfy `p`. -/
def run (p : Char → Bool) : SkipRule where
  apply cursor :=
    let (taken, after) := cursor.consumeWhile p
    (.ok !taken.isEmpty, after)

/-- Refuses every character that satisfies `p`. -/
def refuse (p : Char → Bool) : SkipRule where
  apply cursor :=
    if cursor.peek.any p then (.error (.zeroLengthIdentifier cursor.position), cursor)
    else (.ok false, cursor)

/-- Passes a character that satisfies `p` and answers that nothing was skipped. -/
def silent (p : Char → Bool) : SkipRule where
  apply cursor := (.ok false, if cursor.peek.any p then cursor.advance else cursor)

def scan (rule : SkipRule) : Scan Bool := fun cursor =>
  match rule.apply cursor with
  | (.ok skipped, after) => .done skipped after
  | (.error error, after) => .malformed error after

end SkipRule

/-- One kind of thing that is skipped. -/
inductive SkipUnit where
  /-- The longest run of blank characters. -/
  | blanks
  | line (comment : LineComment)
  | block (comment : BlockComment)
  | custom (rule : SkipRule)

/-- The units that count as whitespace, in the order in which they are tried. -/
structure Whitespace where
  units : List SkipUnit

def Scan.isMatch (scan : Scan (Option Slice)) : Scan Bool := do
  return (← scan).isSome

namespace SkipUnit

def describe : SkipUnit → String
  | blanks => "Whitespace"
  | line comment => "LineComment(" ++ comment.describe ++ ")"
  | block comment => "BlockComment(" ++ comment.describe ++ ")"
  | custom _ => "Custom(..)"

/-- Skips one unit by walking the cursor. -/
def skip : SkipUnit → Scan Bool
  | blanks => do
    let (taken, after) := (← Scan.here).consumeWhile Text.isBlank
    Scan.goTo after
    return !taken.isEmpty
  | line comment => comment.read.isMatch
  | block comment => comment.read.isMatch
  | custom rule => rule.scan

def isBlankByte (byte : UInt8) : Bool := byte == 0x20 || (0x09 ≤ byte && byte ≤ 0x0D)

/-- The offset after the longest run of blank characters. -/
def blanksFrom (text : Text) (bytes : List UInt8) (offset : Nat) : Except Fault Nat :=
  if offset < bytes.length then
    match Utf8.byteAt bytes offset with
    | .error fault => .error fault
    | .ok byte =>
      if Utf8.isAscii byte then
        if isBlankByte byte then blanksFrom text bytes (offset + 1) else .ok offset
      else
        match Text.dropTo text offset with
        | .error fault => .error fault
        | .ok ahead =>
          if ahead.head?.any Text.isBlank then blanksFrom text bytes (offset + Utf8.leadLength byte)
          else .ok offset
  else .ok offset
termination_by bytes.length - offset
decreasing_by
  · omega
  · have := Utf8.leadLength_pos byte
    omega

/-- Skips blank characters by searching the bytes. -/
def skipBlanks : Scan Bool := do
  let cursor ← Scan.here
  let stop ← Scan.attempt (blanksFrom cursor.buffer.text cursor.buffer.bytes cursor.offset)
  if stop = cursor.offset then
    return false
  Scan.seek stop
  return true

/-- Skips one unit by searching the bytes; a custom rule has no other form. -/
def compile : SkipUnit → Scan Bool
  | blanks => skipBlanks
  | line comment => comment.compile.run.isMatch
  | block comment => comment.compile.run.isMatch
  | custom rule => rule.scan

end SkipUnit

namespace Whitespace

/-- Blank characters, line comments after two hyphens, and nested block comments. -/
def sql : Whitespace := ⟨[.blanks, .line .sql, .block .sql]⟩

def describe (whitespace : Whitespace) : String :=
  Literal.record "ExtendedWhitespace"
    [("units", Literal.list (whitespace.units.map SkipUnit.describe))]

/-- Tries every unit once, in order, and answers whether any skipped something. -/
def pass : List (Scan Bool) → Scan Bool
  | [] => return false
  | unit :: units => do
    let first ← unit
    let others ← pass units
    return first || others

/-- Makes passes until one skips nothing, and answers whether anything was skipped. -/
def passes (units : List (Scan Bool)) : Scan Bool := (pass units).untilNo

/-- Skips as much as possible by walking the cursor. -/
def skip (whitespace : Whitespace) : Scan Bool := passes (whitespace.units.map SkipUnit.skip)

/-- Skips as much as possible by searching the bytes. -/
def compileSkip (whitespace : Whitespace) : Scan Bool :=
  passes (whitespace.units.map SkipUnit.compile)

def read (whitespace : Whitespace) : Scan (Option Slice) := do
  let start ← Scan.here
  if ← whitespace.skip then
    return some (← Scan.sliceFrom start.offset)
  else return none

def compile (whitespace : Whitespace) : Compiled :=
  let skip := whitespace.compileSkip
  { expected := none
    run := do
      let start ← Scan.here
      if ← skip then
        let stop ← Scan.here
        return some (← Scan.commit start.offset stop.offset)
      else return none }

end Whitespace

end Lexkit
