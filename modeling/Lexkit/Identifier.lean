import Lexkit.Compiled
import Lexkit.Text.Utf8

/-!
# Identifiers

A character that may start an identifier, and all characters after it that may be part of one.
-/

namespace Lexkit

/-- Identifiers made of characters that two predicates accept. -/
structure Identifier where
  isStart : Char → Bool
  isPart : Char → Bool

namespace Identifier

/-- An underscore or a letter of ASCII. -/
def isSimpleSqlStart (ch : Char) : Bool := ch == '_' || ch.isAlpha

/-- An underscore, or a letter or digit of ASCII. -/
def isSimpleSqlPart (ch : Char) : Bool := isSimpleSqlStart ch || ch.isDigit

def simpleSql : Identifier := ⟨isSimpleSqlStart, isSimpleSqlPart⟩

/-- The known characters that can start an identifier. -/
def expected (identifier : Identifier) : ExpectedChars := .ofPredicate identifier.isStart

def describe (identifier : Identifier) : String :=
  Literal.openRecord "CustomIdentifier" [("expected", identifier.expected.describe)]

/-! ### Walking the cursor -/

def scan (identifier : Identifier) : Scan (Option Slice) := do
  let cursor ← Scan.here
  match cursor.peek with
  | none => return none
  | some first =>
    if !identifier.isStart first then
      return none
    Scan.goTo (cursor.advance.skipWhile identifier.isPart)
    let name ← Scan.sliceFrom cursor.offset
    Scan.tell (.identifier cursor.offset name.size)
    return some name

/-! ### Searching the bytes -/

/-- The size of the character at an offset, if it is accepted. A table answers for the characters of
one byte, the predicate for all others. -/
def accepts (text : Text) (bytes : List UInt8) (table : ExpectedChars) (predicate : Char → Bool)
    (offset : Nat) : Except Fault (Option Nat) := do
  let byte ← Utf8.byteAt bytes offset
  if Utf8.isAscii byte then
    return if table.containsByte byte then some 1 else none
  else
    let ahead ← Text.dropTo text offset
    return (ahead.head?.filter predicate).map Char.utf8Size

theorem accepts_pos {text : Text} {bytes : List UInt8} {table : ExpectedChars}
    {predicate : Char → Bool} {offset width : Nat}
    (haccepts : accepts text bytes table predicate offset = .ok (some width)) : 0 < width := by
  unfold accepts at haccepts
  cases hbyte : Utf8.byteAt bytes offset with
  | error fault => simp [hbyte, bind, Except.bind] at haccepts
  | ok byte =>
    simp only [hbyte, bind, Except.bind, pure, Except.pure] at haccepts
    split at haccepts
    · split at haccepts <;> simp_all
      omega
    · cases hdrop : Text.dropTo text offset with
      | error fault => simp [hdrop] at haccepts
      | ok ahead =>
        simp only [hdrop, Except.ok.injEq, Option.map_eq_some_iff] at haccepts
        obtain ⟨ch, -, rfl⟩ := haccepts
        exact ch.utf8Size_pos

/-- The offset after the longest run of accepted characters. -/
def runFrom (text : Text) (bytes : List UInt8) (table : ExpectedChars) (predicate : Char → Bool)
    (offset : Nat) : Except Fault Nat :=
  if offset < bytes.length then
    match _ : accepts text bytes table predicate offset with
    | .error fault => .error fault
    | .ok none => .ok offset
    | .ok (some width) => runFrom text bytes table predicate (offset + width)
  else .ok offset
termination_by bytes.length - offset
decreasing_by
  have := accepts_pos ‹accepts _ _ _ _ _ = _›
  omega

def compile (identifier : Identifier) : Compiled :=
  let startTable := identifier.expected
  let partTable := ExpectedChars.ofPredicate identifier.isPart
  { expected := some startTable
    run := do
      let cursor ← Scan.here
      let text := cursor.buffer.text
      let bytes := cursor.buffer.bytes
      let start := cursor.offset
      if bytes.length ≤ start then
        return none
      match ← Scan.attempt (accepts text bytes startTable identifier.isStart start) with
      | none => return none
      | some width =>
        let stop ← Scan.attempt
          (runFrom text bytes partTable identifier.isPart (start + width))
        return some (← Scan.commit start stop) }

end Identifier

end Lexkit
