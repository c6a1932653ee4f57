import Lexkit.Position
import Lexkit.Slice

/-!
# Cursors

A cursor stands in a buffer before the text that is still to be read. It is a value: moving it gives
another cursor, and keeping the old one is all that is needed to come back to it. The two proofs in
the structure say that it stands between two characters of its buffer and knows its offset; its line
and column are whatever it was started with, stepped over what it has passed.
-/

namespace Lexkit

/-- A place in a buffer and the text ahead of it. -/
structure Cursor where
  buffer : Buffer
  /-- The text from the cursor to the end of the buffer. -/
  rest : Text
  position : Position
  rest_suffix : rest <:+ buffer.text
  offset_add_size : position.offset + Text.size rest = Text.size buffer.text
  deriving DecidableEq

namespace Cursor

/-- The cursor before the first character of a buffer. -/
def ofBuffer (buffer : Buffer) : Cursor where
  buffer := buffer
  rest := buffer.text
  position := .start
  rest_suffix := List.suffix_refl _
  offset_add_size := Nat.zero_add _

/-- The cursor before a text that stands in a buffer of its own. -/
def ofText (text : Text) : Cursor := ofBuffer (.ofText 0 text)

/-- The bytes before the cursor. -/
def offset (cursor : Cursor) : Nat := cursor.position.offset

def atEnd (cursor : Cursor) : Bool := cursor.rest.isEmpty

theorem atEnd_iff {cursor : Cursor} : cursor.atEnd = true ↔ cursor.rest = [] := List.isEmpty_iff

def peek (cursor : Cursor) : Option Char := cursor.rest.head?

/-- The character after the next `n` characters. -/
def peekNth (cursor : Cursor) (n : Nat) : Option Char := cursor.rest[n]?

def startsWith (cursor : Cursor) (literal : Text) : Bool := literal.isPrefixOf cursor.rest

/-- The cursor after the first part of the text ahead of it. -/
def pass (cursor : Cursor) (taken rest : Text) (hrest : cursor.rest = taken ++ rest) : Cursor where
  buffer := cursor.buffer
  rest := rest
  position := cursor.position.stepOver taken
  rest_suffix :=
    (hrest ▸ List.suffix_append taken rest : rest <:+ cursor.rest).trans cursor.rest_suffix
  offset_add_size := by
    rw [← cursor.offset_add_size, hrest, Position.offset_stepOver, Text.size_append, Nat.add_assoc]

/-- The cursor after the next character, or where it was when nothing is left. -/
def advance (cursor : Cursor) : Cursor :=
  match hrest : cursor.rest with
  | [] => cursor
  | ch :: rest => cursor.pass [ch] rest hrest

/-- Advances by `n` characters or to the end, and counts the characters passed. -/
def advanceBy : Nat → Cursor → Nat × Cursor
  | 0, cursor => (0, cursor)
  | n + 1, cursor =>
    match cursor.rest with
    | [] => (0, cursor)
    | _ :: _ =>
      let (count, last) := advanceBy n cursor.advance
      (count + 1, last)

/-- The cursor after `n` characters, or at the end. -/
def skip (cursor : Cursor) (n : Nat) : Cursor := (advanceBy n cursor).2

/-- The cursor after the longest run of characters that satisfy `p`. -/
def skipWhile (cursor : Cursor) (p : Char → Bool) : Cursor :=
  cursor.pass (cursor.rest.takeWhile p) (cursor.rest.dropWhile p)
    List.takeWhile_append_dropWhile.symm

/-- The longest run of characters that satisfy `p`, and the cursor after it. -/
def consumeWhile (cursor : Cursor) (p : Char → Bool) : Slice × Cursor :=
  (⟨cursor.buffer, cursor.offset, cursor.rest.takeWhile p⟩, cursor.skipWhile p)

def toEnd (cursor : Cursor) : Cursor := cursor.pass cursor.rest [] (List.append_nil _).symm

/-- The next `n` characters, or all that are left. -/
def peekSlice (cursor : Cursor) (n : Nat) : Slice :=
  ⟨cursor.buffer, cursor.offset, cursor.rest.take n⟩

def remaining (cursor : Cursor) : Slice := ⟨cursor.buffer, cursor.offset, cursor.rest⟩

def slice (cursor : Cursor) (start stop : Nat) : Except Fault Slice :=
  Slice.make cursor.buffer start stop

def sliceFrom (cursor : Cursor) (start : Nat) : Except Fault Slice :=
  cursor.slice start cursor.offset

/-- The position of an offset that is not behind the cursor. -/
def positionAt (cursor : Cursor) (offset : Nat) : Except Fault Position :=
  if offset < cursor.offset then .error .backward
  else do
    let passed ← Text.between cursor.buffer.text cursor.offset offset
    return cursor.position.stepOver passed

/-- The cursor at an offset that is not behind it. -/
def seek (cursor : Cursor) (offset : Nat) : Except Fault Cursor :=
  if offset < cursor.offset then .error .backward
  else
    match hcut : Text.cut cursor.rest (offset - cursor.offset) with
    | .ok (taken, rest) => .ok (cursor.pass taken rest (Text.cut_eq_ok hcut).1)
    | .error fault => .error fault

def reset (cursor : Cursor) : Cursor := ofBuffer cursor.buffer

/-! ### What moving does to the text ahead -/

@[simp] theorem rest_pass (cursor : Cursor) (taken rest : Text)
    (hrest : cursor.rest = taken ++ rest) : (cursor.pass taken rest hrest).rest = rest := rfl

@[simp] theorem rest_advance (cursor : Cursor) : cursor.advance.rest = cursor.rest.tail := by
  unfold advance
  split <;> simp_all

@[simp] theorem rest_skip (cursor : Cursor) (n : Nat) :
    (cursor.skip n).rest = cursor.rest.drop n := by
  unfold skip
  induction n generalizing cursor with
  | zero => simp [advanceBy]
  | succ n ih =>
    rw [advanceBy]
    split
    · simp_all
    · rename_i hrest
      simp [ih, hrest]

@[simp] theorem rest_skipWhile (cursor : Cursor) (p : Char → Bool) :
    (cursor.skipWhile p).rest = cursor.rest.dropWhile p := rfl

@[simp] theorem rest_toEnd (cursor : Cursor) : cursor.toEnd.rest = [] := rfl

/-- Advancing before a character leaves less to read. -/
theorem length_rest_advance {cursor : Cursor} (hrest : cursor.rest ≠ []) :
    cursor.advance.rest.length < cursor.rest.length := by
  have := List.length_pos_iff.2 hrest
  simp only [rest_advance, List.length_tail]
  omega

/-- Skipping at least one character leaves less to read. -/
theorem length_rest_skip {cursor : Cursor} {n : Nat} (hrest : cursor.rest ≠ []) (hn : n ≠ 0) :
    (cursor.skip n).rest.length < cursor.rest.length := by
  have := List.length_pos_iff.2 hrest
  simp only [rest_skip, List.length_drop]
  omega

end Cursor

end Lexkit
