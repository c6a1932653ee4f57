import Lexkit.Compiled
import Lexkit.Text.Utf8

/-!
# Block comments

A block comment stands between two marks. Where comments nest, every start mark inside must be
balanced by an end mark. Where they do not, a start mark inside shows that the comment was never
closed, and the error points at that mark. At every place the start mark is looked for first.
-/

namespace Lexkit

/-- A comment between two marks, neither of which is empty. -/
structure BlockComment where
  startMark : Text
  endMark : Text
  nesting : Bool
  start_ne_nil : startMark ≠ []
  end_ne_nil : endMark ≠ []
  deriving DecidableEq

namespace BlockComment

/-- The comment with the given marks, neither of which may be empty. -/
def make (startMark endMark : Text) (nesting : Bool) : Except ConfigError BlockComment :=
  if hstart : startMark = [] then .error .emptyCommentMark
  else if hend : endMark = [] then .error .emptyCommentMark
  else .ok ⟨startMark, endMark, nesting, hstart, hend⟩

/-- Nested comments between slash-star and star-slash. -/
def sql : BlockComment := ⟨['/', '*'], ['*', '/'], true, by decide, by decide⟩

/-- Comments between slash-star and star-slash that do not nest. -/
def cStyle : BlockComment := ⟨['/', '*'], ['*', '/'], false, by decide, by decide⟩

def describe (comment : BlockComment) : String :=
  Literal.record "BlockComment"
    [("start", Literal.text comment.startMark), ("end", Literal.text comment.endMark),
      ("nesting", toString comment.nesting)]

/-! ### Walking the cursor -/

theorem rest_ne_nil {cursor : Cursor} {mark : Text} (hmark : mark ≠ [])
    (hstarts : cursor.startsWith mark = true) : cursor.rest ≠ [] := by
  intro hrest
  obtain ⟨ch, others, rfl⟩ := List.exists_cons_of_ne_nil hmark
  simp [Cursor.startsWith, hrest] at hstarts

theorem length_rest_skip {cursor : Cursor} {mark : Text} (hmark : mark ≠ [])
    (hstarts : cursor.startsWith mark = true) :
    (cursor.skip mark.length).rest.length < cursor.rest.length :=
  Cursor.length_rest_skip (rest_ne_nil hmark hstarts)
    (Nat.ne_of_gt (List.length_pos_iff.2 hmark))

/-- The cursor after the end mark that closes as many comments as have been opened, or the cursor at
which the end mark turns out to be missing. -/
def closeCounted (comment : BlockComment) (opened closed : Nat) (cursor : Cursor) :
    Except Cursor Cursor :=
  if cursor.atEnd then .error cursor
  else if cursor.startsWith comment.startMark then
    comment.closeCounted (opened + 1) closed (cursor.skip comment.startMark.length)
  else if cursor.startsWith comment.endMark then
    let after := cursor.skip comment.endMark.length
    if opened ≤ closed + 1 then .ok after else comment.closeCounted opened (closed + 1) after
  else comment.closeCounted opened closed cursor.advance
termination_by cursor.rest.length
decreasing_by
  · exact length_rest_skip comment.start_ne_nil ‹_›
  · exact length_rest_skip comment.end_ne_nil ‹_›
  · exact Cursor.length_rest_advance (mt Cursor.atEnd_iff.2 ‹_›)

/-- The cursor after the first end mark, or the cursor at the end of the input. Where a start mark
comes first the cursor goes back to the last one inside the comment, which is `safe`. -/
def closeKept (comment : BlockComment) (safe cursor : Cursor) : Except Cursor Cursor :=
  if cursor.atEnd then .error cursor
  else if cursor.startsWith comment.startMark then .error safe
  else if cursor.startsWith comment.endMark then .ok (cursor.skip comment.endMark.length)
  else comment.closeKept cursor.advance cursor.advance
termination_by cursor.rest.length
decreasing_by
  exact Cursor.length_rest_advance (mt Cursor.atEnd_iff.2 ‹_›)

/-- Where a comment whose start mark has been passed ends, or where its end is found missing. -/
def close (comment : BlockComment) (cursor : Cursor) : Except Cursor Cursor :=
  if cursor.atEnd then .error cursor
  else if comment.nesting then comment.closeCounted 1 0 cursor
  else comment.closeKept cursor cursor

/-- The comment at the cursor with both of its marks. -/
def read (comment : BlockComment) : Scan (Option Slice) := do
  let cursor ← Scan.here
  if cursor.atEnd || !cursor.startsWith comment.startMark then
    return none
  match comment.close (cursor.skip comment.startMark.length) with
  | .ok after =>
    Scan.goTo after
    return some (← Scan.sliceFrom cursor.offset)
  | .error missing =>
    Scan.goTo missing
    Scan.tell (.unterminatedComment missing.position comment.endMark)
    Scan.malformed (.missingEndComment comment.endMark missing.position)

/-! ### Searching the bytes -/

inductive Found where
  /-- The comment ends at an offset. -/
  | closed (offset : Nat)
  /-- The end mark turns out to be missing at an offset. -/
  | missing (offset : Nat)

/-- The marks in the form in which they are searched for. -/
structure Marks where
  startBytes : List UInt8
  endBytes : List UInt8
  /-- The first characters of the marks; nothing happens at any other character. -/
  startLead : Char
  endLead : Char
  nesting : Bool
  start_ne_nil : startBytes ≠ []
  end_ne_nil : endBytes ≠ []

theorem encode_ne_nil {mark : Text} (hmark : mark ≠ []) : Utf8.encode mark ≠ [] := by
  obtain ⟨ch, others, rfl⟩ := List.exists_cons_of_ne_nil hmark
  have hpos := ch.utf8Size_pos
  intro hnil
  have hlength := congrArg List.length hnil
  simp only [Utf8.length_encode, Text.size_cons, List.length_nil] at hlength
  omega

def marks (comment : BlockComment) : Marks where
  startBytes := Utf8.encode comment.startMark
  endBytes := Utf8.encode comment.endMark
  startLead := comment.startMark.head comment.start_ne_nil
  endLead := comment.endMark.head comment.end_ne_nil
  nesting := comment.nesting
  start_ne_nil := encode_ne_nil comment.start_ne_nil
  end_ne_nil := encode_ne_nil comment.end_ne_nil

theorem add_length_le {mark bytes rest : List UInt8} {offset : Nat} (hmark : mark ≠ [])
    (hrest : Utf8.dropTo bytes offset = .ok rest) (hstarts : mark.isPrefixOf rest = true) :
    offset < offset + mark.length ∧ offset + mark.length ≤ bytes.length := by
  have hlength := (List.isPrefixOf_iff_prefix.1 hstarts).length_le
  have hpos := List.length_pos_iff.2 hmark
  rw [Utf8.dropTo_eq_ok hrest, List.length_drop] at hlength
  omega

/-- Searches for the end of a comment from an offset on, leaping from one first character of a mark
to the next, and counts the marks that open and the marks that close. -/
def Marks.search (marks : Marks) (text : Text) (bytes : List UInt8) (opened closed offset : Nat) :
    Except Fault Found :=
  match Text.dropTo text offset with
  | .error fault => .error fault
  | .ok ahead =>
    match ahead.offsetOf? fun ch => ch == marks.startLead || ch == marks.endLead with
    | none => .ok (.missing bytes.length)
    | some leap =>
      match _ : Utf8.dropTo bytes (offset + leap) with
      | .error fault => .error fault
      | .ok rest =>
        if marks.startBytes.isPrefixOf rest then
          if marks.nesting then
            marks.search text bytes (opened + 1) closed (offset + leap + marks.startBytes.length)
          else .ok (.missing (offset + leap))
        else if marks.endBytes.isPrefixOf rest then
          if !marks.nesting || opened ≤ closed + 1 then
            .ok (.closed (offset + leap + marks.endBytes.length))
          else
            marks.search text bytes opened (closed + 1) (offset + leap + marks.endBytes.length)
        else
          match _ : Utf8.byteAt bytes (offset + leap) with
          | .error fault => .error fault
          | .ok lead => marks.search text bytes opened closed (offset + leap + Utf8.leadLength lead)
termination_by bytes.length - offset
decreasing_by
  · have := add_length_le marks.start_ne_nil ‹_› ‹_›
    omega
  · have := add_length_le marks.end_ne_nil ‹_› ‹_›
    omega
  · have := Utf8.byteAt_eq_ok ‹_›
    have := Utf8.leadLength_pos lead
    omega

def compile (comment : BlockComment) : Compiled :=
  let marks := comment.marks
  { expected := none
    run := do
      let cursor ← Scan.here
      let text := cursor.buffer.text
      let bytes := cursor.buffer.bytes
      let start := cursor.offset
      if bytes.length ≤ start then
        return none
      let ahead ← Scan.attempt (Utf8.dropTo bytes start)
      if !marks.startBytes.isPrefixOf ahead then
        return none
      match ← Scan.attempt (marks.search text bytes 1 0 (start + marks.startBytes.length)) with
      | .closed stop => return some (← Scan.commit start stop)
      | .missing offset => Scan.failAt offset (.missingEndComment comment.endMark) }

end BlockComment

end Lexkit
