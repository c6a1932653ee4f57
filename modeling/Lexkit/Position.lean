import Lexkit.Text.Basic

/-!
# Positions

Where a character stands: the bytes before it, and its line and column. Lines and columns count from
one, a column counts characters, and only a line feed starts a line.
-/

namespace Lexkit

/-- The bytes before a place, its line, and its column. -/
structure Position where
  offset : Nat
  line : Nat
  column : Nat
  deriving DecidableEq, Repr

namespace Position

/-- The position before the first character. -/
def start : Position := ⟨0, 1, 1⟩

/-- The position after a character. -/
def step (position : Position) (ch : Char) : Position :=
  if ch == '\n' then ⟨position.offset + ch.utf8Size, position.line + 1, 1⟩
  else ⟨position.offset + ch.utf8Size, position.line, position.column + 1⟩

/-- The position after every character of a text. -/
def stepOver (position : Position) (text : Text) : Position :=
  text.foldl step position

/-- Positions are ordered by offset, then line, then column. -/
instance : Ord Position where
  compare left right :=
    (compare left.offset right.offset).then
      ((compare left.line right.line).then (compare left.column right.column))

instance : LT Position := ltOfOrd

/-- Line, column and offset as they are shown to a user. -/
def display (position : Position) : String :=
  toString position.line ++ ":" ++ toString position.column ++
    " (offset " ++ toString position.offset ++ ")"

@[simp] theorem offset_step (position : Position) (ch : Char) :
    (position.step ch).offset = position.offset + ch.utf8Size := by
  unfold step
  split <;> rfl

@[simp] theorem stepOver_nil (position : Position) : position.stepOver [] = position := rfl

@[simp] theorem stepOver_cons (position : Position) (ch : Char) (text : Text) :
    position.stepOver (ch :: text) = (position.step ch).stepOver text := rfl

@[simp] theorem stepOver_append (position : Position) (left right : Text) :
    position.stepOver (left ++ right) = (position.stepOver left).stepOver right := by
  simp [stepOver]

@[simp] theorem offset_stepOver (position : Position) (text : Text) :
    (position.stepOver text).offset = position.offset + Text.size text := by
  induction text generalizing position with
  | nil => simp
  | cons ch text ih => simp [ih, Nat.add_assoc]

end Position

end Lexkit
