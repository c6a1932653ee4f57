import Lexkit.Error

/-!
# Positions in a part of a text

A text has a position in itself, and another one in every longer text that ends with it. `rebase`
leads from the first to the second: it counts on from the position at which the part starts.
`relativeTo` leads back. Stepping over a text is the same in both, as long as lines and columns
count from one, and counting on is associative; so a place may be told relative to any place before
it.
-/

namespace Lexkit

namespace Position

/-- Lines and columns count from one. -/
structure FromOne (position : Position) : Prop where
  line : 1 ≤ position.line
  column : 1 ≤ position.column

/-- The position of a place in a whole text, of which `position` is the one in a part that starts at
`base`. Only on its first line the part goes on with a line of the whole. -/
def rebase (position base : Position) : Position where
  offset := base.offset + position.offset
  line := base.line + position.line - 1
  column := if position.line = 1 then base.column + position.column - 1 else position.column

/-- The position of a place in the part of a text that starts at `base`. -/
def relativeTo (position base : Position) : Position where
  offset := position.offset - base.offset
  line := position.line - (base.line - 1)
  column :=
    if position.line = base.line then position.column - (base.column - 1) else position.column

variable {position further : Position} {base : Position}

theorem eq_of_column_eq {left right : Position} (hoffset : left.offset = right.offset)
    (hline : left.line = right.line) (hcolumn : left.column = right.column) : left = right := by
  obtain ⟨offset, line, column⟩ := left
  obtain ⟨offset', line', column'⟩ := right
  exact (mk.injEq ..).mpr ⟨hoffset, hline, hcolumn⟩

/-! ### Positions that count from one -/

theorem fromOne_start : start.FromOne := ⟨Nat.le_refl 1, Nat.le_refl 1⟩

theorem FromOne.step (hone : position.FromOne) (ch : Char) : (position.step ch).FromOne := by
  have hline := hone.line
  unfold Position.step
  split
  · exact ⟨Nat.le_add_left _ _, Nat.le_refl 1⟩
  · exact ⟨hline, Nat.le_add_left _ _⟩

theorem FromOne.stepOver (hone : position.FromOne) (text : Text) :
    (position.stepOver text).FromOne := by
  induction text generalizing position with
  | nil => exact hone
  | cons ch text ih => exact ih (hone.step ch)

/-! ### Counting on -/

@[simp] theorem offset_rebase (position base : Position) :
    (position.rebase base).offset = base.offset + position.offset := rfl

theorem line_rebase (position base : Position) :
    (position.rebase base).line = base.line + position.line - 1 := rfl

theorem column_rebase_of_first (hfirst : position.line = 1) (base : Position) :
    (position.rebase base).column = base.column + position.column - 1 := if_pos hfirst

theorem column_rebase_of_later (hlater : position.line ≠ 1) (base : Position) :
    (position.rebase base).column = position.column := if_neg hlater

@[simp] theorem rebase_start (base : Position) : start.rebase base = base := rfl

theorem FromOne.rebase (hone : position.FromOne) (hbase : base.FromOne) :
    (position.rebase base).FromOne := by
  obtain ⟨hline, hcolumn⟩ := hone
  obtain ⟨hbaseline, hbasecolumn⟩ := hbase
  refine ⟨by rw [line_rebase]; omega, ?_⟩
  by_cases hfirst : position.line = 1
  · rw [column_rebase_of_first hfirst]
    omega
  · rwa [column_rebase_of_later hfirst]

theorem step_rebase (hone : position.FromOne) (base : Position) (ch : Char) :
    (position.rebase base).step ch = (position.step ch).rebase base := by
  obtain ⟨hline, hcolumn⟩ := hone
  by_cases hch : (ch == '\n') = true
  · have hstep (place : Position) :
        place.step ch = ⟨place.offset + ch.utf8Size, place.line + 1, 1⟩ := if_pos hch
    -- A line feed ends the line on which the part started, so the column is the part's own.
    have hlater : position.line + 1 ≠ 1 := by omega
    rw [hstep, hstep]
    refine eq_of_column_eq (Nat.add_assoc _ _ _) ?_ (if_neg hlater).symm
    change base.line + position.line - 1 + 1 = base.line + (position.line + 1) - 1
    omega
  · have hstep (place : Position) :
        place.step ch = ⟨place.offset + ch.utf8Size, place.line, place.column + 1⟩ := if_neg hch
    rw [hstep, hstep]
    refine eq_of_column_eq (Nat.add_assoc _ _ _) rfl ?_
    change (position.rebase base).column + 1 = if position.line = 1 then _ else _
    by_cases hfirst : position.line = 1
    · rw [column_rebase_of_first hfirst, if_pos hfirst]
      change base.column + position.column - 1 + 1 = base.column + (position.column + 1) - 1
      omega
    · rw [column_rebase_of_later hfirst, if_neg hfirst]

theorem stepOver_rebase (hone : position.FromOne) (base : Position) (text : Text) :
    (position.rebase base).stepOver text = (position.stepOver text).rebase base := by
  induction text generalizing position with
  | nil => rfl
  | cons ch text ih =>
    rw [stepOver_cons, stepOver_cons, step_rebase hone, ih (hone.step ch)]

/-- Counting on twice is counting on from where the first count came to. -/
theorem rebase_rebase (hposition : position.FromOne) (hfurther : further.FromOne)
    (base : Position) :
    (further.rebase position).rebase base = further.rebase (position.rebase base) := by
  obtain ⟨hline, hcolumn⟩ := hposition
  obtain ⟨hfurtherline, hfurthercolumn⟩ := hfurther
  have hmiddle : (further.rebase position).line = position.line + further.line - 1 := rfl
  refine eq_of_column_eq (Nat.add_assoc _ _ _).symm ?_ ?_
  · rw [line_rebase, line_rebase, line_rebase, line_rebase]
    omega
  · by_cases hfirst : further.line = 1
    · rw [column_rebase_of_first hfirst (position.rebase base)]
      by_cases hstart : position.line = 1
      · rw [column_rebase_of_first (by omega), column_rebase_of_first hfirst,
          column_rebase_of_first hstart]
        omega
      · rw [column_rebase_of_later (by omega), column_rebase_of_first hfirst,
          column_rebase_of_later hstart]
    · rw [column_rebase_of_later (by omega), column_rebase_of_later hfirst,
        column_rebase_of_later hfirst]

theorem relativeTo_rebase (hposition : position.FromOne) (hbase : base.FromOne) :
    (position.rebase base).relativeTo base = position := by
  obtain ⟨hline, hcolumn⟩ := hposition
  obtain ⟨hbaseline, hbasecolumn⟩ := hbase
  have hwhole := line_rebase position base
  refine eq_of_column_eq (Nat.add_sub_cancel_left _ _) ?_ ?_
  · change (position.rebase base).line - (base.line - 1) = position.line
    omega
  · by_cases hfirst : position.line = 1
    · refine (if_pos (by omega)).trans ?_
      rw [column_rebase_of_first hfirst]
      omega
    · exact (if_neg (by omega)).trans (column_rebase_of_later hfirst base)

end Position

namespace ScanError

/-- The error as it is found in a whole text, of which the part starts at `base`. -/
def rebase (error : ScanError) (base : Position) : ScanError :=
  match error with
  | missingEndComment mark position => missingEndComment mark (position.rebase base)
  | unclosedQuote quote position => unclosedQuote quote (position.rebase base)
  | zeroLengthIdentifier position => zeroLengthIdentifier (position.rebase base)

@[simp] theorem position_rebase (error : ScanError) (base : Position) :
    (error.rebase base).position = error.position.rebase base := by
  cases error <;> rfl

theorem rebase_rebase {error : ScanError} {position : Position} (hposition : position.FromOne)
    (herror : error.position.FromOne) (base : Position) :
    (error.rebase position).rebase base = error.rebase (position.rebase base) := by
  cases error with
  | missingEndComment mark place =>
    exact congrArg (missingEndComment mark) (Position.rebase_rebase hposition herror base)
  | unclosedQuote quote place =>
    exact congrArg (unclosedQuote quote) (Position.rebase_rebase hposition herror base)
  | zeroLengthIdentifier place =>
    exact congrArg zeroLengthIdentifier (Position.rebase_rebase hposition herror base)

end ScanError

end Lexkit
