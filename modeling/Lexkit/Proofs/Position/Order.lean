import Mathlib.Data.Nat.SuccPred
import Mathlib.Data.Prod.Lex
import Mathlib.Order.Interval.Set.Monotone
import Lexkit.Proofs.Cursor

/-!
# The order of the places in a text

Positions are compared by offset before anything else, and a user sees only line and column. In one
text both tell the places apart in the same order. Offset and line go up along the text, but a
column goes down where a line ends, so a character makes line and column greater only as a pair of
which the line counts first. The places are numbered by the characters before them, and whatever
each character makes greater orders the places as these numbers do.
-/

namespace Lexkit

theorem Text.strictMonoOn_size_take (text : Text) :
    StrictMonoOn (fun count => size (text.take count)) (Set.Iic text.length) := by
  refine strictMonoOn_Iic_of_lt_succ fun count hcount => ?_
  have hpos := text[count].utf8Size_pos
  rw [Nat.succ_eq_succ, List.take_succ_eq_append_getElem hcount, size_append, size_cons]
  omega

namespace Position

variable {text left right leftRest rightRest : Text} {first second : Position} {a b : Nat}

/-- Line and column, of which the line counts first. -/
def lineColumn (position : Position) : ℕ ×ₗ ℕ := toLex (position.line, position.column)

theorem lt_iff_offset_or_lineColumn : first < second ↔
    first.offset < second.offset ∨
      first.offset = second.offset ∧ first.lineColumn < second.lineColumn := by
  change (compare first.offset second.offset).then
    ((compare first.line second.line).then (compare first.column second.column)) = .lt ↔ _
  rw [lineColumn, lineColumn, Prod.Lex.toLex_lt_toLex]
  simp only [Ordering.then_eq_lt, Nat.compare_eq_lt, Nat.compare_eq_eq]

/-- A line feed makes the line greater; another character leaves it and makes the column greater. -/
theorem lineColumn_lt_step (position : Position) (ch : Char) :
    position.lineColumn < (position.step ch).lineColumn := by
  rw [lineColumn, lineColumn, Prod.Lex.toLex_lt_toLex, step]
  split
  · exact .inl (Nat.lt_succ_self _)
  · exact .inr ⟨rfl, Nat.lt_succ_self _⟩

theorem strictMonoOn_lineColumn_take (base : Position) (text : Text) :
    StrictMonoOn (fun count => (base.stepOver (text.take count)).lineColumn)
      (Set.Iic text.length) := by
  refine strictMonoOn_Iic_of_lt_succ fun count hcount => ?_
  rw [Nat.succ_eq_succ, List.take_succ_eq_append_getElem hcount, stepOver_append,
    stepOver_cons, stepOver_nil]
  exact lineColumn_lt_step _ _

/-- Of two places, told by the texts before them, offset and line with column say the same. -/
theorem size_compares_lineColumn (base : Position) (hleft : left <+: text)
    (hright : right <+: text) :
    (Text.size left < Text.size right ↔
      (base.stepOver left).lineColumn < (base.stepOver right).lineColumn) ∧
    (Text.size left = Text.size right ↔
      (base.stepOver left).lineColumn = (base.stepOver right).lineColumn) := by
  obtain ⟨m, hm, rfl⟩ : ∃ m ∈ Set.Iic text.length, left = text.take m :=
    ⟨left.length, hleft.length_le, List.prefix_iff_eq_take.1 hleft⟩
  obtain ⟨n, hn, rfl⟩ : ∃ n ∈ Set.Iic text.length, right = text.take n :=
    ⟨right.length, hright.length_le, List.prefix_iff_eq_take.1 hright⟩
  have hsize := text.strictMonoOn_size_take
  have hlineColumn := strictMonoOn_lineColumn_take base text
  exact ⟨(hsize.lt_iff_lt hm hn).trans (hlineColumn.lt_iff_lt hm hn).symm,
    (hsize.eq_iff_eq hm hn).trans (hlineColumn.eq_iff_eq hm hn).symm⟩

/-- Positions counted from the start of a text. For two places of it, the position of the first is
before that of the second exactly if its offset is less, and exactly if its line and column are. And
line and column are the same only at the same offset. -/
theorem orders_agree (hleft : Text.cut text a = .ok (left, leftRest))
    (hright : Text.cut text b = .ok (right, rightRest)) :
    (start.stepOver left < start.stepOver right ↔ a < b) ∧
    (a < b ↔ (start.stepOver left).lineColumn < (start.stepOver right).lineColumn) ∧
    ((start.stepOver left).lineColumn = (start.stepOver right).lineColumn ↔ a = b) := by
  obtain ⟨htext, rfl⟩ := Text.cut_eq_ok hleft
  obtain ⟨htext', rfl⟩ := Text.cut_eq_ok hright
  obtain ⟨hless, heq⟩ := size_compares_lineColumn start
    (htext ▸ List.prefix_append left leftRest) (htext' ▸ List.prefix_append right rightRest)
  refine ⟨?_, hless, heq.symm⟩
  rw [lt_iff_offset_or_lineColumn, ← hless, offset_stepOver, offset_stepOver]
  omega

/-- The column goes back to one behind the line feed, but neither order does. -/
theorem orders_agree_line_feed :
    Text.cut ['é', '\n', 'b'] 2 = .ok (['é'], ['\n', 'b']) ∧
    Text.cut ['é', '\n', 'b'] 3 = .ok (['é', '\n'], ['b']) ∧
    (start.stepOver ['é', '\n']).column < (start.stepOver ['é']).column ∧
    start.stepOver ['é'] < start.stepOver ['é', '\n'] ∧
    (start.stepOver ['é']).lineColumn < (start.stepOver ['é', '\n']).lineColumn := by
  have hleft : Text.cut ['é', '\n', 'b'] 2 = .ok (['é'], ['\n', 'b']) := by decide
  have hright : Text.cut ['é', '\n', 'b'] 3 = .ok (['é', '\n'], ['b']) := by decide
  obtain ⟨hposition, hlineColumn, -⟩ := orders_agree hleft hright
  exact ⟨hleft, hright, by decide, hposition.2 (by decide), hlineColumn.1 (by decide)⟩

end Position

end Lexkit
