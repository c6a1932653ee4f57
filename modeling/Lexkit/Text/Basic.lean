import Lexkit.Fault

/-!
# Texts

A text is a list of characters. Its size is the number of bytes of its UTF-8 form, and every offset
in this library counts bytes in that sense. Cutting a text at an offset is refused unless the offset
stands between two characters.
-/

namespace Lexkit

/-- A sequence of characters. -/
abbrev Text := List Char

namespace Text

/-- The number of bytes of the UTF-8 form. -/
def size : Text → Nat
  | [] => 0
  | ch :: text => ch.utf8Size + size text

@[simp] theorem size_nil : size [] = 0 := rfl

@[simp] theorem size_cons (ch : Char) (text : Text) :
    size (ch :: text) = ch.utf8Size + size text := rfl

@[simp] theorem size_append (left right : Text) :
    size (left ++ right) = size left + size right := by
  induction left with
  | nil => simp
  | cons ch left ih => simp [ih, Nat.add_assoc]

/-- The halves of a text before and after a byte offset. -/
def cut : Text → Nat → Except Fault (Text × Text)
  | text, 0 => .ok ([], text)
  | [], _ + 1 => .error .outOfRange
  | ch :: text, offset + 1 =>
    if ch.utf8Size ≤ offset + 1 then
      match cut text (offset + 1 - ch.utf8Size) with
      | .ok (before, after) => .ok (ch :: before, after)
      | .error fault => .error fault
    else .error .splitsChar

/-- The text from a byte offset on. -/
def dropTo : Text → Nat → Except Fault Text
  | text, 0 => .ok text
  | [], _ + 1 => .error .outOfRange
  | ch :: text, offset + 1 =>
    if ch.utf8Size ≤ offset + 1 then dropTo text (offset + 1 - ch.utf8Size)
    else .error .splitsChar

/-- The text between two byte offsets. -/
def between (text : Text) (start stop : Nat) : Except Fault Text :=
  if stop < start then .error .reversed
  else do
    let after ← dropTo text start
    let (inside, _) ← cut after (stop - start)
    return inside

/-- The byte offset of the first character that satisfies `p`. -/
def offsetOf? (p : Char → Bool) : Text → Option Nat
  | [] => none
  | ch :: text => if p ch then some 0 else (offsetOf? p text).map (ch.utf8Size + ·)

/-- The halves make the text, and the first has the size asked for. -/
theorem cut_eq_ok {text before after : Text} {offset : Nat}
    (hcut : cut text offset = .ok (before, after)) :
    text = before ++ after ∧ size before = offset := by
  fun_induction cut text offset generalizing before after with
  | case1 text => simp_all
  | case2 => simp at hcut
  | case3 ch text offset hfits before' after' heq ih =>
    obtain ⟨hbefore, hafter⟩ : ch :: before' = before ∧ after' = after := by
      simpa using hcut
    obtain ⟨htext, hsize⟩ := ih heq
    subst hbefore hafter
    refine ⟨by simp [htext], ?_⟩
    rw [size_cons, hsize]
    omega
  | case4 => simp at hcut
  | case5 => simp at hcut

/-- Dropping gives the second half of a cut. -/
theorem dropTo_eq_map_cut (text : Text) (offset : Nat) :
    dropTo text offset = (cut text offset).map Prod.snd := by
  fun_induction cut text offset with
  | case1 => simp [dropTo, Except.map]
  | case2 => simp [dropTo, Except.map]
  | case3 ch text offset hfits before after heq ih => simp [dropTo, hfits, ih, heq, Except.map]
  | case4 ch text offset hfits fault heq ih => simp [dropTo, hfits, ih, heq, Except.map]
  | case5 ch text offset hfits => simp [dropTo, hfits, Except.map]

theorem dropTo_eq_ok {text after : Text} {offset : Nat} (hdrop : dropTo text offset = .ok after) :
    offset + size after = size text := by
  rw [dropTo_eq_map_cut] at hdrop
  cases hcut : cut text offset with
  | error fault => simp [hcut, Except.map] at hdrop
  | ok halves =>
    obtain ⟨before, rest⟩ := halves
    obtain ⟨rfl, rfl⟩ := cut_eq_ok hcut
    obtain rfl : rest = after := by simpa [hcut, Except.map] using hdrop
    rw [size_append]

theorem offsetOf?_eq_some {p : Char → Bool} {text : Text} {offset : Nat}
    (hfind : offsetOf? p text = some offset) : offset < size text := by
  induction text generalizing offset with
  | nil => simp [offsetOf?] at hfind
  | cons ch text ih =>
    have hpos := ch.utf8Size_pos
    rw [offsetOf?] at hfind
    split at hfind
    · simp only [Option.some.injEq] at hfind
      simp only [size_cons]
      omega
    · obtain ⟨inner, hinner, rfl⟩ := Option.map_eq_some_iff.1 hfind
      have := ih hinner
      simp only [size_cons]
      omega

end Text

end Lexkit
