import Lexkit.Cursor
import Lexkit.Proofs.Text.Utf8

/-!
# Moving a cursor

Every move of a cursor is described by the text it passes: `Passes cursor taken after` says that
`after` stands in the same buffer, that `taken` is the text between the two, and that the position
of `after` is the one of `cursor` stepped over `taken`. Walking and leaping differ only in how they
find `taken`, so a scan is known by the text it passes, and the offsets that a leap needs are read
off that text.
-/

namespace Lexkit

namespace Text

theorem cut_append (before after : Text) :
    cut (before ++ after) (size before) = .ok (before, after) := by
  induction before with
  | nil => cases after <;> rfl
  | cons ch before ih =>
    have hpos := ch.utf8Size_pos
    obtain ⟨offset, hoffset⟩ : ∃ offset, size (ch :: before) = offset + 1 :=
      ⟨size (ch :: before) - 1, by rw [size_cons]; omega⟩
    have hfits : ch.utf8Size ≤ offset + 1 := by
      rw [← hoffset, size_cons]
      omega
    have hleft : offset + 1 - ch.utf8Size = size before := by
      rw [← hoffset, size_cons]
      omega
    rw [hoffset, List.cons_append, cut, if_pos hfits, hleft, ih]

theorem dropTo_append (before after : Text) :
    dropTo (before ++ after) (size before) = .ok after := by
  rw [dropTo_eq_map_cut, cut_append]
  rfl

theorem between_append (before inside after : Text) :
    between (before ++ (inside ++ after)) (size before) (size before + size inside) =
      .ok inside := by
  have hdistance : size before + size inside - size before = size inside := by omega
  rw [between, if_neg (by omega), dropTo_append, hdistance]
  simp only [bind, Except.bind, cut_append]
  rfl

theorem size_eq_zero {text : Text} : size text = 0 ↔ text = [] := by
  cases text with
  | nil => simp
  | cons ch text =>
    have := ch.utf8Size_pos
    simp only [size_cons, reduceCtorEq, iff_false]
    omega

/-- A character has at least one byte. -/
theorem length_le_size (text : Text) : text.length ≤ size text := by
  induction text with
  | nil => exact Nat.le_refl 0
  | cons ch text ih =>
    have := ch.utf8Size_pos
    rw [List.length_cons, size_cons]
    omega

theorem takeWhile_eq_nil {p : Char → Bool} {text : Text} :
    text.takeWhile p = [] ↔ text.head?.any p = false := by
  cases text with
  | nil => simp
  | cons ch text =>
    by_cases hch : p ch = true
    · simp [hch]
    · simp [hch]

/-- The longest run of characters that satisfy `p` ends before one that does not. -/
theorem any_head?_dropWhile (p : Char → Bool) (text : Text) :
    (text.dropWhile p).head?.any p = false := by
  have hhead := List.head?_dropWhile_not p text
  cases hnext : (text.dropWhile p).head? with
  | none => rfl
  | some ch =>
    rw [hnext] at hhead
    exact hhead

end Text

namespace Cursor

theorem eq_of_rest_eq {left right : Cursor} (hbuffer : left.buffer = right.buffer)
    (hrest : left.rest = right.rest) (hposition : left.position = right.position) :
    left = right := by
  obtain ⟨buffer, rest, position, _, _⟩ := left
  obtain ⟨buffer', rest', position', _, _⟩ := right
  obtain rfl : buffer = buffer' := hbuffer
  obtain rfl : rest = rest' := hrest
  obtain rfl : position = position' := hposition
  rfl

/-! ### The text that a move passes -/

/-- The cursor `after` stands where `cursor` comes to when it passes `taken`. -/
structure Passes (cursor : Cursor) (taken : Text) (after : Cursor) : Prop where
  buffer_eq : after.buffer = cursor.buffer
  rest_eq : cursor.rest = taken ++ after.rest
  position_eq : after.position = cursor.position.stepOver taken

namespace Passes

variable {cursor middle after other : Cursor} {taken further : Text}

theorem refl (cursor : Cursor) : Passes cursor [] cursor := ⟨rfl, rfl, rfl⟩

theorem trans (hfirst : Passes cursor taken middle) (hsecond : Passes middle further after) :
    Passes cursor (taken ++ further) after where
  buffer_eq := hsecond.buffer_eq.trans hfirst.buffer_eq
  rest_eq := by rw [hfirst.rest_eq, hsecond.rest_eq, List.append_assoc]
  position_eq := by rw [hsecond.position_eq, hfirst.position_eq, Position.stepOver_append]

/-- The text passed tells where a move ends. -/
theorem unique (hafter : Passes cursor taken after) (hother : Passes cursor taken other) :
    after = other := by
  apply eq_of_rest_eq
  · rw [hafter.buffer_eq, hother.buffer_eq]
  · exact List.append_cancel_left (hafter.rest_eq.symm.trans hother.rest_eq)
  · rw [hafter.position_eq, hother.position_eq]

theorem offset_eq (hpasses : Passes cursor taken after) :
    after.offset = cursor.offset + Text.size taken := by
  rw [offset, hpasses.position_eq, Position.offset_stepOver]
  rfl

theorem offset_le (hpasses : Passes cursor taken after) : cursor.offset ≤ after.offset := by
  rw [hpasses.offset_eq]
  omega

theorem offset_lt (hpasses : Passes cursor taken after) (htaken : taken ≠ []) :
    cursor.offset < after.offset := by
  have hsize : Text.size taken ≠ 0 := fun hzero => htaken (Text.size_eq_zero.1 hzero)
  rw [hpasses.offset_eq]
  omega

theorem eq_of_nil (hpasses : Passes cursor [] after) : after = cursor :=
  hpasses.unique (refl cursor)

theorem eq_pass (hpasses : Passes cursor taken after) :
    after = cursor.pass taken after.rest hpasses.rest_eq :=
  eq_of_rest_eq hpasses.buffer_eq rfl hpasses.position_eq

end Passes

section

variable {after : Cursor} {taken : Text} (cursor : Cursor)

theorem passes_pass (taken rest : Text) (hrest : cursor.rest = taken ++ rest) :
    Passes cursor taken (cursor.pass taken rest hrest) := ⟨rfl, hrest, rfl⟩

theorem passes_skipWhile (p : Char → Bool) :
    Passes cursor (cursor.rest.takeWhile p) (cursor.skipWhile p) :=
  cursor.passes_pass _ _ _

theorem passes_toEnd : Passes cursor cursor.rest cursor.toEnd := cursor.passes_pass _ _ _

variable {cursor}

theorem Passes.eq_toEnd (hpasses : Passes cursor taken after) (hrest : after.rest = []) :
    after = cursor.toEnd := by
  have htaken := hpasses.rest_eq
  rw [hrest, List.append_nil] at htaken
  subst htaken
  exact hpasses.unique cursor.passes_toEnd

theorem passes_advance {ch : Char} {rest : Text} (hrest : cursor.rest = ch :: rest) :
    Passes cursor [ch] cursor.advance := by
  unfold advance
  split
  · simp_all
  · rename_i c others hothers
    obtain ⟨rfl, rfl⟩ : c = ch ∧ others = rest := by simpa [hothers] using hrest
    exact cursor.passes_pass _ _ _

theorem rest_advance_of_cons {ch : Char} {rest : Text} (hrest : cursor.rest = ch :: rest) :
    cursor.advance.rest = rest := by
  rw [rest_advance, hrest, List.tail_cons]

theorem offset_advance_of_cons {ch : Char} {rest : Text} (hrest : cursor.rest = ch :: rest) :
    cursor.advance.offset = cursor.offset + ch.utf8Size := by
  rw [(passes_advance hrest).offset_eq, Text.size_cons, Text.size_nil, Nat.add_zero]

theorem Passes.advance {ch : Char} (hpasses : Passes cursor (ch :: taken) after) :
    Passes cursor.advance taken after := by
  have hstep := passes_advance hpasses.rest_eq
  refine ⟨hpasses.buffer_eq.trans hstep.buffer_eq.symm, rest_advance_of_cons hpasses.rest_eq, ?_⟩
  rw [hpasses.position_eq, hstep.position_eq]
  rfl

theorem passes_advance_take (cursor : Cursor) :
    Passes cursor (cursor.rest.take 1) cursor.advance := by
  cases hrest : cursor.rest with
  | nil =>
    have hstays : cursor.advance = cursor := by
      unfold advance
      split
      · rfl
      · simp_all
    rw [hstays]
    exact Passes.refl cursor
  | cons ch rest => exact passes_advance hrest

theorem skipWhile_eq_self {p : Char → Bool} (htaken : cursor.rest.takeWhile p = []) :
    cursor.skipWhile p = cursor := by
  have hpasses := cursor.passes_skipWhile p
  rw [htaken] at hpasses
  exact hpasses.eq_of_nil

theorem skipWhile_advance {p : Char → Bool} {ch : Char} {rest : Text}
    (hrest : cursor.rest = ch :: rest)
    (hch : p ch = true) : cursor.advance.skipWhile p = cursor.skipWhile p := by
  have hrun := (passes_advance hrest).trans (cursor.advance.passes_skipWhile p)
  have hwhole := cursor.passes_skipWhile p
  rw [hrest, List.takeWhile_cons_of_pos hch] at hwhole
  rw [rest_advance_of_cons hrest] at hrun
  exact hrun.unique hwhole

theorem passes_skip (cursor : Cursor) (n : Nat) :
    Passes cursor (cursor.rest.take n) (cursor.skip n) := by
  induction n generalizing cursor with
  | zero => exact Passes.refl cursor
  | succ n ih =>
    rw [skip, advanceBy]
    split
    · rename_i hrest
      rw [hrest]
      exact Passes.refl cursor
    · rename_i ch rest hrest
      have hstep := passes_advance hrest
      have hothers : Passes cursor.advance (rest.take n) (cursor.advance.skip n) := by
        simpa [hrest] using ih cursor.advance
      rw [hrest]
      exact hstep.trans hothers

theorem startsWith_iff {mark : Text} : cursor.startsWith mark = true ↔ mark <+: cursor.rest :=
  List.isPrefixOf_iff_prefix

theorem passes_skip_mark {mark : Text} (hstarts : cursor.startsWith mark = true) :
    Passes cursor mark (cursor.skip mark.length) := by
  have htake := List.prefix_iff_eq_take.1 (startsWith_iff.1 hstarts)
  have hpasses := cursor.passes_skip mark.length
  rwa [← htake] at hpasses

end

/-! ### What stands in the buffer at a cursor -/

variable {cursor after : Cursor} {taken : Text}

theorem exists_before (cursor : Cursor) :
    ∃ before, cursor.buffer.text = before ++ cursor.rest ∧ Text.size before = cursor.offset := by
  obtain ⟨before, hbefore⟩ := cursor.rest_suffix
  refine ⟨before, hbefore.symm, ?_⟩
  have hsize := cursor.offset_add_size
  rw [← hbefore, Text.size_append] at hsize
  change Text.size before = cursor.position.offset
  omega

theorem dropTo_text (cursor : Cursor) :
    Text.dropTo cursor.buffer.text cursor.offset = .ok cursor.rest := by
  obtain ⟨before, htext, hsize⟩ := cursor.exists_before
  rw [htext, ← hsize, Text.dropTo_append]

theorem drop_bytes (cursor : Cursor) :
    cursor.buffer.bytes.drop cursor.offset = Utf8.encode cursor.rest := by
  obtain ⟨before, htext, hsize⟩ := cursor.exists_before
  rw [cursor.buffer.bytes_eq, htext, Utf8.encode_append, ← hsize, ← Utf8.length_encode,
    List.drop_left]

theorem offset_add_size_rest (cursor : Cursor) :
    cursor.offset + Text.size cursor.rest = cursor.buffer.bytes.length := by
  rw [Buffer.length_bytes]
  exact cursor.offset_add_size

theorem dropTo_bytes (cursor : Cursor) :
    Utf8.dropTo cursor.buffer.bytes cursor.offset = .ok (Utf8.encode cursor.rest) := by
  have hsize := cursor.offset_add_size_rest
  rw [Utf8.dropTo, if_pos (by omega), drop_bytes]

theorem length_bytes_le_offset : cursor.buffer.bytes.length ≤ cursor.offset ↔ cursor.rest = [] := by
  have hsize := cursor.offset_add_size_rest
  rw [← Text.size_eq_zero]
  omega

theorem offset_lt_length_bytes : cursor.offset < cursor.buffer.bytes.length ↔ cursor.rest ≠ [] := by
  rw [ne_eq, ← length_bytes_le_offset]
  omega

theorem byteAt_offset {ch : Char} {rest : Text} (hrest : cursor.rest = ch :: rest) :
    Utf8.byteAt cursor.buffer.bytes cursor.offset = .ok (Utf8.lead ch) := by
  obtain ⟨others, hencode, -⟩ := Utf8.encodeChar_eq_lead_cons ch
  have hget : cursor.buffer.bytes[cursor.offset]? = some (Utf8.lead ch) := by
    rw [← Nat.add_zero cursor.offset, ← List.getElem?_drop, drop_bytes, hrest, Utf8.encode_cons,
      hencode]
    rfl
  rw [Utf8.byteAt, hget]

/-- A mark stands at a cursor among the bytes where it stands among the characters. -/
theorem isPrefixOf_drop_bytes (cursor : Cursor) (mark : Text) :
    (Utf8.encode mark).isPrefixOf (cursor.buffer.bytes.drop cursor.offset) =
      cursor.startsWith mark := by
  rw [drop_bytes, Utf8.isPrefixOf_encode]
  rfl

/-! ### Leaps -/

/-- The offset after a text is where a seek goes that passes the text. -/
theorem Passes.seek (hpasses : Passes cursor taken after) :
    cursor.seek after.offset = .ok after := by
  have hoffset := hpasses.offset_eq
  have hdistance : after.offset - cursor.offset = Text.size taken := by omega
  have hcut : Text.cut cursor.rest (after.offset - cursor.offset) = .ok (taken, after.rest) := by
    rw [hdistance, hpasses.rest_eq, Text.cut_append]
  rw [Cursor.seek, if_neg (by omega)]
  split
  · rename_i taken' rest' hcut'
    obtain ⟨rfl, rfl⟩ : taken = taken' ∧ after.rest = rest' := by simpa [hcut] using hcut'
    exact congrArg _ hpasses.eq_pass.symm
  · rename_i fault hfault
    simp [hcut] at hfault

/-- A seek goes where some part of the text ahead ends at the offset. -/
theorem seek_eq_ok_iff {offset : Nat} : cursor.seek offset = .ok after ↔
    (∃ taken, Passes cursor taken after) ∧ after.offset = offset := by
  constructor
  · intro hseek
    unfold seek at hseek
    split at hseek
    · simp at hseek
    · rename_i hforward
      split at hseek
      · rename_i taken rest hcut
        obtain rfl := Except.ok.inj hseek
        have hpasses := cursor.passes_pass taken rest (Text.cut_eq_ok hcut).1
        refine ⟨⟨taken, hpasses⟩, ?_⟩
        rw [hpasses.offset_eq, (Text.cut_eq_ok hcut).2]
        omega
      · simp at hseek
  · rintro ⟨⟨taken, hpasses⟩, rfl⟩
    exact hpasses.seek

theorem Passes.sliceFrom (hpasses : Passes cursor taken after) :
    after.sliceFrom cursor.offset = .ok ⟨cursor.buffer, cursor.offset, taken⟩ := by
  obtain ⟨before, htext, hsize⟩ := cursor.exists_before
  have hbetween : Text.between cursor.buffer.text cursor.offset after.offset = .ok taken := by
    rw [htext, hpasses.offset_eq, hpasses.rest_eq, ← hsize, Text.between_append]
  rw [Cursor.sliceFrom, slice, Slice.make, hpasses.buffer_eq, hbetween]
  rfl

/-- In one buffer a cursor that is not behind another one has what the other one has not passed. -/
theorem suffix_of_offset_le (hbuffer : after.buffer = cursor.buffer)
    (hoffset : cursor.offset ≤ after.offset) : after.rest <:+ cursor.rest := by
  have hafter : after.rest <:+ cursor.buffer.text := hbuffer ▸ after.rest_suffix
  rcases List.suffix_or_suffix_of_suffix hafter cursor.rest_suffix with hsuffix | hsuffix
  · exact hsuffix
  · obtain ⟨between, hbetween⟩ := hsuffix
    have hcursor := cursor.offset_add_size_rest
    have hsize := after.offset_add_size_rest
    rw [hbuffer, ← hbetween, Text.size_append] at hsize
    have hnil : between = [] := Text.size_eq_zero.1 (by omega)
    rw [← hbetween, hnil]
    exact List.suffix_refl _

/-- The slice from an offset that is not behind can be made, wherever the lines and columns are. -/
theorem exists_sliceFrom (hbuffer : after.buffer = cursor.buffer)
    (hoffset : cursor.offset ≤ after.offset) :
    ∃ found, after.sliceFrom cursor.offset = .ok found := by
  obtain ⟨between, hbetween⟩ := suffix_of_offset_le hbuffer hoffset
  have hpasses := cursor.passes_pass between after.rest hbetween.symm
  refine ⟨⟨cursor.buffer, cursor.offset, between⟩, ?_⟩
  rw [← hpasses.sliceFrom, Cursor.sliceFrom, Cursor.sliceFrom, hpasses.offset_eq, slice, slice]
  have hcursor := cursor.offset_add_size_rest
  have hsize := after.offset_add_size_rest
  rw [hbuffer] at hsize
  rw [← hbetween, Text.size_append] at hcursor
  have hend : after.offset = cursor.offset + Text.size between := by omega
  rw [hbuffer, hpasses.buffer_eq, hend]

end Cursor

end Lexkit
