import Mathlib.Logic.Function.Iterate
import Lexkit.Proofs.Scan

/-!
# Walking, leaping and looking ahead

A cursor is brought forward by characters or by bytes. Advancing counts characters; seeking is told
an offset, and slices are cut out of the buffer at offsets. The two ways agree because each passes a
part of the text ahead: advancing `n` times passes its first `n` characters, and an offset between
two characters is where one such part ends. So every place that a leap goes to is one that a walk
comes to, and what is seen ahead of a cursor is what a walk passes.
-/

namespace Lexkit

namespace Text

/-- The offset stands before a character of the text or at its end. -/
def IsBoundary (text : Text) (offset : Nat) : Prop :=
  ∃ before, before <+: text ∧ size before = offset

theorem IsBoundary.le_size {text : Text} {offset : Nat} (hboundary : text.IsBoundary offset) :
    offset ≤ size text := by
  obtain ⟨before, ⟨after, rfl⟩, rfl⟩ := hboundary
  rw [size_append]
  omega

/-- Of two initial parts of a text, the one with fewer bytes starts the other. -/
theorem prefix_of_size_le {text left right : Text} (hleft : left <+: text) (hright : right <+: text)
    (hsize : size left ≤ size right) : left <+: right := by
  rcases List.prefix_or_prefix_of_prefix hleft hright with hinitial | ⟨others, rfl⟩
  · exact hinitial
  · rw [size_append] at hsize
    obtain rfl : others = [] := size_eq_zero.1 (by omega)
    simp

/-- The offsets at which the characters of the text start. -/
def charOffsets : Text → List Nat
  | [] => []
  | ch :: text => 0 :: (charOffsets text).map (ch.utf8Size + ·)

theorem getElem?_charOffsets (text : Text) (n : Nat) :
    (charOffsets text)[n]? = if n < text.length then some (size (text.take n)) else none := by
  induction text generalizing n with
  | nil => rfl
  | cons ch text ih =>
    cases n with
    | zero => rfl
    | succ n =>
      rw [charOffsets, List.getElem?_cons_succ, List.getElem?_map, ih]
      by_cases hn : n < text.length
      · simp [hn]
      · simp [hn]

end Text

namespace Cursor

variable {cursor middle after : Cursor} {taken whole : Text} {offset : Nat}

/-! ### Walking -/

theorem skip_succ (cursor : Cursor) (n : Nat) : cursor.skip (n + 1) = cursor.advance.skip n := by
  have hwalk := cursor.passes_advance_take.trans (cursor.advance.passes_skip n)
  rw [rest_advance, ← List.drop_one, ← List.take_add, Nat.add_comm] at hwalk
  exact (cursor.passes_skip (n + 1)).unique hwalk

theorem skip_eq_iterate (cursor : Cursor) (n : Nat) : cursor.skip n = advance^[n] cursor := by
  induction n generalizing cursor with
  | zero => rfl
  | succ n ih => rw [skip_succ, ih, Function.iterate_succ_apply]

theorem count_advanceBy (cursor : Cursor) (n : Nat) :
    (cursor.advanceBy n).1 = min n cursor.rest.length := by
  induction n generalizing cursor with
  | zero => exact (Nat.zero_min _).symm
  | succ n ih =>
    rw [advanceBy]
    split
    · rename_i hrest
      rw [hrest]
      rfl
    · rename_i ch rest hrest
      show (cursor.advance.advanceBy n).1 + 1 = _
      rw [ih, rest_advance_of_cons hrest, hrest, List.length_cons, Nat.succ_min_succ]

theorem Passes.skip_length (hpasses : cursor.Passes taken after) :
    cursor.skip taken.length = after := by
  have hwalk := cursor.passes_skip taken.length
  rw [hpasses.rest_eq, List.take_left] at hwalk
  exact hwalk.unique hpasses

/-! ### Leaping -/

theorem seek_eq_ok_iff_skip : cursor.seek offset = .ok after ↔
    ∃ n, cursor.skip n = after ∧ after.offset = offset := by
  rw [seek_eq_ok_iff]
  constructor
  · rintro ⟨⟨taken, hpasses⟩, hoffset⟩
    exact ⟨taken.length, hpasses.skip_length, hoffset⟩
  · rintro ⟨n, rfl, hoffset⟩
    exact ⟨⟨_, cursor.passes_skip n⟩, hoffset⟩

theorem positionAt_eq_map_seek (cursor : Cursor) (offset : Nat) :
    cursor.positionAt offset = (cursor.seek offset).map position := by
  by_cases hback : offset < cursor.offset
  · rw [positionAt, seek, if_pos hback, if_pos hback]
    rfl
  · -- Both cut the text ahead at the same place, so they are also refused for the same reason.
    rw [positionAt, seek, if_neg hback, if_neg hback, Text.between, if_neg hback, dropTo_text]
    split
    · rename_i taken rest hcut
      simp only [bind, Except.bind, hcut]
      rfl
    · rename_i fault hcut
      simp only [bind, Except.bind, hcut]
      rfl

theorem isBoundary_offset (cursor : Cursor) : cursor.buffer.text.IsBoundary cursor.offset := by
  obtain ⟨before, htext, hsize⟩ := cursor.exists_before
  exact ⟨before, htext ▸ List.prefix_append _ _, hsize⟩

/-- A walk comes to every boundary that is not behind the cursor, and to nothing else. -/
theorem exists_skip_iff : (∃ n, (cursor.skip n).offset = offset) ↔
    cursor.offset ≤ offset ∧ cursor.buffer.text.IsBoundary offset := by
  constructor
  · rintro ⟨n, rfl⟩
    have hpasses := cursor.passes_skip n
    exact ⟨hpasses.offset_le, hpasses.buffer_eq ▸ (cursor.skip n).isBoundary_offset⟩
  · rintro ⟨hforward, passed, hpassed, rfl⟩
    obtain ⟨before, htext, hsize⟩ := cursor.exists_before
    have hbefore : before <+: cursor.buffer.text := htext ▸ List.prefix_append _ _
    -- What lies between the cursor and the boundary is what the walk has to pass.
    obtain ⟨taken, rfl⟩ := Text.prefix_of_size_le hbefore hpassed (hsize ▸ hforward)
    obtain ⟨rest, hrest⟩ := hpassed
    rw [htext, List.append_assoc] at hrest
    have hpasses := cursor.passes_pass taken rest (List.append_cancel_left hrest).symm
    refine ⟨taken.length, ?_⟩
    rw [hpasses.skip_length, hpasses.offset_eq, ← hsize, Text.size_append]

/-- Of two places ahead of a cursor the farther one is ahead of the nearer one. -/
theorem Passes.exists_between (hmiddle : cursor.Passes taken middle)
    (hafter : cursor.Passes whole after) (hoffset : middle.offset ≤ after.offset) :
    ∃ further, middle.Passes further after := by
  have hsize : Text.size taken ≤ Text.size whole := by
    rw [hmiddle.offset_eq, hafter.offset_eq] at hoffset
    omega
  have hrest := hmiddle.rest_eq.symm.trans hafter.rest_eq
  obtain ⟨further, rfl⟩ := Text.prefix_of_size_le (List.prefix_append taken middle.rest)
    (hrest ▸ List.prefix_append whole after.rest) hsize
  refine ⟨further, hafter.buffer_eq.trans hmiddle.buffer_eq.symm, ?_, ?_⟩
  · rw [List.append_assoc] at hrest
    exact List.append_cancel_left hrest
  · rw [hafter.position_eq, hmiddle.position_eq, Position.stepOver_append]

/-- Leaping on from where a leap went is leaping there at once. -/
theorem seek_again_iff {offset' : Nat} (hseek : cursor.seek offset = .ok middle) :
    middle.seek offset' = .ok after ↔ offset ≤ offset' ∧ cursor.seek offset' = .ok after := by
  obtain ⟨⟨taken, hmiddle⟩, rfl⟩ := seek_eq_ok_iff.1 hseek
  rw [seek_eq_ok_iff, seek_eq_ok_iff]
  constructor
  · rintro ⟨⟨further, hfurther⟩, rfl⟩
    exact ⟨hfurther.offset_le, ⟨_, hmiddle.trans hfurther⟩, rfl⟩
  · rintro ⟨hforward, ⟨whole, hafter⟩, rfl⟩
    exact ⟨hmiddle.exists_between hafter hforward, rfl⟩

end Cursor

namespace Scan

variable {cursor after : Cursor} {offset : Nat} {fault : Fault}

theorem seek_of_error (hseek : cursor.seek offset = .error fault) :
    seek offset cursor = .fault fault cursor := by
  simp only [seek, bind_apply, here_apply, Step.bind_done, hseek, attempt_error, Step.bind_fault]

theorem seek_eq_done_iff :
    seek offset cursor = .done () after ↔ cursor.seek offset = .ok after := by
  refine ⟨fun hdone => ?_, seek_of_ok⟩
  cases hseek : cursor.seek offset with
  | ok other =>
    rw [seek_of_ok hseek] at hdone
    exact congrArg Except.ok (congrArg Step.cursor hdone)
  | error fault =>
    rw [seek_of_error hseek] at hdone
    cases congrArg Step.outcome hdone

/-- A leap is refused where no walk comes to, and the position is refused with it. -/
theorem seek_eq_fault_iff :
    (∃ fault, seek offset cursor = .fault fault cursor ∧ cursor.positionAt offset = .error fault) ↔
      ¬ ∃ n, (cursor.skip n).offset = offset := by
  rw [Cursor.positionAt_eq_map_seek]
  cases hseek : cursor.seek offset with
  | ok after =>
    obtain ⟨n, rfl, hoffset⟩ := Cursor.seek_eq_ok_iff_skip.1 hseek
    refine iff_of_false ?_ fun hnone => hnone ⟨n, hoffset⟩
    rintro ⟨fault, -, hfault⟩
    cases hfault
  | error fault =>
    refine iff_of_true ⟨fault, seek_of_error hseek, rfl⟩ ?_
    rintro ⟨n, hoffset⟩
    cases hseek.symm.trans (Cursor.seek_eq_ok_iff_skip.2 ⟨n, rfl, hoffset⟩)

theorem seek_bind_seek_iff {first second : Nat} :
    (seek first >>= fun _ => seek second) cursor = .done () after ↔
      first ≤ second ∧ (∃ middle, seek first cursor = .done () middle) ∧
        seek second cursor = .done () after := by
  simp only [bind_apply, seek_eq_done_iff]
  cases hseek : cursor.seek first with
  | ok middle =>
    rw [seek_of_ok hseek, Step.bind_done, seek_eq_done_iff, Cursor.seek_again_iff hseek]
    exact and_congr_right fun _ => ⟨fun hsecond => ⟨⟨middle, rfl⟩, hsecond⟩, And.right⟩
  | error fault =>
    rw [seek_of_error hseek, Step.bind_fault]
    refine iff_of_false (fun hdone => ?_) ?_
    · cases congrArg Step.outcome hdone
    · rintro ⟨-, ⟨middle, hmiddle⟩, -⟩
      cases hmiddle

end Scan

namespace Cursor

variable {cursor after : Cursor} {taken : Text}

/-- A leap goes where some number of advances comes to its offset. There is such a number exactly if
the offset is a boundary of the text and not behind the cursor. If there is none, the leap is
refused and leaves the cursor where it was. The position of an offset is that of the cursor that
leaps to it, and is refused with the leap. Two leaps in a row go where the second goes alone. -/
theorem seek_iterates_advance (cursor : Cursor) :
    (∀ n, (cursor.advanceBy n).2 = advance^[n] cursor) ∧
    (∀ offset, (∃ n, (cursor.advanceBy n).2.offset = offset) ↔
      cursor.offset ≤ offset ∧ offset ≤ Text.size cursor.buffer.text ∧
        cursor.buffer.text.IsBoundary offset) ∧
    (∀ offset after, Scan.seek offset cursor = .done () after ↔
      ∃ n, (cursor.advanceBy n).2 = after ∧ after.offset = offset) ∧
    (∀ offset, (∃ fault, Scan.seek offset cursor = .fault fault cursor ∧
        cursor.positionAt offset = .error fault) ↔
      ¬ ∃ n, (cursor.advanceBy n).2.offset = offset) ∧
    (∀ n, cursor.positionAt (cursor.advanceBy n).2.offset =
      .ok (cursor.advanceBy n).2.position) ∧
    ∀ first second after,
      (Scan.seek first >>= fun _ => Scan.seek second) cursor = .done () after ↔
        first ≤ second ∧ (∃ middle, Scan.seek first cursor = .done () middle) ∧
          Scan.seek second cursor = .done () after := by
  have hreached (offset : Nat) : (∃ n, (cursor.skip n).offset = offset) ↔
      cursor.offset ≤ offset ∧ offset ≤ Text.size cursor.buffer.text ∧
        cursor.buffer.text.IsBoundary offset := by
    rw [exists_skip_iff]
    exact and_congr_right fun _ => ⟨fun hboundary => ⟨hboundary.le_size, hboundary⟩, And.right⟩
  refine ⟨cursor.skip_eq_iterate, hreached, fun offset after => ?_,
    fun offset => Scan.seek_eq_fault_iff, fun n => ?_,
    fun first second after => Scan.seek_bind_seek_iff⟩
  · exact Scan.seek_eq_done_iff.trans seek_eq_ok_iff_skip
  · have hseek : cursor.seek (cursor.skip n).offset = .ok (cursor.skip n) :=
      (cursor.passes_skip n).seek
    show cursor.positionAt (cursor.skip n).offset = _
    rw [positionAt_eq_map_seek, hseek]
    rfl

/-! ### Looking ahead -/

/-- The bytes of the buffer from one cursor to another. -/
def bytesTo (cursor after : Cursor) : List UInt8 :=
  (cursor.buffer.bytes.drop cursor.offset).take (after.offset - cursor.offset)

theorem Passes.bytesTo (hpasses : cursor.Passes taken after) :
    cursor.bytesTo after = Utf8.encode taken := by
  have hdistance : after.offset - cursor.offset = (Utf8.encode taken).length := by
    rw [hpasses.offset_eq, Utf8.length_encode]
    omega
  rw [Cursor.bytesTo, drop_bytes, hpasses.rest_eq, Utf8.encode_append, hdistance, List.take_left]

/-- A slice ahead ends before the character after the last one it holds, or with the buffer. -/
theorem stop_peekSlice (cursor : Cursor) (n : Nat) : (cursor.peekSlice n).stop =
    ((Text.charOffsets cursor.rest)[n]?.map (cursor.offset + ·)).getD
      (Text.size cursor.buffer.text) := by
  show cursor.offset + Text.size (cursor.rest.take n) = _
  rw [Text.getElem?_charOffsets]
  by_cases hn : n < cursor.rest.length
  · simp [hn]
  · have hsize : cursor.offset + Text.size cursor.rest = Text.size cursor.buffer.text :=
      cursor.offset_add_size
    rw [if_neg hn, List.take_of_length_le (by omega), hsize]
    rfl

theorem peekNth_eq_peek (cursor : Cursor) (n : Nat) :
    cursor.peekNth n =
      if (cursor.advanceBy n).1 = n then (cursor.advanceBy n).2.peek else none := by
  rw [count_advanceBy, peekNth]
  split
  · show _ = (cursor.skip n).peek
    rw [peek, rest_skip, List.head?_drop]
  · exact List.getElem?_eq_none (by omega)

/-- What is seen ahead of a cursor is what advancing passes. The next `n` characters are the slice
that `n` advances pass, with the same bounds in the same buffer. Advancing counts the characters of
that slice, and the one behind it is the next one then, if all `n` were there. A literal is ahead,
byte by byte, exactly if it is the slice of as many characters, and exactly if as many advances pass
its bytes. -/
theorem lookahead_is_passed (cursor : Cursor) :
    (∀ n,
      (cursor.advanceBy n).2.sliceFrom cursor.offset = .ok (cursor.peekSlice n) ∧
      (cursor.peekSlice n).stop = ((Text.charOffsets cursor.rest)[n]?.map (cursor.offset + ·)).getD
        (Text.size cursor.buffer.text) ∧
      (cursor.advanceBy n).1 = (cursor.peekSlice n).text.length ∧
      (cursor.advanceBy n).1 = min n cursor.rest.length ∧
      cursor.peekNth n =
        if (cursor.advanceBy n).1 = n then (cursor.advanceBy n).2.peek else none) ∧
    ∀ literal : Text,
      cursor.startsWith literal =
        (Utf8.encode literal).isPrefixOf (cursor.buffer.bytes.drop cursor.offset) ∧
      (cursor.startsWith literal = true ↔ (cursor.peekSlice literal.length).text = literal) ∧
      (cursor.startsWith literal = true ↔
        cursor.bytesTo (cursor.advanceBy literal.length).2 = Utf8.encode literal) := by
  have hstarts (literal : Text) :
      cursor.startsWith literal = true ↔ cursor.rest.take literal.length = literal :=
    startsWith_iff.trans (List.prefix_iff_eq_take.trans eq_comm)
  refine ⟨fun n => ⟨(cursor.passes_skip n).sliceFrom, cursor.stop_peekSlice n, ?_,
    cursor.count_advanceBy n, cursor.peekNth_eq_peek n⟩,
    fun literal => ⟨(cursor.isPrefixOf_drop_bytes literal).symm, hstarts literal, ?_⟩⟩
  · rw [count_advanceBy]
    exact List.length_take.symm
  · have hbytes : cursor.bytesTo (cursor.skip literal.length) =
        Utf8.encode (cursor.rest.take literal.length) := (cursor.passes_skip _).bytesTo
    rw [hstarts, ← Utf8.encode_inj, ← hbytes]
    rfl

end Cursor

end Lexkit
