import Lexkit.Comment.Line
import Lexkit.Proofs.Scan

/-!
# Line comments

Both forms of a line comment take the same text: the first line of what is ahead, with the character
that ends it. The byte search may look for that character one byte at a time, because no byte of a
longer character is a byte that ends a line.
-/

namespace Lexkit.LineComment

/-- The text through the first character that ends a line, or all of it. -/
def firstLine (text : Text) : Text :=
  text.takeWhile (fun ch => !Text.isNewLine ch) ++
    (text.dropWhile fun ch => !Text.isNewLine ch).take 1

theorem firstLine_ne_nil {text : Text} (htext : text ≠ []) : firstLine text ≠ [] := by
  obtain ⟨ch, others, rfl⟩ := List.exists_cons_of_ne_nil htext
  by_cases hch : Text.isNewLine ch = true
  · simp [firstLine, hch]
  · simp [firstLine, hch]

/-- The cursor after the comment that starts at a cursor. -/
def after (cursor : Cursor) : Cursor := (cursor.skipWhile fun ch => !Text.isNewLine ch).advance

theorem passes_after (cursor : Cursor) : cursor.Passes (firstLine cursor.rest) (after cursor) :=
  (cursor.passes_skipWhile _).trans (Cursor.passes_advance_take _)

variable (comment : LineComment) (cursor : Cursor)

theorem read_eq : comment.read cursor =
    if cursor.rest = [] ∨ comment.start.isAt cursor = false then .done none cursor
    else .done (some ⟨cursor.buffer, cursor.offset, firstLine cursor.rest⟩) (after cursor) := by
  simp only [read, Scan.bind_apply, Scan.here_apply, Step.bind_done]
  by_cases hstart : cursor.rest = [] ∨ comment.start.isAt cursor = false
  · have hskip : (cursor.atEnd || !comment.start.isAt cursor) = true := by
      simpa [Cursor.atEnd] using hstart
    rw [if_pos hstart, if_pos hskip]
    rfl
  · have hread : ¬ (cursor.atEnd || !comment.start.isAt cursor) = true := by
      simpa [Cursor.atEnd] using hstart
    rw [if_neg hstart, if_neg hread]
    have hslice := Scan.sliceFrom_of_passes (passes_after cursor)
    simp only [Scan.bind_apply, Scan.goTo_apply, Step.bind_done]
    change (Scan.sliceFrom cursor.offset (after cursor)).bind _ = _
    rw [hslice]
    rfl

/-- A line comment cannot be malformed, so any bound on errors holds. -/
theorem read_ends {bad : ScanError → Cursor → Prop} :
    (comment.read cursor).Ends cursor.Reads bad := by
  rw [read_eq]
  split
  · exact rfl
  · rename_i hstart
    exact ⟨_, firstLine_ne_nil fun hrest => hstart (.inl hrest), rfl, passes_after cursor⟩

/-! ### The byte search -/

theorem isNewLineByte_lead (ch : Char) : isNewLineByte (Utf8.lead ch) = Text.isNewLine ch := by
  have hbyte (other : Char) (hother : other.toNat < 0x80) :
      (Utf8.lead ch == other.toNat.toUInt8) = (ch == other) := by
    rw [Bool.eq_iff_iff, beq_iff_eq, beq_iff_eq]
    exact Utf8.lead_eq_iff hother
  rw [isNewLineByte, Text.isNewLine, ← hbyte '\n' (by decide), ← hbyte '\r' (by decide),
    ← hbyte '\x0b' (by decide)]
  rfl

theorem not_isNewLineByte_of_le {byte : UInt8} (hbyte : 0x80 ≤ byte.toNat) :
    isNewLineByte byte = false := by
  simp only [isNewLineByte, Bool.or_eq_false_iff, beq_eq_false_iff_ne]
  refine ⟨⟨?_, ?_⟩, ?_⟩ <;> rintro rfl <;> revert hbyte <;> decide

theorem findIdx?_encodeChar {ch : Char} (hch : Text.isNewLine ch = false) :
    (String.utf8EncodeChar ch).findIdx? isNewLineByte = none := by
  rw [List.findIdx?_eq_none_iff]
  intro byte hbyte
  obtain ⟨others, hencode, hothers⟩ := Utf8.encodeChar_eq_lead_cons ch
  rw [hencode, List.mem_cons] at hbyte
  rcases hbyte with rfl | hbyte
  · rw [isNewLineByte_lead, hch]
  · exact not_isNewLineByte_of_le (hothers byte hbyte)

theorem isNewLine_ascii {ch : Char} (hch : Text.isNewLine ch = true) : ch.toNat < 0x80 := by
  simp only [Text.isNewLine, Bool.or_eq_true, beq_iff_eq] at hch
  rcases hch with (rfl | rfl) | rfl <;> decide

/-- The place that the byte search finds is the end of the first line. -/
theorem size_firstLine (text : Text) : Text.size (firstLine text) =
    match (Utf8.encode text).findIdx? isNewLineByte with
    | some index => index + 1
    | none => Text.size text := by
  induction text with
  | nil => rfl
  | cons ch text ih =>
    by_cases hch : Text.isNewLine ch = true
    · have hascii := isNewLine_ascii hch
      obtain ⟨others, hencode, -⟩ := Utf8.encodeChar_eq_lead_cons ch
      rw [Utf8.encode_cons, hencode, List.cons_append, List.findIdx?_cons, isNewLineByte_lead, hch]
      simp [firstLine, hch, Utf8.utf8Size_eq_one hascii]
    · have hnone : Text.isNewLine ch = false := by simpa using hch
      have hline : firstLine (ch :: text) = ch :: firstLine text := by simp [firstLine, hnone]
      rw [Utf8.encode_cons, List.findIdx?_append, findIdx?_encodeChar hnone, hline, Text.size_cons,
        ih]
      cases (Utf8.encode text).findIdx? isNewLineByte with
      | none => simp
      | some index =>
        simp only [Option.none_or, Option.map_some, String.length_utf8EncodeChar]
        change ch.utf8Size + (index + 1) = index + ch.utf8Size + 1
        omega

theorem startsAt_encode :
    comment.startsAt cursor (Utf8.encode cursor.rest) = comment.start.isAt cursor := by
  unfold startsAt CommentStart.isAt
  cases comment.start with
  | mark mark => exact Utf8.isPrefixOf_encode mark cursor.rest
  | predicate holds => rfl
  | char ch =>
    dsimp only
    by_cases hascii : ch.toNat < 0x80
    · rw [if_pos hascii, Utf8.head?_encode, Cursor.peek]
      cases cursor.rest with
      | nil => rfl
      | cons c rest =>
        have hsame : Utf8.lead c = ch.toNat.toUInt8 ↔ c = ch := Utf8.lead_eq_iff hascii
        change (some (Utf8.lead c) == some ch.toNat.toUInt8) = (some c == some ch)
        rw [Bool.eq_iff_iff, beq_iff_eq, beq_iff_eq, Option.some_inj, Option.some_inj]
        exact hsame
    · rw [if_neg hascii]

theorem stop_eq_offset_after :
    (match (Utf8.encode cursor.rest).findIdx? isNewLineByte with
      | some index => cursor.offset + index + 1
      | none => cursor.buffer.bytes.length) = (after cursor).offset := by
  have hsize := size_firstLine cursor.rest
  have htotal := cursor.offset_add_size_rest
  rw [(passes_after cursor).offset_eq, hsize]
  cases (Utf8.encode cursor.rest).findIdx? isNewLineByte with
  | none => exact htotal.symm
  | some index => rfl

theorem run_compile : comment.compile.run cursor = comment.read cursor := by
  rw [read_eq]
  simp only [compile, Scan.bind_apply, Scan.here_apply, Step.bind_done,
    Cursor.length_bytes_le_offset]
  by_cases hrest : cursor.rest = []
  · rw [if_pos hrest, if_pos (Or.inl hrest)]
    rfl
  · rw [if_neg hrest]
    simp only [Scan.bind_apply, Cursor.dropTo_bytes, Scan.attempt_ok, Step.bind_done,
      startsAt_encode]
    cases hstart : comment.start.isAt cursor with
    | false =>
      rw [if_pos (Or.inr rfl)]
      rfl
    | true =>
      have hcommit := Scan.commit_of_passes (passes_after cursor)
      rw [← stop_eq_offset_after] at hcommit
      rw [if_neg (by simp), if_neg (by simp [hrest])]
      exact congrArg (fun step => step.bind fun slice => pure (some slice)) hcommit

end Lexkit.LineComment
