import Lexkit.Comment.Block
import Lexkit.Proofs.Scan

/-!
# Block comments

The walk counts the marks that open and those that close, and keeps the last cursor inside a flat
comment. Only the difference of the two counts matters, and the cursor that is kept is always the
one at which the walk stands, so `close_eq` tells the walk by a depth and a cursor alone.

The walk tests both marks at every place, the byte search only at characters that start a mark.
`searchAt_step` says that one round of the search, taken from a cursor, does what one round of the
walk does there: at any other character nothing can happen, so leaping over it is the same as
stepping over it. The two loops then agree round by round.
-/

namespace Lexkit.BlockComment

/-! ### The walk -/

/-- The cursor after the end mark that balances `depth` start marks, or the cursor at which the end
mark turns out to be missing. -/
def closeNested (comment : BlockComment) (depth : Nat) (cursor : Cursor) : Except Cursor Cursor :=
  if cursor.rest = [] then .error cursor
  else if cursor.startsWith comment.startMark then
    comment.closeNested (depth + 1) (cursor.skip comment.startMark.length)
  else if cursor.startsWith comment.endMark then
    let after := cursor.skip comment.endMark.length
    if depth ≤ 1 then .ok after else comment.closeNested (depth - 1) after
  else comment.closeNested depth cursor.advance
termination_by cursor.rest.length
decreasing_by
  · exact length_rest_skip comment.start_ne_nil ‹_›
  · exact length_rest_skip comment.end_ne_nil ‹_›
  · exact Cursor.length_rest_advance ‹_›

/-- The cursor after the first end mark, or the cursor at the start mark that comes before it or at
the end of the input. -/
def closeFlat (comment : BlockComment) (cursor : Cursor) : Except Cursor Cursor :=
  if cursor.rest = [] then .error cursor
  else if cursor.startsWith comment.startMark then .error cursor
  else if cursor.startsWith comment.endMark then .ok (cursor.skip comment.endMark.length)
  else comment.closeFlat cursor.advance
termination_by cursor.rest.length
decreasing_by exact Cursor.length_rest_advance ‹_›

/-- The depth is what has been opened and not closed. -/
theorem closeCounted_eq (comment : BlockComment) {opened closed : Nat} (hopen : closed < opened)
    (cursor : Cursor) :
    comment.closeCounted opened closed cursor = comment.closeNested (opened - closed) cursor := by
  fun_induction closeCounted comment opened closed cursor with
  | case1 opened closed cursor hend => rw [closeNested, if_pos (Cursor.atEnd_iff.1 hend)]
  | case2 opened closed cursor hmore hstart ih =>
    rw [closeNested, if_neg (mt Cursor.atEnd_iff.2 hmore), if_pos hstart, ih (by omega),
      Nat.sub_add_comm (Nat.le_of_lt hopen)]
  | case3 opened closed cursor hmore hstart hend after hdepth =>
    rw [closeNested, if_neg (mt Cursor.atEnd_iff.2 hmore), if_neg hstart, if_pos hend]
    exact (if_pos (by omega)).symm
  | case4 opened closed cursor hmore hstart hend after hdepth ih =>
    rw [closeNested, if_neg (mt Cursor.atEnd_iff.2 hmore), if_neg hstart, if_pos hend,
      ih (by omega), Nat.sub_add_eq]
    exact (if_neg (by omega)).symm
  | case5 opened closed cursor hmore hstart hend ih =>
    rw [closeNested, if_neg (mt Cursor.atEnd_iff.2 hmore), if_neg hstart, if_neg hend, ih hopen]

/-- The cursor that is kept is the one at which the walk stands. -/
theorem closeKept_eq (comment : BlockComment) (cursor : Cursor) :
    comment.closeKept cursor cursor = comment.closeFlat cursor := by
  fun_induction closeFlat comment cursor with
  | case1 cursor hrest => rw [closeKept, if_pos (Cursor.atEnd_iff.2 hrest)]
  | case2 cursor hrest hstart => rw [closeKept, if_neg (mt Cursor.atEnd_iff.1 hrest), if_pos hstart]
  | case3 cursor hrest hstart hend =>
    rw [closeKept, if_neg (mt Cursor.atEnd_iff.1 hrest), if_neg hstart, if_pos hend]
  | case4 cursor hrest hstart hend ih =>
    rw [closeKept, if_neg (mt Cursor.atEnd_iff.1 hrest), if_neg hstart, if_neg hend, ih]

theorem close_eq (comment : BlockComment) (cursor : Cursor) : comment.close cursor =
    if comment.nesting then comment.closeNested 1 cursor else comment.closeFlat cursor := by
  rw [close, closeCounted_eq comment Nat.one_pos, closeKept_eq]
  by_cases hend : cursor.atEnd = true
  · have hrest := Cursor.atEnd_iff.1 hend
    rw [if_pos hend, closeNested, if_pos hrest, closeFlat, if_pos hrest, ite_self]
  · rw [if_neg hend]

/-! ### Where the walk stops -/

/-- The cursor at which a search stops, whatever it found there. -/
def place : Except Cursor Cursor → Cursor
  | .ok after => after
  | .error missing => missing

theorem closeNested_passes (comment : BlockComment) (depth : Nat) (cursor : Cursor) :
    ∃ taken, cursor.Passes taken (place (comment.closeNested depth cursor)) := by
  fun_induction closeNested comment depth cursor with
  | case1 depth cursor hrest => exact ⟨[], Cursor.Passes.refl cursor⟩
  | case2 depth cursor hrest hstart ih =>
    obtain ⟨taken, hpasses⟩ := ih
    exact ⟨_, (Cursor.passes_skip_mark hstart).trans hpasses⟩
  | case3 depth cursor hrest hstart hend after hdepth =>
    exact ⟨_, Cursor.passes_skip_mark hend⟩
  | case4 depth cursor hrest hstart hend after hdepth ih =>
    obtain ⟨taken, hpasses⟩ := ih
    exact ⟨_, (Cursor.passes_skip_mark hend).trans hpasses⟩
  | case5 depth cursor hrest hstart hend ih =>
    obtain ⟨taken, hpasses⟩ := ih
    exact ⟨_, cursor.passes_advance_take.trans hpasses⟩

theorem closeFlat_passes (comment : BlockComment) (cursor : Cursor) :
    ∃ taken, cursor.Passes taken (place (comment.closeFlat cursor)) := by
  fun_induction closeFlat comment cursor with
  | case1 cursor hrest => exact ⟨[], Cursor.Passes.refl cursor⟩
  | case2 cursor hrest hstart => exact ⟨[], Cursor.Passes.refl cursor⟩
  | case3 cursor hrest hstart hend => exact ⟨_, Cursor.passes_skip_mark hend⟩
  | case4 cursor hrest hstart hend ih =>
    obtain ⟨taken, hpasses⟩ := ih
    exact ⟨_, cursor.passes_advance_take.trans hpasses⟩

theorem close_passes (comment : BlockComment) (cursor : Cursor) :
    ∃ taken, cursor.Passes taken (place (comment.close cursor)) := by
  rw [close_eq]
  split
  · exact comment.closeNested_passes 1 cursor
  · exact comment.closeFlat_passes cursor

/-! ### One round of the byte search -/

/-- What the search does at a character that starts a mark. -/
def Marks.round (marks : Marks) (text : Text) (bytes : List UInt8) (opened closed offset : Nat) :
    Except Fault Found :=
  match Utf8.dropTo bytes offset with
  | .error fault => .error fault
  | .ok rest =>
    if marks.startBytes.isPrefixOf rest then
      if marks.nesting then
        marks.search text bytes (opened + 1) closed (offset + marks.startBytes.length)
      else .ok (.missing offset)
    else if marks.endBytes.isPrefixOf rest then
      if !marks.nesting || opened ≤ closed + 1 then .ok (.closed (offset + marks.endBytes.length))
      else marks.search text bytes opened (closed + 1) (offset + marks.endBytes.length)
    else
      match Utf8.byteAt bytes offset with
      | .error fault => .error fault
      | .ok lead => marks.search text bytes opened closed (offset + Utf8.leadLength lead)

theorem Marks.search_eq_round {marks : Marks} {text ahead : Text} {bytes : List UInt8}
    {opened closed offset : Nat}
    (hdrop : Text.dropTo text offset = .ok ahead) :
    marks.search text bytes opened closed offset =
      match ahead.offsetOf? fun ch => ch == marks.startLead || ch == marks.endLead with
      | none => .ok (.missing bytes.length)
      | some leap => marks.round text bytes opened closed (offset + leap) := by
  rw [Marks.search, hdrop]
  dsimp only
  cases ahead.offsetOf? fun ch => ch == marks.startLead || ch == marks.endLead with
  | none => rfl
  | some leap =>
    dsimp only
    rw [Marks.round]
    split <;> rename_i hrest <;> rw [hrest]
    dsimp only
    split
    · rfl
    · split
      · rfl
      · split <;> rename_i hbyte <;> rw [hbyte]

variable (comment : BlockComment)

def searchAt (opened closed : Nat) (cursor : Cursor) : Except Fault Found :=
  comment.marks.search cursor.buffer.text cursor.buffer.bytes opened closed cursor.offset

def isLead (ch : Char) : Bool := ch == comment.marks.startLead || ch == comment.marks.endLead

variable {cursor : Cursor} {ch : Char} {rest : Text}

section

variable {opened closed : Nat}

theorem isLead_of_startsWith (hrest : cursor.rest = ch :: rest)
    (hmark : cursor.startsWith comment.startMark = true ∨
      cursor.startsWith comment.endMark = true) :
    comment.isLead ch = true := by
  have hhead {mark : Text} (hne : mark ≠ []) (hstarts : cursor.startsWith mark = true) :
      mark.head hne = ch := by
    obtain ⟨c, others, rfl⟩ := List.exists_cons_of_ne_nil hne
    rw [Cursor.startsWith, hrest, List.isPrefixOf_cons_cons, Bool.and_eq_true,
      beq_iff_eq] at hstarts
    exact hstarts.1
  rw [isLead, Bool.or_eq_true, beq_iff_eq, beq_iff_eq]
  rcases hmark with hmark | hmark
  · exact .inl (hhead comment.start_ne_nil hmark).symm
  · exact .inr (hhead comment.end_ne_nil hmark).symm

theorem searchAt_nil (hrest : cursor.rest = []) :
    comment.searchAt opened closed cursor = .ok (.missing cursor.offset) := by
  have hend := cursor.offset_add_size_rest
  rw [hrest, Text.size_nil, Nat.add_zero] at hend
  rw [searchAt, Marks.search_eq_round cursor.dropTo_text, hrest, Text.offsetOf?]
  dsimp only
  rw [hend]

theorem searchAt_of_not_isLead (hrest : cursor.rest = ch :: rest)
    (hlead : comment.isLead ch = false) :
    comment.searchAt opened closed cursor = comment.searchAt opened closed cursor.advance := by
  have hpasses := Cursor.passes_advance hrest
  have hahead := Cursor.rest_advance_of_cons hrest
  have hoffset := Cursor.offset_advance_of_cons hrest
  have hdrop := cursor.advance.dropTo_text
  have hno : (ch == comment.marks.startLead || ch == comment.marks.endLead) = false := hlead
  rw [searchAt, searchAt, Marks.search_eq_round cursor.dropTo_text, Marks.search_eq_round hdrop,
    hrest, hahead, hpasses.buffer_eq, hoffset, Text.offsetOf?, hno]
  simp only [Bool.false_eq_true, if_false]
  cases rest.offsetOf? fun ch => ch == comment.marks.startLead || ch == comment.marks.endLead with
  | none => rfl
  | some leap =>
    rw [Option.map_some]
    dsimp only
    rw [Nat.add_assoc]

theorem searchAt_of_isLead (hrest : cursor.rest = ch :: rest) (hlead : comment.isLead ch = true) :
    comment.searchAt opened closed cursor =
      comment.marks.round cursor.buffer.text cursor.buffer.bytes opened closed cursor.offset := by
  have hyes : (ch == comment.marks.startLead || ch == comment.marks.endLead) = true := hlead
  rw [searchAt, Marks.search_eq_round cursor.dropTo_text, hrest, Text.offsetOf?, if_pos hyes]
  rfl

theorem searchAt_step_of_isLead (hrest : cursor.rest = ch :: rest)
    (hlead : comment.isLead ch = true) : comment.searchAt opened closed cursor =
    if cursor.startsWith comment.startMark then
      if comment.nesting then
        comment.searchAt (opened + 1) closed (cursor.skip comment.startMark.length)
      else .ok (.missing cursor.offset)
    else if cursor.startsWith comment.endMark then
      if !comment.nesting || opened ≤ closed + 1 then
        .ok (.closed (cursor.skip comment.endMark.length).offset)
      else comment.searchAt opened (closed + 1) (cursor.skip comment.endMark.length)
    else comment.searchAt opened closed cursor.advance := by
  have hmark {mark : Text} (hstarts : cursor.startsWith mark = true) :
      (cursor.skip mark.length).buffer = cursor.buffer ∧
        (cursor.skip mark.length).offset = cursor.offset + (Utf8.encode mark).length := by
    have hpasses := Cursor.passes_skip_mark hstarts
    exact ⟨hpasses.buffer_eq, by rw [hpasses.offset_eq, Utf8.length_encode]⟩
  have hpasses := Cursor.passes_advance hrest
  have hadvance : cursor.advance.offset = cursor.offset + Utf8.leadLength (Utf8.lead ch) := by
    rw [Cursor.offset_advance_of_cons hrest, Utf8.leadLength_lead]
  rw [comment.searchAt_of_isLead hrest hlead, Marks.round, Cursor.byteAt_offset hrest,
    cursor.dropTo_bytes]
  change (if (Utf8.encode comment.startMark).isPrefixOf _ = true then _ else
    if (Utf8.encode comment.endMark).isPrefixOf _ = true then _ else _) = _
  rw [Utf8.isPrefixOf_encode, Utf8.isPrefixOf_encode]
  change (if cursor.startsWith _ = true then _ else if cursor.startsWith _ = true then _ else _) = _
  by_cases hstart : cursor.startsWith comment.startMark = true
  · obtain ⟨hbuffer, hoffset⟩ := hmark hstart
    rw [if_pos hstart, if_pos hstart]
    by_cases hnesting : comment.nesting = true
    · rw [if_pos hnesting, searchAt, hbuffer, hoffset]
      exact if_pos hnesting
    · rw [if_neg hnesting]
      exact if_neg hnesting
  · rw [if_neg hstart, if_neg hstart]
    by_cases hend : cursor.startsWith comment.endMark = true
    · obtain ⟨hbuffer, hoffset⟩ := hmark hend
      rw [if_pos hend, if_pos hend, searchAt, hbuffer, hoffset]
      rfl
    · rw [if_neg hend, if_neg hend, searchAt, hpasses.buffer_eq, hadvance]

/-- One round of the search, taken from a cursor, is one round of the walk. -/
theorem searchAt_step : comment.searchAt opened closed cursor =
    if cursor.rest = [] then .ok (.missing cursor.offset)
    else if cursor.startsWith comment.startMark then
      if comment.nesting then
        comment.searchAt (opened + 1) closed (cursor.skip comment.startMark.length)
      else .ok (.missing cursor.offset)
    else if cursor.startsWith comment.endMark then
      if !comment.nesting || opened ≤ closed + 1 then
        .ok (.closed (cursor.skip comment.endMark.length).offset)
      else comment.searchAt opened (closed + 1) (cursor.skip comment.endMark.length)
    else comment.searchAt opened closed cursor.advance := by
  cases hrest : cursor.rest with
  | nil => rw [if_pos rfl, comment.searchAt_nil hrest]
  | cons ch rest =>
    rw [if_neg (List.cons_ne_nil _ _)]
    cases hlead : comment.isLead ch with
    | false =>
      have hstart : ¬ cursor.startsWith comment.startMark = true := fun hstarts =>
        absurd (comment.isLead_of_startsWith hrest (.inl hstarts)) (by simp [hlead])
      have hend : ¬ cursor.startsWith comment.endMark = true := fun hstarts =>
        absurd (comment.isLead_of_startsWith hrest (.inr hstarts)) (by simp [hlead])
      rw [if_neg hstart, if_neg hend, comment.searchAt_of_not_isLead hrest hlead]
    | true => exact comment.searchAt_step_of_isLead hrest hlead

/-! ### Whole searches -/

/-- What a search finds, told by the cursor at which the walk stops. -/
def foundAt : Except Cursor Cursor → Found
  | .ok after => .closed after.offset
  | .error missing => .missing missing.offset

theorem searchAt_eq_closeCounted (hnesting : comment.nesting = true) (opened closed : Nat)
    (cursor : Cursor) : comment.searchAt opened closed cursor =
      .ok (foundAt (comment.closeCounted opened closed cursor)) := by
  fun_induction closeCounted comment opened closed cursor with
  | case1 opened closed cursor hend => rw [searchAt_nil comment (Cursor.atEnd_iff.1 hend), foundAt]
  | case2 opened closed cursor hmore hstart ih =>
    rw [searchAt_step, if_neg (mt Cursor.atEnd_iff.2 hmore), if_pos hstart, if_pos hnesting, ih]
  | case3 opened closed cursor hmore hstart hend after hdepth =>
    rw [searchAt_step, if_neg (mt Cursor.atEnd_iff.2 hmore), if_neg hstart, if_pos hend,
      if_pos (by simp [hdepth]), foundAt]
  | case4 opened closed cursor hmore hstart hend after hdepth ih =>
    rw [searchAt_step, if_neg (mt Cursor.atEnd_iff.2 hmore), if_neg hstart, if_pos hend,
      if_neg (by simp [hdepth, hnesting]), ih]
  | case5 opened closed cursor hmore hstart hend ih =>
    rw [searchAt_step, if_neg (mt Cursor.atEnd_iff.2 hmore), if_neg hstart, if_neg hend, ih]

theorem searchAt_eq_closeFlat (hnesting : comment.nesting = false) (opened closed : Nat)
    (cursor : Cursor) :
    comment.searchAt opened closed cursor = .ok (foundAt (comment.closeFlat cursor)) := by
  fun_induction closeFlat comment cursor with
  | case1 cursor hrest => rw [searchAt_nil comment hrest, foundAt]
  | case2 cursor hrest hstart =>
    rw [searchAt_step, if_neg hrest, if_pos hstart, if_neg (by simp [hnesting]), foundAt]
  | case3 cursor hrest hstart hend =>
    rw [searchAt_step, if_neg hrest, if_neg hstart, if_pos hend, if_pos (by simp [hnesting]),
      foundAt]
  | case4 cursor hrest hstart hend ih =>
    rw [searchAt_step, if_neg hrest, if_neg hstart, if_neg hend, ih]

/-- The byte search for the end of a comment stops where the walk does. -/
theorem searchAt_eq_close (cursor : Cursor) :
    comment.searchAt 1 0 cursor = .ok (foundAt (comment.close cursor)) := by
  rw [close_eq]
  split
  · rw [comment.searchAt_eq_closeCounted ‹_›, comment.closeCounted_eq Nat.one_pos]
  · exact comment.searchAt_eq_closeFlat (by simpa using ‹¬ comment.nesting = true›) 1 0 cursor

end

/-! ### Reading a comment -/

def opened (cursor : Cursor) : Cursor := cursor.skip comment.startMark.length

theorem passes_opened (hstart : cursor.startsWith comment.startMark = true) :
    cursor.Passes comment.startMark (comment.opened cursor) := Cursor.passes_skip_mark hstart

theorem atEnd_of_startsWith (hstart : cursor.startsWith comment.startMark = true) :
    cursor.atEnd = false :=
  Bool.eq_false_iff.2 (mt Cursor.atEnd_iff.1 (rest_ne_nil comment.start_ne_nil hstart))

theorem read_of_not_startsWith (hstart : cursor.startsWith comment.startMark = false) :
    comment.read cursor = .done none cursor := by
  rw [read, Scan.bind_apply, Scan.here_apply, Step.bind_done, hstart, Bool.not_false, Bool.or_true]
  rfl

theorem read_of_closed {after : Cursor} {taken : Text}
    (hstart : cursor.startsWith comment.startMark = true)
    (hclose : comment.close (comment.opened cursor) = .ok after)
    (hpasses : cursor.Passes taken after) :
    comment.read cursor = .done (some ⟨cursor.buffer, cursor.offset, taken⟩) after := by
  rw [opened] at hclose
  rw [read, Scan.bind_apply, Scan.here_apply, Step.bind_done, comment.atEnd_of_startsWith hstart,
    hstart, hclose]
  simp only [Bool.not_true, Bool.or_false, Bool.false_eq_true, if_false, Scan.bind_apply,
    Scan.goTo_apply,
    Step.bind_done, Scan.sliceFrom_of_passes hpasses]
  rfl

theorem read_of_missing {missing : Cursor} (hstart : cursor.startsWith comment.startMark = true)
    (hclose : comment.close (comment.opened cursor) = .error missing) :
    comment.read cursor =
      (Step.malformed (.missingEndComment comment.endMark missing.position) missing).after
        [.unterminatedComment missing.position comment.endMark] := by
  rw [opened] at hclose
  rw [read, Scan.bind_apply, Scan.here_apply, Step.bind_done, comment.atEnd_of_startsWith hstart,
    hstart, hclose]
  simp only [Bool.not_true, Bool.or_false, Bool.false_eq_true, if_false, Scan.bind_apply,
    Scan.goTo_apply,
    Step.bind_done, Scan.tell_apply, Step.bind_after, Scan.malformed_apply]

theorem exists_passes_close (hstart : cursor.startsWith comment.startMark = true) :
    ∃ taken, taken ≠ [] ∧ cursor.Passes taken (place (comment.close (comment.opened cursor))) := by
  obtain ⟨taken, hpasses⟩ := comment.close_passes (comment.opened cursor)
  refine ⟨comment.startMark ++ taken, ?_, (comment.passes_opened hstart).trans hpasses⟩
  exact List.append_ne_nil_of_left_ne_nil comment.start_ne_nil _

theorem read_ends (cursor : Cursor) : (comment.read cursor).Ends cursor.Reads cursor.Stops := by
  cases hstart : cursor.startsWith comment.startMark with
  | false =>
    rw [comment.read_of_not_startsWith hstart]
    exact rfl
  | true =>
    obtain ⟨taken, htaken, hpasses⟩ := comment.exists_passes_close hstart
    cases hclose : comment.close (comment.opened cursor) with
    | ok after =>
      rw [hclose] at hpasses
      rw [comment.read_of_closed hstart hclose hpasses]
      exact ⟨taken, htaken, rfl, hpasses⟩
    | error missing =>
      rw [hclose] at hpasses
      rw [comment.read_of_missing hstart hclose]
      exact ⟨rfl, taken, hpasses⟩

/-- Searching the bytes for a block comment comes to what walking the cursor comes to, and tells
nothing. -/
theorem run_compile (cursor : Cursor) :
    comment.compile.run cursor = (comment.read cursor).quiet := by
  have hinitial : comment.marks.startBytes.isPrefixOf (Utf8.encode cursor.rest) =
      cursor.startsWith comment.startMark := Utf8.isPrefixOf_encode _ _
  simp only [compile, Scan.bind_apply, Scan.here_apply, Step.bind_done,
    Cursor.length_bytes_le_offset]
  cases hstart : cursor.startsWith comment.startMark with
  | false =>
    rw [comment.read_of_not_startsWith hstart]
    split
    · rfl
    · simp only [Scan.bind_apply, Cursor.dropTo_bytes, Scan.attempt_ok, Step.bind_done, hinitial,
        hstart]
      rfl
  | true =>
    have hrest := rest_ne_nil comment.start_ne_nil hstart
    have hoffset :
        (comment.opened cursor).offset = cursor.offset + comment.marks.startBytes.length := by
      rw [(comment.passes_opened hstart).offset_eq]
      exact congrArg _ (Utf8.length_encode _).symm
    have hsearch := comment.searchAt_eq_close (comment.opened cursor)
    rw [searchAt, (comment.passes_opened hstart).buffer_eq, hoffset] at hsearch
    obtain ⟨taken, htaken, hpasses⟩ := comment.exists_passes_close hstart
    rw [if_neg hrest]
    simp only [Scan.bind_apply, Cursor.dropTo_bytes, Scan.attempt_ok, Step.bind_done, hinitial,
      hstart, hsearch, Bool.not_true, Bool.false_eq_true, if_false]
    cases hclose : comment.close (comment.opened cursor) with
    | ok after =>
      rw [hclose] at hpasses
      have hcommit := Scan.commit_of_passes hpasses
      rw [comment.read_of_closed hstart hclose hpasses, foundAt]
      exact congrArg (fun step => step.bind fun slice => pure (some slice)) hcommit
    | error missing =>
      rw [hclose] at hpasses
      rw [comment.read_of_missing hstart hclose, foundAt, Step.quiet_after_trace _ rfl]
      exact Scan.failAt_of_passes hpasses _

end Lexkit.BlockComment
