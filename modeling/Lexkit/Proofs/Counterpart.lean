import Lexkit.Proofs.Position
import Lexkit.Proofs.Scan.Loop

/-!
# What a scan sees

A scan that sees only what is ahead does at a cursor what it does at a fresh cursor over the text
ahead. The two runs go through different buffers at different positions, and they are compared by
way of an origin, the cursor at which the second run starts. Two cursors are counterparts if the
same text is ahead of both and the second has the position of the first, rebased on the origin; two
steps are counterparts if they end alike with cursors that are. This goes through every way to build
a scan, so that a scan sees only what is ahead if the scans in it do.
-/

namespace Lexkit

/-! ### Texts at the end of a text -/

namespace Text

theorem dropTo_append_add (before text : Text) (offset : Nat) :
    dropTo (before ++ text) (size before + offset) = dropTo text offset := by
  induction before with
  | nil => rw [List.nil_append, size_nil, Nat.zero_add]
  | cons ch before ih =>
    have hpos := ch.utf8Size_pos
    obtain ⟨total, htotal⟩ : ∃ total, size (ch :: before) + offset = total + 1 :=
      ⟨size (ch :: before) + offset - 1, by rw [size_cons]; omega⟩
    rw [size_cons] at htotal
    have hleft : total + 1 - ch.utf8Size = size before + offset := by omega
    rw [List.cons_append, size_cons, htotal, dropTo, if_pos (by omega), hleft, ih]

theorem between_append_add (before text : Text) (start stop : Nat) :
    between (before ++ text) (size before + start) (size before + stop) =
      between text start stop := by
  have hdistance : size before + stop - (size before + start) = stop - start := by omega
  rw [between, between, dropTo_append_add, hdistance]
  by_cases hreversed : stop < start
  · rw [if_pos hreversed, if_pos (by omega)]
  · rw [if_neg hreversed, if_neg (by omega)]

end Text

/-! ### Cursors -/

namespace Cursor

/-- The cursor `moved` stands in the buffer of `origin` where `fresh` stands in a buffer that holds
nothing but the text ahead of `origin`. -/
structure Counterpart (origin fresh moved : Cursor) : Prop where
  fresh_buffer_eq : fresh.buffer = .ofText 0 origin.rest
  buffer_eq : moved.buffer = origin.buffer
  rest_eq : moved.rest = fresh.rest
  fromOne : fresh.position.FromOne
  position_eq : moved.position = fresh.position.rebase origin.position

theorem counterpart_self (origin : Cursor) : origin.Counterpart (.ofText origin.rest) origin :=
  ⟨rfl, rfl, rfl, Position.fromOne_start, (Position.rebase_start _).symm⟩

namespace Counterpart

variable {origin fresh moved after other : Cursor} {taken : Text}

theorem offset_eq (hcursor : origin.Counterpart fresh moved) :
    moved.offset = origin.offset + fresh.offset := by
  rw [offset, hcursor.position_eq, Position.offset_rebase]
  rfl

theorem peek_eq (hcursor : origin.Counterpart fresh moved) : moved.peek = fresh.peek := by
  rw [peek, peek, hcursor.rest_eq]

theorem peekNth_eq (hcursor : origin.Counterpart fresh moved) (n : Nat) :
    moved.peekNth n = fresh.peekNth n := by
  rw [peekNth, peekNth, hcursor.rest_eq]

theorem startsWith_eq (hcursor : origin.Counterpart fresh moved) (mark : Text) :
    moved.startsWith mark = fresh.startsWith mark := by
  rw [startsWith, startsWith, hcursor.rest_eq]

/-- Passing the same text leads to counterparts. -/
theorem passes (hcursor : origin.Counterpart fresh moved) (hfresh : fresh.Passes taken after)
    (hmoved : moved.Passes taken other) : origin.Counterpart after other where
  fresh_buffer_eq := hfresh.buffer_eq.trans hcursor.fresh_buffer_eq
  buffer_eq := hmoved.buffer_eq.trans hcursor.buffer_eq
  rest_eq := by
    have hrest := hcursor.rest_eq
    rw [hfresh.rest_eq, hmoved.rest_eq] at hrest
    exact List.append_cancel_left hrest
  fromOne := by
    rw [hfresh.position_eq]
    exact hcursor.fromOne.stepOver taken
  position_eq := by
    rw [hmoved.position_eq, hfresh.position_eq, hcursor.position_eq,
      Position.stepOver_rebase hcursor.fromOne]

/-- Between counterparts lies the same text. -/
theorem passes_of (hcursor : origin.Counterpart fresh moved)
    (hafter : origin.Counterpart after other) (hfresh : fresh.Passes taken after) :
    moved.Passes taken other where
  buffer_eq := hafter.buffer_eq.trans hcursor.buffer_eq.symm
  rest_eq := by rw [hcursor.rest_eq, hfresh.rest_eq, hafter.rest_eq]
  position_eq := by
    rw [hafter.position_eq, hfresh.position_eq, hcursor.position_eq,
      Position.stepOver_rebase hcursor.fromOne]

theorem advance (hcursor : origin.Counterpart fresh moved) :
    origin.Counterpart fresh.advance moved.advance := by
  have hmoved := moved.passes_advance_take
  rw [hcursor.rest_eq] at hmoved
  exact hcursor.passes fresh.passes_advance_take hmoved

theorem skip (hcursor : origin.Counterpart fresh moved) (n : Nat) :
    origin.Counterpart (fresh.skip n) (moved.skip n) := by
  have hmoved := moved.passes_skip n
  rw [hcursor.rest_eq] at hmoved
  exact hcursor.passes (fresh.passes_skip n) hmoved

theorem skipWhile (hcursor : origin.Counterpart fresh moved) (p : Char → Bool) :
    origin.Counterpart (fresh.skipWhile p) (moved.skipWhile p) := by
  have hmoved := moved.passes_skipWhile p
  rw [hcursor.rest_eq] at hmoved
  exact hcursor.passes (fresh.passes_skipWhile p) hmoved

theorem toEnd (hcursor : origin.Counterpart fresh moved) :
    origin.Counterpart fresh.toEnd moved.toEnd := by
  have hmoved := moved.passes_toEnd
  rw [hcursor.rest_eq] at hmoved
  exact hcursor.passes fresh.passes_toEnd hmoved

/-- What two counterparts come to is compared by what a fresh cursor comes to from there. -/
theorem through (hcursor : origin.Counterpart fresh moved) {place : Cursor}
    (hfresh : fresh.Counterpart place after) (hmoved : moved.Counterpart place other) :
    origin.Counterpart after other where
  fresh_buffer_eq := hfresh.buffer_eq.trans hcursor.fresh_buffer_eq
  buffer_eq := hmoved.buffer_eq.trans hcursor.buffer_eq
  rest_eq := hmoved.rest_eq.trans hfresh.rest_eq.symm
  fromOne := by
    rw [hfresh.position_eq]
    exact hfresh.fromOne.rebase hcursor.fromOne
  position_eq := by
    rw [hmoved.position_eq, hfresh.position_eq, hcursor.position_eq,
      Position.rebase_rebase hcursor.fromOne hfresh.fromOne]

end Counterpart

end Cursor

/-! ### Slices -/

namespace Slice

/-- Slices of the same text: in the buffers of the two runs, or each in a buffer of its own. -/
inductive Counterpart (origin : Cursor) : Slice → Slice → Prop
  | shared (start : Nat) (text : Text) :
    Counterpart origin ⟨.ofText 0 origin.rest, start, text⟩
      ⟨origin.buffer, origin.offset + start, text⟩
  | own (text : Text) :
    Counterpart origin (.whole (.ofText 1 text)) (.whole (.ofText (origin.buffer.id + 1) text))

/-- Both scans give nothing, or slices of the same text. -/
def Counterparts (origin : Cursor) : Option Slice → Option Slice → Prop :=
  Option.Rel (Counterpart origin)

variable {origin fresh moved : Cursor}

theorem Counterpart.text_eq {left right : Slice} (hslice : Counterpart origin left right) :
    right.text = left.text := by
  cases hslice <;> rfl

theorem counterpart_add (hcursor : origin.Counterpart fresh moved) (distance : Nat)
    (text : Text) :
    Counterpart origin ⟨fresh.buffer, fresh.offset + distance, text⟩
      ⟨moved.buffer, moved.offset + distance, text⟩ := by
  rw [hcursor.fresh_buffer_eq, hcursor.buffer_eq, hcursor.offset_eq, Nat.add_assoc]
  exact .shared _ _

theorem counterpart_here (hcursor : origin.Counterpart fresh moved) (text : Text) :
    Counterpart origin ⟨fresh.buffer, fresh.offset, text⟩ ⟨moved.buffer, moved.offset, text⟩ :=
  counterpart_add hcursor 0 text

theorem make_eq_map (buffer : Buffer) (start stop : Nat) :
    make buffer start stop = (Text.between buffer.text start stop).map (⟨buffer, start, ·⟩) := by
  rw [make]
  cases Text.between buffer.text start stop <;> rfl

/-- A slice can be made in both buffers or in neither. -/
theorem sliceFrom_counterpart (hcursor : origin.Counterpart fresh moved) {after other : Cursor}
    (hafter : origin.Counterpart after other) :
    (∃ left right, after.sliceFrom fresh.offset = .ok left ∧
      other.sliceFrom moved.offset = .ok right ∧ Counterpart origin left right) ∨
    ∃ reason, after.sliceFrom fresh.offset = .error reason ∧
      other.sliceFrom moved.offset = .error reason := by
  obtain ⟨before, htext, hsize⟩ := origin.exists_before
  have hbetween : Text.between origin.buffer.text moved.offset other.offset =
      Text.between (Buffer.ofText 0 origin.rest).text fresh.offset after.offset := by
    rw [htext, hcursor.offset_eq, hafter.offset_eq, ← hsize, Text.between_append_add]
    rfl
  rw [Cursor.sliceFrom, Cursor.sliceFrom, Cursor.slice, Cursor.slice, make_eq_map, make_eq_map,
    hafter.fresh_buffer_eq, hafter.buffer_eq, hbetween, hcursor.offset_eq]
  cases Text.between (Buffer.ofText 0 origin.rest).text fresh.offset after.offset with
  | error reason => exact .inr ⟨reason, rfl, rfl⟩
  | ok text => exact .inl ⟨_, _, rfl, rfl, .shared _ _⟩

end Slice

/-! ### Steps -/

namespace Step

variable {α β : Type} {origin fresh moved : Cursor}

/-- Two steps that end alike: with values that are the same to `same`, with the same error at
positions that correspond, or with the same fault; and with cursors that are counterparts. -/
inductive Counterpart (origin : Cursor) (same : α → α → Prop) : Step α → Step α → Prop
  | ok {fresh moved : Cursor} {left right : α} {events others : List Event}
    (hcursor : origin.Counterpart fresh moved) (hsame : same left right) :
    Counterpart origin same ⟨.ok left, fresh, events⟩ ⟨.ok right, moved, others⟩
  | malformed {fresh moved : Cursor} {error : ScanError} {events others : List Event}
    (hcursor : origin.Counterpart fresh moved) (hone : error.position.FromOne) :
    Counterpart origin same ⟨.error (.malformed error), fresh, events⟩
      ⟨.error (.malformed (error.rebase origin.position)), moved, others⟩
  | fault {fresh moved : Cursor} {reason : Fault} {events others : List Event}
    (hcursor : origin.Counterpart fresh moved) :
    Counterpart origin same ⟨.error (.fault reason), fresh, events⟩
      ⟨.error (.fault reason), moved, others⟩

namespace Counterpart

variable {same same' : α → α → Prop} {left right : Step α}

theorem cursor (hstep : left.Counterpart origin same right) :
    origin.Counterpart left.cursor right.cursor := by
  cases hstep <;> assumption

theorem after (events others : List Event) (hstep : left.Counterpart origin same right) :
    (left.after events).Counterpart origin same (right.after others) := by
  cases hstep with
  | ok hcursor hsame => exact .ok hcursor hsame
  | malformed hcursor hone => exact .malformed hcursor hone
  | fault hcursor => exact .fault hcursor

theorem quiet (hstep : left.Counterpart origin same right) :
    left.quiet.Counterpart origin same right.quiet := by
  cases hstep with
  | ok hcursor hsame => exact .ok hcursor hsame
  | malformed hcursor hone => exact .malformed hcursor hone
  | fault hcursor => exact .fault hcursor

theorem bind {next other : α → Scan β} {same' : β → β → Prop}
    (hstep : left.Counterpart origin same right)
    (hnext : ∀ {value value' fresh moved}, same value value' → origin.Counterpart fresh moved →
      (next value fresh).Counterpart origin same' (other value' moved)) :
    (left.bind next).Counterpart origin same' (right.bind other) := by
  cases hstep with
  | ok hcursor hsame => exact (hnext hsame hcursor).after _ _
  | malformed hcursor hone => exact .malformed hcursor hone
  | fault hcursor => exact .fault hcursor

theorem map {f g : α → β} {same' : β → β → Prop} (hstep : left.Counterpart origin same right)
    (hmap : ∀ {value value'}, same value value' → same' (f value) (g value')) :
    (left.map f).Counterpart origin same' (right.map g) := by
  cases hstep with
  | ok hcursor hsame => exact .ok hcursor (hmap hsame)
  | malformed hcursor hone => exact .malformed hcursor hone
  | fault hcursor => exact .fault hcursor

end Counterpart

end Step

/-! ### Scans -/

/-- Two rounds say that they were the last ones, with the same value, or that their loops go on,
with changes that turn the same values into the same. -/
inductive Round.Same {α : Type} (same : α → α → Prop) : Round α → Round α → Prop
  | last {left right : α} (hsame : same left right) : Same same (.last left) (.last right)
  | again {change change' : α → α}
    (hchange : ∀ {left right}, same left right → same (change left) (change' right)) :
    Same same (.again change) (.again change')

namespace Scan

variable {α β : Type} {origin fresh moved : Cursor}

/-- At every cursor the scan does what it does at a fresh cursor over the text ahead: it ends alike,
and leaves the counterpart of the cursor that it leaves there. -/
def SeesAhead (same : Cursor → α → α → Prop) (scan : Scan α) : Prop :=
  ∀ cursor, (scan (.ofText cursor.rest)).Counterpart cursor (same cursor) (scan cursor)

/-- Wherever two cursors are counterparts, the scan ends alike at both. -/
def Tracks (same : Cursor → α → α → Prop) (scan : Scan α) : Prop :=
  ∀ ⦃origin fresh moved⦄, origin.Counterpart fresh moved →
    (scan fresh).Counterpart origin (same origin) (scan moved)

theorem Tracks.seesAhead {same : Cursor → α → α → Prop} {scan : Scan α}
    (hscan : scan.Tracks same) : scan.SeesAhead same := fun cursor => hscan cursor.counterpart_self

/-- Both cursors are compared with a fresh one over the text that is ahead of both. -/
theorem SeesAhead.tracks {scan : Scan α} (hscan : scan.SeesAhead fun _ => Eq) :
    scan.Tracks fun _ => Eq := by
  intro origin fresh moved hcursor
  have hfresh := hscan fresh
  have hmoved := hscan moved
  rw [hcursor.rest_eq] at hmoved
  generalize scan (.ofText fresh.rest) = start at hfresh hmoved
  generalize scan fresh = left at hfresh ⊢
  generalize scan moved = right at hmoved ⊢
  cases hfresh with
  | ok hafter hsame =>
    subst hsame
    cases hmoved with
    | ok hother hsame => exact .ok (hcursor.through hafter hother) hsame
  | malformed hafter hone =>
    cases hmoved with
    | malformed hother _ =>
      rw [hcursor.position_eq, ← ScanError.rebase_rebase hcursor.fromOne hone]
      refine .malformed (hcursor.through hafter hother) ?_
      rw [ScanError.position_rebase]
      exact hone.rebase hcursor.fromOne
  | fault hafter =>
    cases hmoved with
    | fault hother => exact .fault (hcursor.through hafter hother)

theorem sliceFrom_tracks (hcursor : origin.Counterpart fresh moved) {after other : Cursor}
    (hafter : origin.Counterpart after other) :
    (sliceFrom fresh.offset after).Counterpart origin (Slice.Counterpart origin)
      (sliceFrom moved.offset other) := by
  simp only [sliceFrom, bind_apply, here_apply, Step.bind_done]
  rcases Slice.sliceFrom_counterpart hcursor hafter with
    ⟨left, right, hleft, hright, hslice⟩ | ⟨reason, hleft, hright⟩
  · rw [hleft, hright]
    exact .ok hafter hslice
  · rw [hleft, hright]
    exact .fault hafter

theorem Tracks.orReturn {same : Cursor → α → α → Prop} {scan : Scan (Option α)}
    (hscan : scan.Tracks fun origin => Option.Rel (same origin)) :
    (orReturn scan).Tracks fun origin => Option.Rel (same origin) := by
  intro origin fresh moved hcursor
  have hstep := hscan hcursor
  rw [orReturn_apply, orReturn_apply]
  generalize scan fresh = left at hstep ⊢
  generalize scan moved = right at hstep ⊢
  cases hstep with
  | ok hafter hsame =>
    cases hsame with
    | none => exact .ok hcursor .none
    | some hsame => exact .ok hafter (.some hsame)
  | malformed hafter hone => exact .malformed hafter hone
  | fault hafter => exact .fault hafter

theorem Tracks.loop {same : Cursor → α → α → Prop} {round : Scan (Round α)}
    (hround : round.Tracks fun origin => Round.Same (same origin)) : round.loop.Tracks same := by
  intro origin fresh moved hcursor
  refine loop_alike (S := Step.Counterpart origin (same origin)) ?_ .fault hcursor
  intro fresh moved hcursor
  have hstep := hround hcursor
  generalize round fresh = left at hstep ⊢
  generalize round moved = right at hstep ⊢
  cases hstep with
  | ok hafter hsaid =>
    cases hsaid with
    | last hsame => exact .last (.ok hafter hsame)
    | again hchange => exact .again hafter fun _ _ hothers => (hothers.map hchange).after _ _
  | malformed hafter hone => exact .halted (.malformed hafter hone)
  | fault hafter => exact .halted (.fault hafter)

theorem Tracks.untilNo {asks : Scan Bool} (hasks : asks.Tracks fun _ => Eq) :
    asks.untilNo.Tracks fun _ => Eq := by
  refine Tracks.loop fun origin fresh moved hcursor => ?_
  rw [answered_apply, answered_apply]
  refine (hasks hcursor).map ?_
  rintro answer _ rfl
  cases answer with
  | false => exact .last rfl
  | true => exact .again fun _ => rfl

end Scan

end Lexkit
