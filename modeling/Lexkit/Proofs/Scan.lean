import Lexkit.Proofs.Cursor
import Lexkit.Scan

/-!
# Comparing scans and bounding them

Two questions are asked of a scan throughout. The first is whether two scans do the same. The two
forms of a scanner come to the same value or error and to the same cursor, but only the walking form
tells trace events, so a step is compared after `quiet` has removed these. Because `quiet` goes
through every way of building a scan, one equation for each leaf is enough.

The second is how a scan may end. `Ends good bad` bounds the value and the error together with the
cursor left behind, and leaves no room for a fault: a scan with such a bound refuses no operation.
-/

namespace Lexkit

namespace Step

variable {α β : Type}

/-! ### Steps without trace events -/

def loud (events : List Event) : List Event := events.filter fun event => event.level ≠ .trace

@[simp] theorem loud_nil : loud [] = [] := rfl

@[simp] theorem loud_append (first second : List Event) :
    loud (first ++ second) = loud first ++ loud second := List.filter_append _ _

@[simp] theorem loud_loud (events : List Event) : loud (loud events) = loud events := by
  simp [loud]

/-- The step without what it told at the trace level. -/
def quiet (step : Step α) : Step α := ⟨step.outcome, step.cursor, loud step.events⟩

variable (step : Step α)

@[simp] theorem outcome_quiet : step.quiet.outcome = step.outcome := rfl

@[simp] theorem cursor_quiet : step.quiet.cursor = step.cursor := rfl

@[simp] theorem events_quiet : step.quiet.events = loud step.events := rfl

@[simp] theorem quiet_quiet : step.quiet.quiet = step.quiet := by
  simp [quiet]

@[simp] theorem quiet_done (value : α) (cursor : Cursor) :
    (done value cursor).quiet = done value cursor := rfl

@[simp] theorem quiet_malformed (error : ScanError) (cursor : Cursor) :
    (malformed error cursor : Step α).quiet = malformed error cursor := rfl

@[simp] theorem quiet_fault (reason : Fault) (cursor : Cursor) :
    (fault reason cursor : Step α).quiet = fault reason cursor := rfl

theorem quiet_after (events : List Event) :
    (step.after events).quiet = step.quiet.after (loud events) := by
  simp [quiet, after]

theorem quiet_after_trace {event : Event} (hevent : event.level = .trace) :
    (step.after [event]).quiet = step.quiet := by
  rw [quiet_after]
  simp [loud, hevent]

theorem quiet_bind (next : α → Scan β) :
    (step.bind next).quiet = step.quiet.bind fun value cursor => (next value cursor).quiet := by
  obtain ⟨outcome, cursor, events⟩ := step
  cases outcome with
  | error halt => rfl
  | ok value => exact quiet_after (next value cursor) events

theorem quiet_map (f : α → β) : (step.map f).quiet = step.quiet.map f := rfl

theorem outcome_bind_eq_ok {step : Step α} {next : α → Scan β} {value : β} :
    (step.bind next).outcome = .ok value ↔
      ∃ first, step.outcome = .ok first ∧ (next first step.cursor).outcome = .ok value := by
  obtain ⟨outcome, cursor, events⟩ := step
  cases outcome with
  | error halt => simp [bind]
  | ok first => simp [bind, after]

theorem outcome_map_eq_ok {step : Step α} {f : α → β} {value : β} :
    (step.map f).outcome = .ok value ↔ ∃ first, step.outcome = .ok first ∧ f first = value := by
  obtain ⟨outcome, cursor, events⟩ := step
  cases outcome with
  | error halt => simp [map, Except.map]
  | ok first => simp [map, Except.map]

theorem outcome_map_eq_error {step : Step α} {f : α → β} {halt : Halt} :
    (step.map f).outcome = .error halt ↔ step.outcome = .error halt := by
  obtain ⟨outcome, cursor, events⟩ := step
  cases outcome with
  | error halt => simp [map, Except.map]
  | ok first => simp [map, Except.map]

theorem bind_of_ok {value : α} (hok : step.outcome = .ok value) (next : α → Scan β) :
    step.bind next = (next value step.cursor).after step.events := by
  rw [bind, hok]

theorem bind_of_error {halt : Halt} (herror : step.outcome = .error halt) (next : α → Scan β) :
    step.bind next = ⟨.error halt, step.cursor, step.events⟩ := by
  rw [bind, herror]

theorem map_id' : step.map (fun value => value) = step := by
  obtain ⟨outcome, cursor, events⟩ := step
  cases outcome <;> rfl

theorem map_map {γ : Type} (f : α → β) (g : β → γ) :
    (step.map f).map g = step.map fun value => g (f value) := by
  obtain ⟨outcome, cursor, events⟩ := step
  cases outcome <;> rfl

theorem bind_map {γ : Type} (f : α → β) (next : β → Scan γ) :
    (step.map f).bind next = step.bind fun value => next (f value) := by
  obtain ⟨outcome, cursor, events⟩ := step
  cases outcome <;> rfl

theorem bind_pure (f : α → β) : (step.bind fun value => pure (f value)) = step.map f := by
  obtain ⟨outcome, cursor, events⟩ := step
  cases outcome with
  | error halt => rfl
  | ok value => exact congrArg (mk _ cursor) (List.append_nil events)

theorem map_bind {γ : Type} (next : α → Scan β) (f : β → γ) :
    (step.bind next).map f = step.bind fun value cursor => (next value cursor).map f := by
  obtain ⟨outcome, cursor, events⟩ := step
  cases outcome <;> rfl

/-- Two steps come to the same value or error and leave the same cursor. -/
def Agrees (left right : Step α) : Prop := left.outcome = right.outcome ∧ left.cursor = right.cursor

theorem agrees_of_eq_quiet {left right : Step α} (hquiet : left = right.quiet) :
    left.Agrees right := by
  rw [hquiet]
  exact ⟨rfl, rfl⟩

theorem agrees_of_quiet_eq {left right : Step α} (hquiet : left.quiet = right.quiet) :
    left.Agrees right := by
  rw [quiet, quiet, mk.injEq] at hquiet
  exact ⟨hquiet.1, hquiet.2.1⟩

namespace Agrees

variable {left middle right : Step α}

theorem refl (step : Step α) : step.Agrees step := ⟨rfl, rfl⟩

theorem symm (hagrees : left.Agrees right) : right.Agrees left := ⟨hagrees.1.symm, hagrees.2.symm⟩

theorem trans (hleft : left.Agrees middle) (hright : middle.Agrees right) : left.Agrees right :=
  ⟨hleft.1.trans hright.1, hleft.2.trans hright.2⟩

theorem after (events others : List Event) (hagrees : left.Agrees right) :
    (left.after events).Agrees (right.after others) := hagrees

theorem map (f : α → β) (hagrees : left.Agrees right) : (left.map f).Agrees (right.map f) :=
  ⟨congrArg (Except.map f) hagrees.1, hagrees.2⟩

theorem bind {next other : α → Scan β} (hagrees : left.Agrees right)
    (hnext : ∀ value cursor, (next value cursor).Agrees (other value cursor)) :
    (left.bind next).Agrees (right.bind other) := by
  obtain ⟨outcome, cursor, events⟩ := left
  obtain ⟨outcome', cursor', events'⟩ := right
  obtain ⟨rfl, rfl⟩ : outcome = outcome' ∧ cursor = cursor' := hagrees
  cases outcome with
  | ok value => exact (hnext value cursor).after events events'
  | error halt => exact ⟨rfl, rfl⟩

end Agrees

theorem agrees_quiet (step : Step α) : step.quiet.Agrees step := ⟨rfl, rfl⟩

/-- No operation was refused: the step ends with a value or on malformed input. -/
def Faultless (step : Step α) : Prop := ∀ reason, step.outcome ≠ .error (.fault reason)

/-! ### How a step may end -/

/-- The step ends with a value and a cursor that satisfy `good`, or on malformed input with an error
and a cursor that satisfy `bad`; it is no fault. -/
def Ends (good : α → Cursor → Prop) (bad : ScanError → Cursor → Prop) (step : Step α) : Prop :=
  match step.outcome with
  | .ok value => good value step.cursor
  | .error (.malformed error) => bad error step.cursor
  | .error (.fault _) => False

variable {good good' : α → Cursor → Prop} {bad bad' : ScanError → Cursor → Prop} {step}

@[simp] theorem ends_done {value : α} {cursor : Cursor} :
    (done value cursor).Ends good bad ↔ good value cursor := Iff.rfl

@[simp] theorem ends_malformed {error : ScanError} {cursor : Cursor} :
    (malformed error cursor).Ends good bad ↔ bad error cursor := Iff.rfl

@[simp] theorem ends_after {events : List Event} :
    (step.after events).Ends good bad ↔ step.Ends good bad :=
  Iff.rfl

@[simp] theorem ends_quiet : step.quiet.Ends good bad ↔ step.Ends good bad := Iff.rfl

/-- How a step may end is a matter of its value or error and its cursor. -/
theorem Agrees.ends_iff {left right : Step α} (hagrees : left.Agrees right) :
    left.Ends good bad ↔ right.Ends good bad := by
  unfold Ends
  rw [hagrees.1, hagrees.2]

theorem Ends.mono (hends : step.Ends good bad)
    (hgood : ∀ value cursor, good value cursor → good' value cursor)
    (hbad : ∀ error cursor, bad error cursor → bad' error cursor) : step.Ends good' bad' := by
  unfold Ends at hends ⊢
  split at hends
  · exact hgood _ _ hends
  · exact hbad _ _ hends
  · exact hends

/-- What a step is known to end with is what the next one starts from. -/
theorem Ends.bind {next : α → Scan β} {after : β → Cursor → Prop} (hends : step.Ends good bad)
    (hnext : ∀ value cursor, good value cursor → (next value cursor).Ends after bad) :
    (step.bind next).Ends after bad := by
  obtain ⟨outcome, cursor, events⟩ := step
  cases outcome with
  | ok value => exact hnext value cursor hends
  | error halt =>
    cases halt with
    | malformed error => exact hends
    | fault reason => exact hends

theorem Ends.map {f : α → β} {after : β → Cursor → Prop} (hends : step.Ends good bad)
    (hgood : ∀ value cursor, good value cursor → after (f value) cursor) :
    (step.map f).Ends after bad := by
  obtain ⟨outcome, cursor, events⟩ := step
  cases outcome with
  | ok value => exact hgood value cursor hends
  | error halt =>
    cases halt with
    | malformed error => exact hends
    | fault reason => exact hends

/-- What is known of the cursor after a value may be added. -/
theorem Ends.and_of_ok (hends : step.Ends good bad)
    (hgood : ∀ value, step.outcome = .ok value → good' value step.cursor) :
    step.Ends (fun value cursor => good value cursor ∧ good' value cursor) bad := by
  obtain ⟨outcome, cursor, events⟩ := step
  cases outcome with
  | ok value => exact ⟨hends, hgood value rfl⟩
  | error halt =>
    cases halt with
    | malformed error => exact hends
    | fault reason => exact hends

theorem Ends.of_ok (hends : step.Ends good bad) {value : α} (hok : step.outcome = .ok value) :
    good value step.cursor := by
  unfold Ends at hends
  rwa [hok] at hends

theorem Ends.of_malformed (hends : step.Ends good bad) {error : ScanError}
    (hmalformed : step.outcome = .error (.malformed error)) : bad error step.cursor := by
  unfold Ends at hends
  rwa [hmalformed] at hends

theorem Ends.faultless (hends : step.Ends good bad) : step.Faultless := by
  intro reason hfault
  unfold Ends at hends
  rwa [hfault] at hends

end Step

namespace Scan

variable {α : Type}

/-- The scan without what it tells at the trace level. -/
def quiet (scan : Scan α) : Scan α := fun cursor => (scan cursor).quiet

@[simp] theorem quiet_apply (scan : Scan α) (cursor : Cursor) :
    scan.quiet cursor = (scan cursor).quiet := rfl

theorem quiet_orReturn (scan : Scan (Option α)) (cursor : Cursor) :
    (orReturn scan cursor).quiet = orReturn scan.quiet cursor := by
  simp only [orReturn, bind_apply, here_apply, Step.bind_done, Step.quiet_bind, quiet_apply]
  apply congrArg
  funext found after
  cases found <;> rfl

theorem cursor_sliceFrom (start : Nat) (cursor : Cursor) :
    (sliceFrom start cursor).cursor = cursor := by
  simp only [sliceFrom, bind_apply, here_apply, Step.bind_done]
  cases cursor.sliceFrom start <;> rfl

theorem quiet_sliceFrom (start : Nat) (cursor : Cursor) :
    (sliceFrom start cursor).quiet = sliceFrom start cursor := by
  simp only [sliceFrom, bind_apply, here_apply, Step.bind_done]
  cases cursor.sliceFrom start <;> rfl

/-- A scan that comes back changes nothing but the cursor it leaves without a match. -/
theorem orReturn_apply (scan : Scan (Option α)) (cursor : Cursor) :
    orReturn scan cursor =
      ⟨(scan cursor).outcome,
        match (scan cursor).outcome with
        | .ok none => cursor
        | _ => (scan cursor).cursor,
        (scan cursor).events⟩ := by
  rw [orReturn, bind_apply, here_apply, Step.bind_done, bind_apply]
  obtain ⟨outcome, after, events⟩ := scan cursor
  cases outcome with
  | error halt => rfl
  | ok found =>
    have hevents : events ++ [] = events := List.append_nil events
    cases found with
    | none => exact congrArg (Step.mk (.ok none) cursor) hevents
    | some value => exact congrArg (Step.mk (.ok (some value)) after) hevents

theorem orReturn_agrees {scan other : Scan (Option α)} {cursor : Cursor}
    (hagrees : (scan cursor).Agrees (other cursor)) :
    (orReturn scan cursor).Agrees (orReturn other cursor) := by
  rw [orReturn_apply, orReturn_apply, hagrees.1, hagrees.2]
  exact ⟨rfl, rfl⟩

theorem cursor_orReturn {scan : Scan (Option α)} {cursor : Cursor}
    (hnone : (orReturn scan cursor).outcome = .ok none) :
    (orReturn scan cursor).cursor = cursor := by
  rw [orReturn_apply] at hnone ⊢
  dsimp only at hnone ⊢
  rw [hnone]

/-! ### Moves that pass a known text -/

variable {cursor after : Cursor} {taken : Text}

theorem sliceFrom_of_passes (hpasses : cursor.Passes taken after) :
    sliceFrom cursor.offset after = .done ⟨cursor.buffer, cursor.offset, taken⟩ after := by
  simp only [sliceFrom, bind_apply, here_apply, Step.bind_done, hpasses.sliceFrom, attempt_ok]

theorem seek_of_ok {offset : Nat} (hseek : cursor.seek offset = .ok after) :
    seek offset cursor = .done () after := by
  simp only [seek, bind_apply, here_apply, Step.bind_done, hseek, attempt_ok, goTo_apply]

theorem seek_of_passes (hpasses : cursor.Passes taken after) :
    seek after.offset cursor = .done () after := seek_of_ok hpasses.seek

theorem commit_of_passes (hpasses : cursor.Passes taken after) :
    commit cursor.offset after.offset cursor =
      .done ⟨cursor.buffer, cursor.offset, taken⟩ after := by
  simp only [commit, bind_apply, seek_of_passes hpasses, Step.bind_done,
    sliceFrom_of_passes hpasses]

theorem failAt_of_passes (hpasses : cursor.Passes taken after) (error : Position → ScanError) :
    (failAt after.offset error : Scan α) cursor = .malformed (error after.position) after := by
  simp only [failAt, bind_apply, seek_of_passes hpasses, Step.bind_done, here_apply,
    malformed_apply]

end Scan

/-! ### The contract of a scan -/

namespace Cursor

/-- Where a skip from `cursor` may end without an error: where it was if it skipped nothing, and
after some text if it skipped something. -/
def Skipped (cursor : Cursor) (skipped : Bool) (after : Cursor) : Prop :=
  match skipped with
  | false => after = cursor
  | true => ∃ taken, taken ≠ [] ∧ cursor.Passes taken after

/-- Where a scan from `cursor` may end without an error. -/
def Found (cursor : Cursor) (found : Option Slice) (after : Cursor) : Prop :=
  cursor.Skipped found.isSome after

/-- Where a scan that gives the text it passed may end without an error. -/
def Reads (cursor : Cursor) (found : Option Slice) (after : Cursor) : Prop :=
  match found with
  | none => after = cursor
  | some slice =>
    ∃ taken, taken ≠ [] ∧ slice = ⟨cursor.buffer, cursor.offset, taken⟩ ∧
      cursor.Passes taken after

/-- Where a scan from `cursor` may end with an error: at the place of the error, after what was
passed. -/
def Stops (cursor : Cursor) (error : ScanError) (after : Cursor) : Prop :=
  after.position = error.position ∧ ∃ taken, cursor.Passes taken after

/-- A weaker bound for an error: the cursor is at its place, and that is not behind the start. -/
def FailsAt (cursor : Cursor) (error : ScanError) (after : Cursor) : Prop :=
  after.position = error.position ∧ cursor.offset ≤ after.offset

/-- A weaker bound for a skip: the cursor is in the same buffer, not behind the start, and beyond it
if something was skipped. Nothing is said about lines and columns. -/
structure Moves (cursor : Cursor) (skipped : Bool) (after : Cursor) : Prop where
  buffer_eq : after.buffer = cursor.buffer
  offset_le : cursor.offset ≤ after.offset
  offset_lt : skipped = true → cursor.offset < after.offset

/-- The second cursor has passed some text, which is not empty if something was skipped. -/
def Steps (cursor : Cursor) (skipped : Bool) (after : Cursor) : Prop :=
  ∃ taken, cursor.Passes taken after ∧ (skipped = true → taken ≠ [])

variable {cursor middle after : Cursor} {first second skipped : Bool} {error : ScanError}

theorem Reads.found {found : Option Slice} (hreads : cursor.Reads found after) :
    cursor.Found found after := by
  cases found with
  | none => exact hreads
  | some slice =>
    obtain ⟨taken, htaken, -, hpasses⟩ := hreads
    exact ⟨taken, htaken, hpasses⟩

theorem Stops.failsAt (hstops : cursor.Stops error after) : cursor.FailsAt error after := by
  obtain ⟨hposition, taken, hpasses⟩ := hstops
  exact ⟨hposition, hpasses.offset_le⟩

theorem Steps.moves (hsteps : cursor.Steps skipped after) : cursor.Moves skipped after := by
  obtain ⟨taken, hpasses, htaken⟩ := hsteps
  exact ⟨hpasses.buffer_eq, hpasses.offset_le, fun hyes => hpasses.offset_lt (htaken hyes)⟩

theorem Skipped.steps (hskipped : cursor.Skipped skipped after) : cursor.Steps skipped after := by
  cases skipped with
  | false =>
    obtain rfl : after = cursor := hskipped
    exact ⟨[], Passes.refl _, nofun⟩
  | true =>
    obtain ⟨taken, htaken, hpasses⟩ := hskipped
    exact ⟨taken, hpasses, fun _ => htaken⟩

theorem Skipped.moves (hskipped : cursor.Skipped skipped after) : cursor.Moves skipped after :=
  hskipped.steps.moves

theorem Skipped.trans (hfirst : cursor.Skipped first middle)
    (hsecond : middle.Skipped second after) :
    cursor.Skipped (first || second) after := by
  cases first with
  | false =>
    obtain rfl : middle = cursor := hfirst
    exact hsecond
  | true =>
    obtain ⟨taken, htaken, hpasses⟩ := hfirst
    obtain ⟨further, hfurther, -⟩ := hsecond.steps
    exact ⟨taken ++ further, List.append_ne_nil_of_left_ne_nil htaken _, hpasses.trans hfurther⟩

theorem Moves.trans (hfirst : cursor.Moves first middle) (hsecond : middle.Moves second after) :
    cursor.Moves (first || second) after := by
  refine ⟨hsecond.buffer_eq.trans hfirst.buffer_eq,
    Nat.le_trans hfirst.offset_le hsecond.offset_le, ?_⟩
  intro hyes
  rcases Bool.or_eq_true_iff.1 hyes with hyes | hyes
  · exact Nat.lt_of_lt_of_le (hfirst.offset_lt hyes) hsecond.offset_le
  · exact Nat.lt_of_le_of_lt hfirst.offset_le (hsecond.offset_lt hyes)

theorem Stops.after_passes {taken : Text} (hpasses : cursor.Passes taken middle)
    (hstops : middle.Stops error after) : cursor.Stops error after := by
  obtain ⟨hposition, further, hfurther⟩ := hstops
  exact ⟨hposition, taken ++ further, hpasses.trans hfurther⟩

theorem FailsAt.after_moves (hmoves : cursor.Moves skipped middle)
    (hfails : middle.FailsAt error after) :
    cursor.FailsAt error after :=
  ⟨hfails.1, Nat.le_trans hmoves.offset_le hfails.2⟩

theorem Moves.exists_piece (hmoves : cursor.Moves true after) :
    ∃ piece, piece ≠ [] ∧ cursor.rest = piece ++ after.rest := by
  obtain ⟨piece, hpiece⟩ := suffix_of_offset_le hmoves.buffer_eq hmoves.offset_le
  refine ⟨piece, ?_, hpiece.symm⟩
  rintro rfl
  have hcursor := cursor.offset_add_size_rest
  have hafter := after.offset_add_size_rest
  have hbeyond := hmoves.offset_lt rfl
  rw [List.nil_append] at hpiece
  rw [hmoves.buffer_eq, hpiece] at hafter
  omega

theorem Moves.length_rest_lt (hmoves : cursor.Moves true after) :
    after.rest.length < cursor.rest.length := by
  obtain ⟨piece, hpiece, hrest⟩ := hmoves.exists_piece
  have := List.length_pos_iff.2 hpiece
  rw [hrest, List.length_append]
  omega

end Cursor

end Lexkit
