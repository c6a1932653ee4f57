import Lexkit.Proofs.Scan
import Lexkit.Scan.Loop

/-!
# Loops of scans

A loop ends exactly where finitely many rounds lead to one that halts or is the last (`Loops`), and
what it comes to is told by an induction on these rounds. Where every round that goes on leaves less
to read (`Advances`) there are such rounds from every cursor. A loop that never ends is stalled, so
a property of every run of a loop has one case more, and two loops are compared by comparing their
rounds.
-/

namespace Lexkit

variable {α β : Type}

namespace Scan

variable {round : Scan (Round α)} {cursor : Cursor} {step : Step α}

/-! ### The rounds of one loop -/

theorem loop?_eq_some_iff : loop? round cursor = some step ↔ Loops round cursor step :=
  (LoopResult.rounds round cursor.buffer.text cursor).step?_eq_some_iff step

theorem Loops.loop_eq (hloops : Loops round cursor step) : loop round cursor = step := by
  rw [loop, loop?_eq_some_iff.2 hloops, Option.getD_some]

theorem loop_eq_stalled (hnever : ∀ step, ¬ Loops round cursor step) :
    loop round cursor = .fault .stalled cursor := by
  cases hloop : loop? round cursor with
  | none => rw [loop, hloop, Option.getD_none]
  | some step => exact absurd (loop?_eq_some_iff.1 hloop) (hnever step)

theorem loops_or_stalled (round : Scan (Round α)) (cursor : Cursor) :
    Loops round cursor (loop round cursor) ∨ loop round cursor = .fault .stalled cursor := by
  by_cases hloops : ∃ step, Loops round cursor step
  · obtain ⟨step, hloops⟩ := hloops
    exact .inl (hloops.loop_eq.symm ▸ hloops)
  · exact .inr (loop_eq_stalled (not_exists.1 hloops))

/-- A loop that is not stalled comes to what its rounds lead to. -/
theorem loops_of_not_stalled (hends : (loop round cursor).outcome ≠ .error (.fault .stalled)) :
    Loops round cursor (loop round cursor) :=
  (loops_or_stalled round cursor).resolve_right fun hstalled => hends (by rw [hstalled]; rfl)

theorem loop_of_halted {halt : Halt} (hhalt : (round cursor).outcome = .error halt) :
    loop round cursor = ⟨.error halt, (round cursor).cursor, (round cursor).events⟩ :=
  (Loops.halted hhalt).loop_eq

theorem loop_of_last {value : α} (hlast : (round cursor).outcome = .ok (.last value)) :
    loop round cursor = ⟨.ok value, (round cursor).cursor, (round cursor).events⟩ :=
  (Loops.last hlast).loop_eq

/-! ### Loops that end -/

/-- Every round after which the loop goes on leaves less to read. -/
def Advances (round : Scan (Round α)) : Prop :=
  ∀ cursor change, (round cursor).outcome = .ok (.again change) →
    (round cursor).cursor.rest.length < cursor.rest.length

namespace Advances

variable (hadvances : Advances round)
include hadvances

theorem exists_loops (cursor : Cursor) : ∃ step, Loops round cursor step := by
  induction hlength : cursor.rest.length using Nat.strongRecOn generalizing cursor with
  | _ length ih =>
    cases houtcome : (round cursor).outcome with
    | error halt => exact ⟨_, .halted houtcome⟩
    | ok said =>
      cases said with
      | last value => exact ⟨_, .last houtcome⟩
      | again change =>
        obtain ⟨step, hothers⟩ := ih _ (hlength ▸ hadvances cursor change houtcome) _ rfl
        exact ⟨_, .again houtcome hothers⟩

theorem loops_loop (cursor : Cursor) : Loops round cursor (loop round cursor) := by
  obtain ⟨step, hloops⟩ := hadvances.exists_loops cursor
  exact hloops.loop_eq.symm ▸ hloops

theorem loop_of_again {change : α → α} (hagain : (round cursor).outcome = .ok (.again change)) :
    loop round cursor =
      ((loop round (round cursor).cursor).map change).after (round cursor).events :=
  (Loops.again hagain (hadvances.loops_loop _)).loop_eq

/-- What holds of every last round, and of a round and the rounds after it, holds of the loop. -/
theorem loop_ends {good : Cursor → α → Cursor → Prop} {bad : Cursor → ScanError → Cursor → Prop}
    (hround : ∀ cursor, (round cursor).Ends
      (fun said middle => match said with
        | .last value => good cursor value middle
        | .again change =>
          (∀ value after, good middle value after → good cursor (change value) after) ∧
            ∀ error after, bad middle error after → bad cursor error after)
      (bad cursor))
    (cursor : Cursor) : (loop round cursor).Ends (good cursor) (bad cursor) := by
  have hloops := hadvances.loops_loop cursor
  generalize loop round cursor = step at hloops
  induction hloops with
  | @halted cursor halt hhalt =>
    have hends := hround cursor
    cases halt with
    | malformed error => exact hends.of_malformed hhalt
    | fault reason => exact absurd hhalt (hends.faultless reason)
  | @last cursor value hlast => exact (hround cursor).of_ok hlast
  | @again cursor change step hagain _ ih =>
    obtain ⟨hgood, hbad⟩ := (hround cursor).of_ok hagain
    rw [Step.ends_after]
    exact Step.Ends.map (ih.mono (fun _ _ hvalue => hvalue) hbad) hgood

end Advances

/-! ### Two loops -/

end Scan

/-- Two rounds that end their loops with related steps, or go on at related cursors with related
changes. -/
inductive Round.Alike (R : Cursor → Cursor → Prop) (S : Step α → Step β → Prop) :
    Step (Round α) → Step (Round β) → Prop
  | halted {halt halt' : Halt} {cursor cursor' : Cursor} {events events' : List Event}
      (hsteps : S ⟨.error halt, cursor, events⟩ ⟨.error halt', cursor', events'⟩) :
      Alike R S ⟨.error halt, cursor, events⟩ ⟨.error halt', cursor', events'⟩
  | last {value : α} {value' : β} {cursor cursor' : Cursor} {events events' : List Event}
      (hsteps : S ⟨.ok value, cursor, events⟩ ⟨.ok value', cursor', events'⟩) :
      Alike R S ⟨.ok (.last value), cursor, events⟩ ⟨.ok (.last value'), cursor', events'⟩
  | again {change : α → α} {change' : β → β} {cursor cursor' : Cursor} {events events' : List Event}
      (hcursor : R cursor cursor')
      (hsteps : ∀ step other, S step other →
        S ((step.map change).after events) ((other.map change').after events')) :
      Alike R S ⟨.ok (.again change), cursor, events⟩ ⟨.ok (.again change'), cursor', events'⟩

theorem Round.Alike.symm {R : Cursor → Cursor → Prop} {S : Step α → Step β → Prop}
    {step : Step (Round α)} {other : Step (Round β)} (halike : Alike R S step other) :
    Alike (fun cursor place => R place cursor) (fun step other => S other step) other step := by
  cases halike with
  | halted hsteps => exact .halted hsteps
  | last hsteps => exact .last hsteps
  | again hcursor hsteps => exact .again hcursor fun step other => hsteps other step

namespace Scan

variable {R : Cursor → Cursor → Prop} {S : Step α → Step β → Prop}
  {left : Scan (Round α)} {right : Scan (Round β)}

theorem Loops.exists_alike
    (hround : ∀ {cursor place}, R cursor place → Round.Alike R S (left cursor) (right place))
    {cursor place : Cursor} {step : Step α} (hloops : Loops left cursor step)
    (hplace : R cursor place) : ∃ other, Loops right place other ∧ S step other := by
  induction hloops generalizing place with
  | @halted cursor halt hhalt =>
    have halike := hround hplace
    generalize left cursor = first at hhalt halike
    generalize hsecond : right place = second at halike
    cases halike with
    | halted hsteps =>
      obtain rfl := Except.error.inj hhalt
      exact ⟨_, .halted (by rw [hsecond]), by rwa [hsecond]⟩
    | last => cases hhalt
    | again => cases hhalt
  | @last cursor value hlast =>
    have halike := hround hplace
    generalize left cursor = first at hlast halike
    generalize hsecond : right place = second at halike
    cases halike with
    | halted => cases hlast
    | last hsteps =>
      obtain rfl := Round.last.inj (Except.ok.inj hlast)
      exact ⟨_, .last (by rw [hsecond]), by rwa [hsecond]⟩
    | again => cases hlast
  | @again cursor change step hagain _ ih =>
    have halike := hround hplace
    generalize left cursor = first at hagain halike ih
    generalize hsecond : right place = second at halike
    cases halike with
    | halted => cases hagain
    | last => cases hagain
    | again hcursor hsteps =>
      obtain rfl := Round.again.inj (Except.ok.inj hagain)
      obtain ⟨other, hothers, hstep⟩ := ih hcursor
      refine ⟨_, .again (by rw [hsecond]) (by rwa [hsecond]), ?_⟩
      rw [hsecond]
      exact hsteps step other hstep

/-- Loops whose rounds are alike come to related steps, or never end, both of them. -/
theorem loop_alike
    (hround : ∀ {cursor place}, R cursor place → Round.Alike R S (left cursor) (right place))
    (hnever : ∀ {cursor place}, R cursor place →
      S (.fault .stalled cursor) (.fault .stalled place))
    {cursor place : Cursor} (hplace : R cursor place) :
    S (loop left cursor) (loop right place) := by
  by_cases hloops : ∃ step, Loops left cursor step
  · obtain ⟨step, hloops⟩ := hloops
    obtain ⟨other, hothers, hsteps⟩ := hloops.exists_alike hround hplace
    rwa [hloops.loop_eq, hothers.loop_eq]
  · have hothers : ∀ other, ¬ Loops right place other := by
      intro other hothers
      obtain ⟨step, hloop, -⟩ := hothers.exists_alike (fun hplace => (hround hplace).symm) hplace
      exact hloops ⟨step, hloop⟩
    rw [loop_eq_stalled (not_exists.1 hloops), loop_eq_stalled hothers]
    exact hnever hplace

/-- A loop of quiet rounds tells what the loop tells above the trace level. -/
theorem quiet_loop {round quieted : Scan (Round α)}
    (hround : ∀ cursor, quieted cursor = (round cursor).quiet) (cursor : Cursor) :
    loop quieted cursor = (loop round cursor).quiet := by
  refine loop_alike (R := Eq) (S := fun quieted step => quieted = step.quiet) ?_ ?_ rfl
  · rintro cursor _ rfl
    rw [hround]
    generalize round cursor = step
    obtain ⟨outcome, after, events⟩ := step
    cases outcome with
    | error halt => exact .halted rfl
    | ok said =>
      cases said with
      | last value => exact .last rfl
      | again change =>
        refine .again rfl ?_
        rintro _ step rfl
        rw [Step.quiet_after, Step.quiet_map]
  · rintro cursor _ rfl
    rfl

/-! ### Rounds that answer yes or no -/

section

variable {asks : Scan Bool}

theorem answered_apply (asks : Scan Bool) (cursor : Cursor) :
    asks.answered cursor = (asks cursor).map .ofAnswer := Step.bind_pure _ _

theorem outcome_answered_of_true (hyes : (asks cursor).outcome = .ok true) :
    (asks.answered cursor).outcome = .ok (.again fun _ => true) := by
  rw [answered_apply, Step.map, hyes]
  rfl

theorem outcome_of_answered {change : Bool → Bool}
    (hagain : (asks.answered cursor).outcome = .ok (.again change)) :
    (asks cursor).outcome = .ok true ∧ change = fun _ => true := by
  rw [answered_apply] at hagain
  obtain ⟨answer, hanswer, hsaid⟩ := Step.outcome_map_eq_ok.1 hagain
  cases answer with
  | false => cases hsaid
  | true => exact ⟨hanswer, (Round.again.inj hsaid).symm⟩

/-- A round that does not answer yes ends the loop, which comes to what the round comes to. -/
theorem loops_of_not_true (hno : (asks cursor).outcome ≠ .ok true) :
    Loops asks.answered cursor (asks cursor) := by
  have hround := answered_apply asks cursor
  generalize asks cursor = step at hno hround
  obtain ⟨outcome, after, events⟩ := step
  cases outcome with
  | error halt =>
    have hloops := Loops.halted (congrArg Step.outcome hround)
    rwa [hround] at hloops
  | ok answer =>
    cases answer with
    | true => exact absurd rfl hno
    | false =>
      have hloops := Loops.last (congrArg Step.outcome hround)
      rwa [hround] at hloops

theorem untilNo_of_not_true (hno : (asks cursor).outcome ≠ .ok true) :
    untilNo asks cursor = asks cursor :=
  (loops_of_not_true hno).loop_eq

/-- How the rounds lead to the end of the loop: one does not answer yes, or one does and others
follow. -/
theorem Loops.answered_induction {P : Cursor → Step Bool → Prop}
    (last : ∀ cursor, (asks cursor).outcome ≠ .ok true → P cursor (asks cursor))
    (again : ∀ cursor step, (asks cursor).outcome = .ok true → P (asks cursor).cursor step →
      P cursor ((step.map fun _ => true).after (asks cursor).events))
    {cursor : Cursor} {step : Step Bool} (hloops : Loops asks.answered cursor step) :
    P cursor step := by
  induction hloops with
  | @halted cursor halt hhalt =>
    have hno : (asks cursor).outcome ≠ .ok true := fun hyes => by
      cases hhalt.symm.trans (outcome_answered_of_true hyes)
    rw [(Loops.halted hhalt).loop_eq.symm.trans (untilNo_of_not_true hno)]
    exact last cursor hno
  | @last cursor value hlast =>
    have hno : (asks cursor).outcome ≠ .ok true := fun hyes => by
      cases hlast.symm.trans (outcome_answered_of_true hyes)
    rw [(Loops.last hlast).loop_eq.symm.trans (untilNo_of_not_true hno)]
    exact last cursor hno
  | @again cursor change step hagain _ ih =>
    obtain ⟨hyes, rfl⟩ := outcome_of_answered hagain
    rw [answered_apply] at ih ⊢
    exact again cursor step hyes ih

theorem untilNo_induction {P : Cursor → Step Bool → Prop}
    (stalled : ∀ cursor, P cursor (.fault .stalled cursor))
    (last : ∀ cursor, (asks cursor).outcome ≠ .ok true → P cursor (asks cursor))
    (again : ∀ cursor step, (asks cursor).outcome = .ok true → P (asks cursor).cursor step →
      P cursor ((step.map fun _ => true).after (asks cursor).events))
    (cursor : Cursor) : P cursor (untilNo asks cursor) := by
  rcases loops_or_stalled asks.answered cursor with hloops | hstalled
  · exact hloops.answered_induction last again
  · rw [untilNo, hstalled]
    exact stalled cursor

theorem advances_answered (hless : ∀ cursor, (asks cursor).outcome = .ok true →
    (asks cursor).cursor.rest.length < cursor.rest.length) : Advances asks.answered := by
  intro cursor change hagain
  have hyes := (outcome_of_answered hagain).1
  rw [answered_apply]
  exact hless cursor hyes

theorem untilNo_of_true (hadvances : Advances asks.answered)
    (hyes : (asks cursor).outcome = .ok true) :
    untilNo asks cursor =
      ((untilNo asks (asks cursor).cursor).map fun _ => true).after (asks cursor).events := by
  have hloop := hadvances.loop_of_again (outcome_answered_of_true hyes)
  rwa [answered_apply] at hloop

theorem quiet_untilNo {quieted : Scan Bool}
    (hround : ∀ cursor, quieted cursor = (asks cursor).quiet) (cursor : Cursor) :
    untilNo quieted cursor = (untilNo asks cursor).quiet := by
  refine quiet_loop (fun place => ?_) cursor
  rw [answered_apply, answered_apply, hround, Step.quiet_map]

end

end Scan

end Lexkit
