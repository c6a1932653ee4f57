import Lexkit.Scan

/-!
# Loops of scans

A loop makes rounds, each where the one before it has stopped, until a round says that it was the
last one. Nothing here makes it end: a round may stay where it is or go backward, and the loop goes
on all the same. So a loop comes to a step or to nothing, and in the latter case it is stalled.

What a loop comes to is settled by its rounds (`Loops`), and a result carries the proof that it is
just that (`LoopResult`). So the rounds may be made without a proof that they end, and nothing has
to be known about how that is done. The first rounds, one for each character of the buffer and one
more, are made by recursion on the text, so that a loop that goes forward can be followed to its
end.
-/

namespace Lexkit

/-- What a round of a loop says. -/
inductive Round (α : Type) where
  /-- It was the last one, and the loop comes to this value. -/
  | last (value : α)
  /-- The loop goes on, and what it comes to is changed. -/
  | again (change : α → α)

/-- Goes on after a yes, and remembers it. -/
def Round.ofAnswer : Bool → Round Bool
  | true => again fun _ => true
  | false => last false

namespace Scan

variable {α : Type}

/-- Rounds from the cursor lead to one that halts or is the last, and the loop comes to the step. -/
inductive Loops (round : Scan (Round α)) : Cursor → Step α → Prop
  | halted {cursor : Cursor} {halt : Halt} (hhalt : (round cursor).outcome = .error halt) :
      Loops round cursor ⟨.error halt, (round cursor).cursor, (round cursor).events⟩
  | last {cursor : Cursor} {value : α} (hlast : (round cursor).outcome = .ok (.last value)) :
      Loops round cursor ⟨.ok value, (round cursor).cursor, (round cursor).events⟩
  | again {cursor : Cursor} {change : α → α} {step : Step α}
      (hagain : (round cursor).outcome = .ok (.again change))
      (hothers : Loops round (round cursor).cursor step) :
      Loops round cursor ((step.map change).after (round cursor).events)

section

variable {round : Scan (Round α)} {cursor : Cursor} {step : Step α}

theorem loops_iff_of_halted {halt : Halt} (hhalt : (round cursor).outcome = .error halt) :
    Loops round cursor step ↔
      step = ⟨.error halt, (round cursor).cursor, (round cursor).events⟩ := by
  constructor
  · intro hloops
    cases hloops with
    | halted hother => rw [Except.error.inj (hhalt.symm.trans hother)]
    | last hother => cases hhalt.symm.trans hother
    | again hother _ => cases hhalt.symm.trans hother
  · rintro rfl
    exact .halted hhalt

theorem loops_iff_of_last {value : α} (hlast : (round cursor).outcome = .ok (.last value)) :
    Loops round cursor step ↔ step = ⟨.ok value, (round cursor).cursor, (round cursor).events⟩ := by
  constructor
  · intro hloops
    cases hloops with
    | halted hother => cases hlast.symm.trans hother
    | last hother => rw [Round.last.inj (Except.ok.inj (hlast.symm.trans hother))]
    | again hother _ => cases hlast.symm.trans hother
  · rintro rfl
    exact .last hlast

theorem loops_iff_of_again {change : α → α}
    (hagain : (round cursor).outcome = .ok (.again change)) :
    Loops round cursor step ↔ ∃ others, Loops round (round cursor).cursor others ∧
      (others.map change).after (round cursor).events = step := by
  constructor
  · intro hloops
    cases hloops with
    | halted hother => cases hagain.symm.trans hother
    | last hother => cases hagain.symm.trans hother
    | again hother hothers =>
      rw [← Round.again.inj (Except.ok.inj (hagain.symm.trans hother))]
      exact ⟨_, hothers, rfl⟩
  · rintro ⟨others, hothers, rfl⟩
    exact .again hagain hothers

/-- A loop comes to one step only. -/
theorem Loops.unique {other : Step α} (hloops : Loops round cursor step)
    (hother : Loops round cursor other) : other = step := by
  induction hloops generalizing other with
  | halted hhalt => exact (loops_iff_of_halted hhalt).1 hother
  | last hlast => exact (loops_iff_of_last hlast).1 hother
  | again hagain _ ih =>
    obtain ⟨others, hothers, rfl⟩ := (loops_iff_of_again hagain).1 hother
    rw [ih hothers]

end

/-- The step that a loop comes to, or nothing where it comes to none. -/
structure LoopResult (round : Scan (Round α)) (cursor : Cursor) where
  step? : Option (Step α)
  step?_eq_some_iff : ∀ step, step? = some step ↔ Loops round cursor step

namespace LoopResult

variable (round : Scan (Round α))

instance (cursor : Cursor) : Nonempty (LoopResult round cursor) := by
  by_cases hloops : ∃ step, Loops round cursor step
  · obtain ⟨step, hloops⟩ := hloops
    refine ⟨some step, fun other => ⟨?_, fun hother => congrArg some (hother.unique hloops)⟩⟩
    rintro ⟨⟩
    exact hloops
  · exact ⟨none, fun step => ⟨nofun, fun hstep => absurd ⟨step, hstep⟩ hloops⟩⟩

/-- Makes one round, and the others after it where the loop goes on. -/
def oneRound (cursor : Cursor) (others : (place : Cursor) → LoopResult round place) :
    LoopResult round cursor :=
  let step := round cursor
  match hround : step.outcome with
  | .error halt => ⟨some ⟨.error halt, step.cursor, step.events⟩, fun _ => by
      rw [loops_iff_of_halted hround, Option.some_inj, eq_comm]⟩
  | .ok (.last value) => ⟨some ⟨.ok value, step.cursor, step.events⟩, fun _ => by
      rw [loops_iff_of_last hround, Option.some_inj, eq_comm]⟩
  | .ok (.again change) =>
    let rest := others step.cursor
    ⟨rest.step?.map fun others => (others.map change).after step.events, fun _ => by
      simp only [loops_iff_of_again hround, Option.map_eq_some_iff, rest.step?_eq_some_iff]
      rfl⟩

/-- Makes rounds without a bound on their number. -/
def roundsOn : (cursor : Cursor) → LoopResult round cursor :=
  WellFounded.extrinsicFix (C := LoopResult round) (fun _ _ => True) fun cursor others =>
    oneRound round cursor fun place => others place trivial

/-- Makes a round for each character of a text and one more, and goes on without a bound. -/
def rounds : Text → (cursor : Cursor) → LoopResult round cursor
  | [], cursor => oneRound round cursor (roundsOn round)
  | _ :: text, cursor => oneRound round cursor (rounds text)

end LoopResult

/-- Makes rounds until one halts or is the last. Nothing comes of a loop that never ends. -/
def loop? (round : Scan (Round α)) (cursor : Cursor) : Option (Step α) :=
  (LoopResult.rounds round cursor.buffer.text cursor).step?

def loop (round : Scan (Round α)) : Scan α := fun cursor =>
  (loop? round cursor).getD (.fault .stalled cursor)

def answered (round : Scan Bool) : Scan (Round Bool) := do
  return .ofAnswer (← round)

/-- Makes rounds until one answers no, and answers whether any answered yes. -/
def untilNo (round : Scan Bool) : Scan Bool := loop round.answered

end Scan

end Lexkit
